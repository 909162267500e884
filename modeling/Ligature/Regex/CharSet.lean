import Ligature.Unicode.Classes

/-!
# Sets of characters

The classes of a pattern as a small algebra. `CharSet.mem` decides membership and follows the
structure of the set; `CharSet.intervals` lists the same set as ascending intervals of code points.
-/
namespace Ligature.Regex

inductive NamedSet where
  | word
  | digit
  | space
  | any
  | ascii
  | assigned
  | category (ks : List Unicode.Category)
  | script (key : String)
  | property (p : Unicode.Property)
  deriving DecidableEq, Repr

def NamedSet.mem : NamedSet → Char → Bool
  | .word, c => Unicode.isWord c
  | .digit, c => Unicode.isDigit c
  | .space, c => Unicode.isSpace c
  | .any, _ => true
  | .ascii, c => c.toNat < 128
  | .assigned, c => Unicode.isAssigned c
  | .category ks, c => ks.any (·.contains c)
  | .script key, c => (Unicode.Script.find? key).any (·.contains c)
  | .property p, c => p.contains c

def NamedSet.tables : NamedSet → List (List (Nat × Nat))
  | .word => Unicode.wordTables.map (·.toList)
  | .digit => [Unicode.Category.decimalNumber.table.toList]
  | .space => [Unicode.Property.whiteSpace.table.toList]
  | .any => [[(0, 0x10FFFF)]]
  | .ascii => [[(0, 0x7F)]]
  | .assigned => Unicode.Category.all.map (·.table.toList)
  | .category ks => ks.map (·.table.toList)
  | .script key => (Unicode.Script.find? key).toList.map (·.toList)
  | .property p => [p.table.toList]

inductive CharSet where
  | none
  | range (lo hi : Char)
  | named (s : NamedSet)
  | union (a b : CharSet)
  | inter (a b : CharSet)
  | diff (a b : CharSet)
  | symm (a b : CharSet)
  | compl (a : CharSet)
  /-- The characters that are a case variant of a member. -/
  | fold (a : CharSet)
  /-- The characters that are a member, or one of whose letter cases within ASCII is. -/
  | foldAscii (a : CharSet)
  /-- The same set, written as one of bytes. -/
  | bytes (a : CharSet)
  deriving DecidableEq, Repr

namespace CharSet

def single (c : Char) : CharSet := .range c c

def ofList (cs : List Char) : CharSet := cs.foldr (fun c s => .union (single c) s) .none

def full : CharSet := .named .any

def asciiVariants (c : Char) : List Char := [c, c.toLower, c.toUpper]

def mem : CharSet → Char → Bool
  | .none, _ => false
  | .range lo hi, c => lo ≤ c && c ≤ hi
  | .named s, c => s.mem c
  | .union a b, c => a.mem c || b.mem c
  | .inter a b, c => a.mem c && b.mem c
  | .diff a b, c => a.mem c && !b.mem c
  | .symm a b, c => a.mem c != b.mem c
  | .compl a, c => !a.mem c
  | .fold a, c => (Unicode.caseVariants c).any a.mem
  | .foldAscii a, c => (asciiVariants c).any a.mem
  | .bytes a, c => a.mem c

@[simp] theorem mem_single (a c : Char) : (single a).mem c = decide (a = c) := by
  simp only [single, mem]
  by_cases h : a = c
  · simp [h]
  · simp only [h, decide_false, Bool.and_eq_false_iff, decide_eq_false_iff_not, Char.not_le]
    rcases Std.lt_trichotomy a c with h' | h' | h'
    · exact .inr h'
    · exact absurd h' h
    · exact .inl h'

end CharSet

/-! ### Intervals -/

namespace Intervals

def insert (r : Nat × Nat) : List (Nat × Nat) → List (Nat × Nat)
  | [] => [r]
  | x :: rest => if r.1 ≤ x.1 then r :: x :: rest else x :: insert r rest

def joinOnto (r : Nat × Nat) : List (Nat × Nat) → List (Nat × Nat)
  | [] => [r]
  | x :: rest =>
    if x.1 ≤ r.2 + 1 then joinOnto (r.1, max r.2 x.2) rest else r :: joinOnto x rest

def join : List (Nat × Nat) → List (Nat × Nat)
  | [] => []
  | r :: rest => joinOnto r rest

def ofRanges (rs : List (Nat × Nat)) : List (Nat × Nat) :=
  join ((rs.filter fun r => r.1 ≤ r.2).foldr insert [])

def union (a b : List (Nat × Nat)) : List (Nat × Nat) :=
  join (a.foldr insert b)

/-- What comes next to a character skips the surrogates, which are no characters. -/
def after (n : Nat) : Nat := if 0xD7FF ≤ n ∧ n < 0xE000 then 0xE000 else n + 1

def before (n : Nat) : Nat := if 0xD7FF < n ∧ n ≤ 0xE000 then 0xD7FF else n - 1

def complFrom (start : Nat) : List (Nat × Nat) → List (Nat × Nat)
  | [] => if start ≤ 0x10FFFF then [(start, 0x10FFFF)] else []
  | (lo, hi) :: rest =>
    if start < lo ∧ start ≤ before lo then (start, before lo) :: complFrom (after hi) rest
    else complFrom (after hi) rest

def compl (a : List (Nat × Nat)) : List (Nat × Nat) := complFrom 0 a

def inter (a b : List (Nat × Nat)) : List (Nat × Nat) := compl (union (compl a) (compl b))

end Intervals

namespace CharSet

/-- Adds to the intervals of `a` those of the `codes` that have a variant in `a`. -/
def withVariants (variants : Char → List Char) (a : CharSet) (base : List (Nat × Nat))
    (codes : List Nat) : List (Nat × Nat) :=
  let extra := codes.filter fun n => (variants (Char.ofNat n)).any a.mem
  Intervals.union base (Intervals.ofRanges (extra.map fun n => (n, n)))

def intervals : CharSet → List (Nat × Nat)
  | .none => []
  | .range lo hi => if lo ≤ hi then [(lo.toNat, hi.toNat)] else []
  | .named s => s.tables.foldl (fun rs table => Intervals.union rs (Intervals.ofRanges table)) []
  | .union a b => Intervals.union a.intervals b.intervals
  | .inter a b => Intervals.inter a.intervals b.intervals
  | .diff a b => Intervals.inter a.intervals (Intervals.compl b.intervals)
  | .symm a b =>
    let x := a.intervals
    let y := b.intervals
    Intervals.union (Intervals.inter x (Intervals.compl y)) (Intervals.inter y (Intervals.compl x))
  | .compl a => Intervals.compl a.intervals
  | .fold a => withVariants Unicode.caseVariants a a.intervals Unicode.casedCodes
  | .foldAscii a => withVariants asciiVariants a a.intervals
      (List.range' 0x41 26 ++ List.range' 0x61 26)
  | .bytes a => a.intervals

def isSingle (s : CharSet) : Bool :=
  match s.intervals with
  | [(lo, hi)] => lo == hi
  | _ => false

/-- Whether a set is taken as one of bytes; case is ignored within ASCII only among bytes. -/
def ofBytes : CharSet → Bool
  | .bytes _ | .foldAscii _ => true
  | _ => false

/-- Whether two sets are taken as the same class: they have the same members, and both are classes
of characters or both of bytes. A set of one member is no class but that member, and a class of
nothing is the same either way. -/
def same (s t : CharSet) : Bool :=
  s.intervals == t.intervals && (s.ofBytes == t.ofBytes || s.isSingle || s.intervals.isEmpty)

end CharSet

end Ligature.Regex
