import Ligature.Text.Split

/-!
# Range tables

Sets of characters given as ranges of code points. The tables of this folder are written as lines
of hexadecimal numbers: `41-5A` is a range, `AA` a range of one, and `4B+6B` a class of code
points that belong together.
-/
namespace Ligature.Unicode

def hexDigit? (c : Char) : Option Nat :=
  if '0' ≤ c ∧ c ≤ '9' then some (c.toNat - '0'.toNat)
  else if 'A' ≤ c ∧ c ≤ 'F' then some (c.toNat - 'A'.toNat + 10)
  else if 'a' ≤ c ∧ c ≤ 'f' then some (c.toNat - 'a'.toNat + 10)
  else none

/-- The number that a run of hexadecimal digits writes; characters of other kinds do not count. -/
def hexValue (cs : List Char) : Nat :=
  cs.foldl (fun n c => match hexDigit? c with
    | some d => 16 * n + d
    | none => n) 0

/-- Ranges of code points, each with its first and its last member, in ascending order. -/
structure RangeTable where
  ranges : Array (Nat × Nat)

namespace RangeTable

private def readRange (cs : List Char) : Nat × Nat :=
  match Text.splitOn '-' cs with
  | [lo, hi] => (hexValue lo, hexValue hi)
  | _ => (hexValue cs, hexValue cs)

def ofLines (lines : List String) : RangeTable :=
  ⟨(lines.flatMap fun l => (Text.splitOn ' ' l.toList).map readRange).toArray⟩

def contains (t : RangeTable) (c : Char) : Bool :=
  t.ranges.any fun r => r.1 ≤ c.toNat && c.toNat ≤ r.2

def toList (t : RangeTable) : List (Nat × Nat) := t.ranges.toList

end RangeTable

def CodeClasses.ofLines (lines : List String) : Array (List Nat) :=
  (lines.flatMap fun l => (Text.splitOn ' ' l.toList).map fun cls =>
    (Text.splitOn '+' cls).map hexValue).toArray

end Ligature.Unicode
