import Ligature.Regex.Pattern

/-!
# Matching

How a pattern consumes text. `Pattern.walk` lists the places where a match that starts at a given
place may end, best first: the first one of a choice before the second, one more round of a greedy
repetition before none. Of the ways to reach one place only the best is kept, so a walk has at most
one result per place.

A choice that has been passed since the last character was consumed is not passed again. This is
what ends a repetition whose body consumes nothing, and it is felt in what such a body may do in
its later rounds. `Marks` remembers, along the tree of the pattern, where each choice was passed
last.
-/
namespace Ligature.Regex

/-- A place in a text: the character before it and the text behind it. -/
structure Cursor where
  before : Option Char
  rest : List Char
  deriving DecidableEq, Repr

namespace Cursor

def start (text : List Char) : Cursor := ⟨none, text⟩

/-- How many characters are still to come; within one text this tells places apart. -/
def left (c : Cursor) : Nat := c.rest.length

end Cursor

/-! ### Look-arounds -/

namespace Look

def isWord (unicode : Bool) (c : Char) : Bool :=
  if unicode then Unicode.isWord c else c.isAlphanum || c == '_'

/-- Whether a condition holds between two neighbours; `none` is the end of the text. -/
def holdsBetween (l : Look) (before after : Option Char) : Bool :=
  match l with
  | .lineStart .text => before.isNone
  | .lineStop .text => after.isNone
  | .lineStart .lineFeed => before.isNone || before == some '\n'
  | .lineStop .lineFeed => after.isNone || after == some '\n'
  | .lineStart .crlf =>
    before.isNone || before == some '\n' || (before == some '\r' && after != some '\n')
  | .lineStop .crlf =>
    after.isNone || after == some '\r' || (after == some '\n' && before != some '\r')
  | .word k unicode =>
    let b := before.any (isWord unicode)
    let a := after.any (isWord unicode)
    match k with
    | .boundary => b != a
    | .notBoundary => b == a
    | .start => !b && a
    | .stop => b && !a
    | .startHalf => !b
    | .stopHalf => !a

def holds (l : Look) (c : Cursor) : Bool := l.holdsBetween c.before c.rest.head?

end Look

/-! ### Sets of places -/

/-- A set of places, each given by the number of characters still to come, as the bits of a
number. -/
structure Places where
  bits : Nat
  deriving DecidableEq, Repr

namespace Places

def empty : Places := ⟨0⟩

def contains (s : Places) (n : Nat) : Bool := s.bits.testBit n

def insert (s : Places) (n : Nat) : Places := ⟨s.bits ||| (1 <<< n)⟩

@[simp] theorem contains_empty (n : Nat) : empty.contains n = false := by
  simp [empty, contains]

@[simp] theorem contains_insert (s : Places) (n m : Nat) :
    (s.insert n).contains m = (s.contains m || decide (m = n)) := by
  simp only [insert, contains, Nat.testBit_or, Nat.one_shiftLeft, Nat.testBit_two_pow]
  congr 1
  exact decide_eq_decide.2 eq_comm

end Places

/-! ### Walks -/

/-- Where the choices of a pattern were passed last, in the shape of its tree. -/
inductive Marks where
  | fresh
  | node (passed : Option Nat) (left right : Marks)
  deriving DecidableEq, Repr

namespace Marks

def passed : Marks → Option Nat
  | .fresh => none
  | .node p _ _ => p

def left : Marks → Marks
  | .fresh => .fresh
  | .node _ l _ => l

def right : Marks → Marks
  | .fresh => .fresh
  | .node _ _ r => r

def bars (m : Marks) (c : Cursor) : Bool := m.passed == some c.left

end Marks

abbrev Ends := List (Cursor × Marks)

abbrev Step := Marks → Cursor → Ends

/-- Keeps the best way to each place. -/
def Ends.best (ends : Ends) (seen : Places) : Ends :=
  match ends with
  | [] => []
  | e :: rest =>
    if seen.contains e.1.left then Ends.best rest seen
    else e :: Ends.best rest (seen.insert e.1.left)

namespace Step

def andThen (a b : Step) : Step := fun m c =>
  Ends.best ((a m.left c).flatMap fun (c, l) =>
    (b m.right c).map fun (c, r) => (c, .node none l r)) .empty

def orElse (a b : Step) : Step := fun m c =>
  if m.bars c then []
  else
    let here := some c.left
    Ends.best (((a m.left c).map fun (c, l) => (c, .node here l m.right)) ++
      (b m.right c).map fun (c, r) => (c, .node here m.left r)) .empty

def stay : Step := fun m c => [(c, m)]

def times (a : Step) : Nat → Step
  | 0 => stay
  | n + 1 => andThen (times a n) a

/-- What a loop has found: the places where it stood between two rounds, and its ends, best
last. -/
structure Rounds where
  stood : Places
  ends : Ends

/-- Stands at a place between two rounds: goes on with the body or stops here, in the order that
greed says. One round per character of `fuel`. -/
def between (body : Step) (greedy : Bool) : Nat → Rounds → Marks → Cursor → Rounds
  | 0, found, _, _ => found
  | fuel + 1, found, m, c =>
    if m.bars c || found.stood.contains c.left then found
    else
      let found : Rounds := { found with stood := found.stood.insert c.left }
      let here := some c.left
      let go (found : Rounds) : Rounds := (body m.left c).foldl (fun found e =>
        between body greedy fuel found (.node here e.2 .fresh) e.1) found
      let stop (found : Rounds) : Rounds :=
        { found with ends := (c, .node here m.left .fresh) :: found.ends }
      if greedy then stop (go found) else go (stop found)

def star (body : Step) (greedy : Bool) : Step := fun m c =>
  (between body greedy (c.left + 1) ⟨.empty, []⟩ m c).ends.reverse

def plus (body : Step) (greedy : Bool) : Step := fun m c =>
  ((body m.left c).foldl (fun found e =>
    between body greedy (e.1.left + 1) found (.node m.passed e.2 .fresh) e.1)
    ⟨.empty, []⟩).ends.reverse

def optional (body : Step) (greedy : Bool) : Step :=
  if greedy then orElse body stay else orElse stay body

/-- Stands before the first of `n` optional rounds, each of which may only follow the one before
it. `stood` has, for every round still open, the places where the loop stood before it; the ends
have the best last. -/
def before (body : Step) (greedy : Bool) :
    Nat → List Places × Ends → (Marks → Marks) → Marks → Cursor → List Places × Ends
  | 0, (stood, ends), wrap, m, c => (stood, (c, wrap m) :: ends)
  | n + 1, (stood, ends), wrap, m, c =>
    let (s, later) := (stood.headD .empty, stood.tail)
    if m.bars c || s.contains c.left then (stood, ends)
    else
      let here := some c.left
      let go (found : List Places × Ends) : List Places × Ends :=
        (body m.left c).foldl (fun found e =>
          before body greedy n found (fun r => wrap (.node here e.2 r)) m.right e.1) found
      let stop (found : List Places × Ends) : List Places × Ends :=
        (found.1, (c, wrap (.node here m.left m.right)) :: found.2)
      let (later, ends) := if greedy then stop (go (later, ends)) else go (stop (later, ends))
      (s.insert c.left :: later, ends)

def upTo (body : Step) (greedy : Bool) (n : Nat) : Step := fun m c =>
  Ends.best (before body greedy n ([], []) id m c).2.reverse .empty

end Step

def Pattern.walk : Pattern → Step
  | .empty => .stay
  | .set s => fun m c => match c.rest with
    | [] => []
    | x :: rest => if s.mem x then [(⟨some x, rest⟩, m)] else []
  | .look l => fun m c => if l.holds c then [(c, m)] else []
  | .cat a b => .andThen a.walk b.walk
  | .alt a b => .orElse a.walk b.walk
  | .capture body => body.walk
  | .rep min none greedy body =>
    if min = 0 then
      if body.consumes then .star body.walk greedy else .optional (.plus body.walk greedy) greedy
    else .andThen (.times body.walk (min - 1)) (.plus body.walk greedy)
  | .rep min (some max) greedy body =>
    .andThen (.times body.walk min) (.upTo body.walk greedy (max - min))

namespace Pattern

def matchEnd? (p : Pattern) (c : Cursor) : Option Cursor := (p.walk .fresh c).head?.map (·.1)

structure Found where
  before : List Char
  text : List Char
  deriving DecidableEq, Repr

/-- The leftmost match in the text behind `skipped`, which has its newest character first. -/
def findFrom (p : Pattern) (skipped : List Char) : List Char → Option Found
  | [] => (p.matchEnd? ⟨skipped.head?, []⟩).map fun _ => ⟨skipped.reverse, []⟩
  | x :: rest => match p.matchEnd? ⟨skipped.head?, x :: rest⟩ with
    | some stop => some ⟨skipped.reverse, (x :: rest).take (rest.length + 1 - stop.left)⟩
    | none => findFrom p (x :: skipped) rest

def find (p : Pattern) (text : List Char) : Option Found := p.findFrom [] text

end Pattern

end Ligature.Regex
