import Ligature.Unicode.RangeTable

/-!
# Places in a YAML text

The characters that matter to the layout of a YAML text, and a place in such a text: what is still
to come, together with the line, the column and the number of characters passed.
-/
namespace Ligature.Yaml

/-! ### Characters -/

def isBlank (c : Char) : Bool := c == ' ' || c == '\t'

def isBreak (c : Char) : Bool :=
  c == '\n' || c == '\r' || c == '\x85' || c == '\u2028' || c == '\u2029'

def isNameChar (c : Char) : Bool := c.isAlphanum || c == '_' || c == '-'

def isAllowed (c : Char) : Bool :=
  let n := c.toNat
  n == 9 || n == 10 || n == 13 || n == 0x85 || (0x20 ≤ n && n ≤ 0x7E) ||
    (0xA0 ≤ n && n ≤ 0xFFFD) || 0x10000 ≤ n

def startsBlank : List Char → Bool
  | [] => true
  | c :: _ => isBlank c || isBreak c

def startsBreak : List Char → Bool
  | [] => true
  | c :: _ => isBreak c

def startsMarker : List Char → Bool
  | '-' :: '-' :: '-' :: rest => startsBlank rest
  | '.' :: '.' :: '.' :: rest => startsBlank rest
  | _ => false

/-! ### Places -/

structure Place where
  rest : List Char
  index : Nat
  line : Nat
  column : Nat
  deriving DecidableEq, Repr

namespace Place

def start (text : List Char) : Place := ⟨text, 0, 0, 0⟩

def advance (p : Place) (n : Nat) : Place :=
  { p with rest := p.rest.drop n, index := p.index + n, column := p.column + n }

def span (p : Place) (test : Char → Bool) : List Char × Place :=
  let taken := p.rest.takeWhile test
  (taken, p.advance taken.length)

def skipWhile (p : Place) (test : Char → Bool) : Place := (p.span test).2

/-- The place behind a line break, and the break itself: the common ones read as a line feed. -/
def takeBreak (p : Place) : List Char × Place :=
  match p.rest with
  | '\r' :: '\n' :: rest => (['\n'], ⟨rest, p.index + 2, p.line + 1, 0⟩)
  | c :: rest =>
    if isBreak c then
      (if c == '\u2028' || c == '\u2029' then [c] else ['\n'], ⟨rest, p.index + 1, p.line + 1, 0⟩)
    else ([], p)
  | [] => ([], p)

def skipBreak (p : Place) : Place := p.takeBreak.2

def skipLine (p : Place) : Place := p.skipWhile (!isBreak ·)

def atMarker (p : Place) : Bool := p.column == 0 && startsMarker p.rest

end Place

/-! ### Gaps between words -/

structure Gap where
  broken : Bool
  /-- The blanks before the first line break. -/
  blanks : List Char
  first : List Char
  later : List Char
  deriving DecidableEq, Repr

namespace Gap

def none : Gap := ⟨false, [], [], []⟩

/-- Reads blanks and line breaks. A tab to the left of the column `limit` is refused once a line
has ended. -/
def read (limit : Nat) : Nat → Gap → Place → Option (Gap × Place)
  | 0, g, p => some (g, p)
  | fuel + 1, g, p => match p.rest with
    | [] => some (g, p)
    | c :: _ =>
      if isBlank c then
        if g.broken && p.column < limit && c == '\t' then .none
        else read limit fuel (if g.broken then g else { g with blanks := g.blanks ++ [c] })
          (p.advance 1)
      else if isBreak c then
        let (b, p) := p.takeBreak
        read limit fuel
          (if g.broken then { g with later := g.later ++ b } else ⟨true, [], b, []⟩) p
      else some (g, p)

/-- What a gap stands for in a flowing text: one line break is a space, and of several breaks the
first is dropped. -/
def text (g : Gap) : List Char :=
  if !g.broken then g.blanks
  else if g.first.head? = some '\n' then if g.later.isEmpty then [' '] else g.later
  else g.first ++ g.later

end Gap

end Ligature.Yaml
