import Ligature.Regex.Pattern

/-!
# Alternations as the engine makes them

Where all branches of an alternation are sequences that begin with the same parts, the engine lifts
these parts out: `XY|XZ` becomes `X(?:Y|Z)`. This is not always the same choice. If `X` can match in
several ways, what it prefers now comes before which branch is tried first.

Two parts are the same if they are the same once groups are opened: sequences within sequences and
choices within choices are taken as one, a choice among characters is a class, and classes are
compared by their members. A part that captures is the same as no other.
-/
namespace Ligature.Regex.Pattern

def choices : Pattern → List Pattern
  | .alt a b => a.choices ++ b.choices
  | p => [p]

def items : Pattern → List Pattern
  | .empty => []
  | .cat a b => a.items ++ b.items
  | p => [p]

/-! ### Forms to compare -/

def isChar : Pattern → Bool
  | .set s => s.isSingle
  | _ => false

/-- Whether a pattern is a class; a class of one character is that character. -/
def isClass : Pattern → Bool
  | .set s => !s.isSingle
  | _ => false

def asSet : Pattern → CharSet
  | .set s => s
  | _ => .none

/-- A choice among forms. Characters make a class, and so do classes. -/
def gather (ps : List Pattern) : Pattern :=
  match ps with
  | [p] => p
  | ps =>
    if ps.all isChar || ps.all isClass then .set (ps.foldr (fun p s => .union p.asSet s) .none)
    else choice ps

def link : Pattern → Pattern → Pattern
  | .cat a b, q => link a (link b q)
  | p, q => .cat p q

def forms : Pattern → List Pattern
  | .empty => [.empty]
  | .set s => [.set s]
  | .look l => [.look l]
  | .cat a b => [link (gather a.forms) (gather b.forms)]
  | .alt a b => a.forms ++ b.forms
  | .rep min max greedy body => [.rep min max greedy (gather body.forms)]
  | .capture body => [.capture (gather body.forms)]

def form (p : Pattern) : Pattern := gather p.forms

/-- Whether two forms are the same up to how their sets are written. -/
def sameForm : Pattern → Pattern → Bool
  | .empty, .empty => true
  | .set s, .set t => s.same t
  | .look l, .look k => l == k
  | .cat a b, .cat c d => a.sameForm c && b.sameForm d
  | .alt a b, .alt c d => a.sameForm c && b.sameForm d
  | .rep min max greedy body, .rep min' max' greedy' body' =>
    min == min' && max == max' && greedy == greedy' && body.sameForm body'
  | _, _ => false

def same (p q : Pattern) : Bool := p.form.sameForm q.form

/-! ### Lifting common parts -/

/-- The parts of a sequence: characters that follow each other are one text. -/
def parts (p : Pattern) : List Pattern :=
  (p.items.splitBy fun a b => a.form.isChar && b.form.isChar).map sequence

def sharedParts : List Pattern → List Pattern → List Pattern
  | p :: ps, q :: qs => if p.same q then p :: sharedParts ps qs else []
  | _, _ => []

/-- The parts that all branches begin with. Only sequences have parts to lift. -/
def commonParts : List Pattern → List Pattern
  | b :: bs =>
    if (b :: bs).any (·.parts.length < 2) then []
    else bs.foldl (fun front c => sharedParts front c.parts) b.parts
  | [] => []

def lifted : List Pattern → List Pattern
  | [] | [_] => []
  | ps => commonParts (ps.flatMap choices)

def dropParts (n : Nat) (p : Pattern) : Pattern := sequence (p.parts.drop n)

/-- The alternation of some patterns: what is lifted out comes first. -/
def alternation (ps : List Pattern) : Pattern :=
  let front := lifted ps
  if front.isEmpty then choice ps
  else append (sequence front) (choice ((ps.flatMap choices).map (dropParts front.length)))

end Ligature.Regex.Pattern
