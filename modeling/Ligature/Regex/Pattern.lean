import Ligature.Regex.CharSet

/-!
# Patterns

What a regex text means once its flags have been carried to the parts they govern: a pattern is
built from sets of characters, look-arounds, sequences, ordered choices and repetitions.
-/
namespace Ligature.Regex

/-- Where lines begin and end: only at the ends of the text, at line feeds, or also at carriage
returns. -/
inductive LineMode where
  | text
  | lineFeed
  | crlf
  deriving DecidableEq, Repr

inductive WordLook where
  | boundary
  | notBoundary
  | start
  | stop
  | startHalf
  | stopHalf
  deriving DecidableEq, Repr

inductive Look where
  | lineStart (mode : LineMode)
  | lineStop (mode : LineMode)
  /-- A place at the edge of a word; `unicode` tells which characters make words. -/
  | word (k : WordLook) (unicode : Bool)
  deriving DecidableEq, Repr

inductive Pattern where
  | empty
  | set (s : CharSet)
  | look (l : Look)
  | cat (first second : Pattern)
  /-- The first pattern, or else the second. -/
  | alt (first second : Pattern)
  | rep (min : Nat) (max : Option Nat) (greedy : Bool) (body : Pattern)
  | capture (body : Pattern)
  deriving DecidableEq, Repr

namespace Pattern

def consumes : Pattern → Bool
  | .empty | .look _ => false
  | .set _ => true
  | .cat a b => a.consumes || b.consumes
  | .alt a b => a.consumes && b.consumes
  | .rep min _ _ body => min != 0 && body.consumes
  | .capture body => body.consumes

def zeroWidth : Pattern → Bool
  | .empty | .look _ => true
  | .set _ => false
  | .cat a b | .alt a b => a.zeroWidth && b.zeroWidth
  | .rep _ _ _ body | .capture body => body.zeroWidth

def append (a b : Pattern) : Pattern :=
  match a, b with
  | .empty, b => b
  | a, .empty => a
  | a, b => .cat a b

def sequence (ps : List Pattern) : Pattern := ps.foldl append .empty

def choice : List Pattern → Pattern
  | [] => .set .none
  | [p] => p
  | p :: ps => .alt p (choice ps)

/-- A repetition. More than one round of a body that consumes nothing is as good as one. -/
def repeated (min : Nat) (max : Option Nat) (greedy : Bool) (body : Pattern) : Pattern :=
  let (min, max) := if body.zeroWidth then (Nat.min min 1, some (Nat.min (max.getD 1) 1))
    else (min, max)
  if max = some 0 then .empty
  else if min = 1 ∧ max = some 1 then body
  else .rep min max greedy body

def ofText (cs : List Char) : Pattern := sequence (cs.map fun c => .set (.single c))

end Pattern

end Ligature.Regex
