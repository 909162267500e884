import Ligature.Regex.Match
import Ligature.Regex.Size
import Ligature.Rules.Spec

/-!
# The regex cache

Compiled regexes by their source text, the most recently used first. A cache holds no more than its
capacity and forgets the regex that was used least recently. Texts that do not compile are not
kept. Any capacity can be had here: that a table for very many entries, which is made at once, may
not fit in memory is left out.
-/
namespace Ligature.Dispatch

open Rules (CompiledPattern)

structure Regex where
  source : String
  pattern : Ligature.Regex.Pattern
  deriving DecidableEq, Repr

def Regex.ofSource (source : String) : Except Ligature.Regex.CompileError Regex :=
  (Ligature.Regex.Pattern.compile source.toList).map (Regex.mk source)

def anchoredSource (p : CompiledPattern) : String := String.ofList ('^' :: p.render)

structure RegexCache where
  capacity : Nat
  /-- The cached regexes, the most recently used first. -/
  entries : List Regex
  deriving DecidableEq

namespace RegexCache

/-- An empty cache; it holds at least one regex. -/
def ofCapacity (n : Nat) : RegexCache := ⟨max n 1, []⟩

def size (c : RegexCache) : Nat := c.entries.length

def isEmpty (c : RegexCache) : Bool := c.entries.isEmpty

def clear (c : RegexCache) : RegexCache := { c with entries := [] }

def touch (c : RegexCache) (r : Regex) : RegexCache :=
  { c with entries := (r :: c.entries.filter (·.source ≠ r.source)).take c.capacity }

def compile (c : RegexCache) (p : CompiledPattern) :
    Except Ligature.Regex.CompileError Regex × RegexCache :=
  let source := anchoredSource p
  match c.entries.find? (·.source == source) with
  | some r => (.ok r, c.touch r)
  | none => match Regex.ofSource source with
    | .ok r => (.ok r, c.touch r)
    | .error e => (.error e, c)

def display (c : RegexCache) : String :=
  "RegexCache \x7b len: " ++ toString c.size ++ ", cap: " ++ toString c.capacity ++ " \x7d"

end RegexCache

end Ligature.Dispatch
