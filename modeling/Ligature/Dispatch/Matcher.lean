import Ligature.Dispatch.RegexCache
import Ligature.Rules.Table

/-!
# Finding ligatures

A matcher holds the compiled patterns of one table. A ligature starts at a leading character whose
pattern finds a text of at least one character behind it; scanning takes ligatures from left to
right and goes on behind each one it finds.
-/
namespace Ligature.Dispatch

open Rules (Table)

structure Matcher where
  table : Table
  regexes : CharMap Regex
  deriving DecidableEq

structure Span where
  start : Nat
  length : Nat
  text : List Char
  deriving DecidableEq, Repr

/-- What a regex compiler has to say against a regex, but for the fault it finds and where. -/
def compileErrorText : Ligature.Regex.CompileError → String
  | .malformed => "regex parse error"
  | .tooLarge =>
    s!"Compiled regex exceeds size limit of {Ligature.Regex.sizeLimit} bytes."

namespace Matcher

/-- Compiles patterns one after the other; a pattern that does not compile is left out and noted. -/
def compileAll (mode : Mode) (cache : RegexCache) (found : CharMap Regex) :
    List (Char × Rules.CompiledPattern) → Traced (CharMap Regex × RegexCache)
  | [] => pure (found, cache)
  | (c, p) :: rest => match cache.compile p with
    | (.ok r, cache) => compileAll mode cache (found.insert c r) rest
    | (.error e, cache) => do
      let cause := compileErrorText e
      Traced.log .warn .dispatch
        s!"Failed to compile ligature pattern for '{c}' in mode '{mode}': {cause}"
      compileAll mode cache found rest

def ofTable (t : Table) (cache : RegexCache) : Traced (Matcher × RegexCache) := do
  let (regexes, cache) ← compileAll t.mode cache .empty t.toList
  pure (⟨t, regexes⟩, cache)

def lengthFrom (m : Matcher) (leading : Char) (rest : List Char) : Option Nat :=
  match m.regexes.get? leading with
  | none => none
  | some r => match r.pattern.find rest with
    | none => none
    | some found => if found.text.isEmpty then none else some (found.text.length + 1)

def lengthAt (m : Matcher) (text : List Char) (index : Nat) : Option Nat :=
  match text.drop index with
  | [] => none
  | c :: rest => m.lengthFrom c rest

/-- The ligatures from the index `start` on, once `skip` characters have been passed. -/
def scanFrom (m : Matcher) (start skip : Nat) : List Char → List Span
  | [] => []
  | c :: rest => match skip with
    | skip + 1 => m.scanFrom (start + 1) skip rest
    | 0 => match m.lengthFrom c rest with
      | none => m.scanFrom (start + 1) 0 rest
      | some n => ⟨start, n, (c :: rest).take n⟩ :: m.scanFrom (start + 1) (n - 1) rest

def scan (m : Matcher) (text : List Char) : List Span := m.scanFrom 0 0 text

end Matcher

end Ligature.Dispatch
