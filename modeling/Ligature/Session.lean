import Ligature.Config.Basic
import Ligature.Dispatch.Matcher
import Ligature.Rules.RuleTables

/-!
# Sessions

A configuration in use: its ligature sets registered in order, its ignored modes left alone, and
one regex cache for all matchers. A set that is refused is passed over and reported.
-/
namespace Ligature

open Rules (ModeSelector RegistrationError RuleTables Spec Table Numbered)
open Dispatch (Matcher RegexCache)

structure SetFailure where
  index : Nat
  selector : ModeSelector
  error : RegistrationError
  deriving DecidableEq, Repr

structure Session where
  tables : RuleTables
  ignored : List Mode
  cache : RegexCache
  failures : List SetFailure

namespace Session

def addSet (s : Session) (index : Nat) (set : LigatureSet) : Traced Session := do
  let selector := set.selector
  let name := selector.display
  let (result, tables) ← s.tables.register selector set.specs
  let s := { s with tables }
  match result with
  | .ok () =>
    let count := set.ligatures.length
    Traced.log .debug .runtime s!"Registered ligature set #{index} for {name} ({count} ligatures)"
    pure s
  | .error e =>
    let cause := e.message
    Traced.log .warn .runtime s!"Invalid ligature set #{index} for {name}: {cause}"
    pure { s with failures := s.failures ++ [⟨index, selector, e⟩] }

def addSets (s : Session) (index : Nat) : List LigatureSet → Traced Session
  | [] => pure s
  | set :: rest => do
    let s ← s.addSet index set
    s.addSets (index + 1) rest

def start (c : Config) : Traced Session := do
  let tables ← RuleTables.new.withHierarchy (.ofTree c.modeTree)
  let given := c.sets.length
  Traced.log .info .runtime s!"Building ligature runtime from {given} config ligature sets"
  let s : Session := ⟨tables, c.ignored, .ofCapacity c.cacheSize.toNat, []⟩
  let s ← s.addSets 0 c.sets
  let groups := s.tables.registry.size
  Traced.log .info .runtime s!"Ligature runtime initialized with {groups} rule groups"
  pure s

def isIgnored (s : Session) (mode : Mode) : Bool := s.ignored.contains mode

def register (s : Session) (selector : ModeSelector) (specs : List Spec) :
    Traced (Except RegistrationError Unit × Session) := do
  let (result, tables) ← s.tables.register selector specs
  pure (result, { s with tables })

def tableFor (s : Session) (mode : Mode) : Traced (Option (Numbered Table) × Session) :=
  if s.isIgnored mode then do
    Traced.log .debug .runtime s!"Mode '{mode}' is ignored, no ligature table"
    pure (none, s)
  else do
    let (table, tables) ← s.tables.generate mode
    pure (some table, { s with tables })

def matcherFor (s : Session) (mode : Mode) : Traced (Option Matcher × Session) := do
  let (table?, s) ← s.tableFor mode
  match table? with
  | none => pure (none, s)
  | some table =>
    let (matcher, cache) ← Matcher.ofTable table.value s.cache
    pure (some matcher, { s with cache })

end Session

end Ligature
