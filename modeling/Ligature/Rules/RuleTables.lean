import Ligature.Rules.Table

/-!
# The rule tables

The registry together with the cache of the tables made from it, the hierarchy that decides which
groups apply, and the expander that turns expressions into regex text. A table that is handed out
is always the one that the registry and the hierarchy of the moment call for: whatever changes
either empties the cache.
-/
namespace Ligature.Rules

structure RuleTables where
  registry : Registry
  cache : TableCache
  hierarchy : Hierarchy
  expander : Expander

namespace RuleTables

/-- Nothing registered, no hierarchy, and embedded regex text passed on. -/
def new : RuleTables := ⟨.empty, .empty, .flat, expandRegex⟩

def withHierarchy (t : RuleTables) (h : Hierarchy) : Traced RuleTables := do
  let cache ← t.cache.invalidate
  pure { t with hierarchy := h, cache }

def withExpander (t : RuleTables) (e : Expander) : RuleTables := { t with expander := e }

/-- Compiles a batch of specifications and makes it the group of its selector. A batch that is
refused changes nothing. -/
def register (t : RuleTables) (s : ModeSelector) (specs : List Spec) :
    Traced (Except RegistrationError Unit × RuleTables) :=
  match compileRules t.expander specs with
  | .error e => pure (.error e, t)
  | .ok g => do
    let name := s.display
    let count := g.size
    Traced.log .debug .tables
      s!"Registering {count} ligature leading characters for selector {name}"
    let (registry, previous) := t.registry.replace s g
    if previous.isSome then
      Traced.log .debug .tables "Replaced previously registered ligature rules"
    let cache ← t.cache.invalidate
    pure (.ok (), { t with registry, cache })

def generate (t : RuleTables) (mode : Mode) : Traced (Numbered Table × RuleTables) := do
  let (table, cache) ← t.cache.generate mode t.registry t.hierarchy
  pure (table, { t with cache })

def isCached (t : RuleTables) (mode : Mode) : Bool := t.cache.contains mode

def cachedModes (t : RuleTables) : Nat := t.cache.size

end RuleTables

end Ligature.Rules
