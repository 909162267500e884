import Ligature.Rules.Hierarchy
import Ligature.Rules.Registry

/-!
# Dispatch tables

The table of a mode maps every leading character to the pattern of the newest group that applies
to the mode and has the character. A cache keeps one table per mode until it is emptied as a
whole; every table it builds gets a number of its own.
-/
namespace Ligature.Rules

structure Table where
  mode : Mode
  entries : RegisteredGroup
  deriving DecidableEq

namespace Table

def get? (t : Table) (c : Char) : Option CompiledPattern := (t.entries.get? c).map (·.value)

def contains (t : Table) (c : Char) : Bool := t.entries.contains c

def size (t : Table) : Nat := t.entries.size

def toList (t : Table) : List (Char × CompiledPattern) :=
  t.entries.toList.map fun (c, p) => (c, p.value)

/-- Whether two tables say the same, whatever the numbers of their patterns. -/
def agrees (t u : Table) : Bool := t.mode = u.mode ∧ t.toList = u.toList

end Table

def overlay (below above : RegisteredGroup) : RegisteredGroup :=
  above.toList.foldl (fun m e => m.insert e.1 e.2) below

/-- Lays the groups that apply to a mode over each other, the newest on top. -/
def layer (h : Hierarchy) (mode : Mode) (below : RegisteredGroup) :
    List (ModeSelector × RegisteredGroup) → Traced RegisteredGroup
  | [] => pure below
  | (s, g) :: rest => do
    if ← s.appliesTo h mode then
      let name := s.display
      Traced.log .trace .generator s!"Selector {name} applies to mode '{mode}'"
      layer h mode (overlay below g) rest
    else layer h mode below rest

def buildTable (mode : Mode) (r : Registry) (h : Hierarchy) : Traced Table :=
  (Table.mk mode ·) <$> layer h mode .empty r.entries

/-! ### The cache -/

structure TableCache where
  tables : List (Mode × Numbered Table)
  built : Nat
  deriving DecidableEq

namespace TableCache

def empty : TableCache := ⟨[], 0⟩

def get? (c : TableCache) (mode : Mode) : Option (Numbered Table) :=
  (c.tables.find? (·.1 == mode)).map (·.2)

def contains (c : TableCache) (mode : Mode) : Bool := c.tables.any (·.1 == mode)

def size (c : TableCache) : Nat := c.tables.length

def isEmpty (c : TableCache) : Bool := c.tables.isEmpty

def generate (c : TableCache) (mode : Mode) (r : Registry) (h : Hierarchy) :
    Traced (Numbered Table × TableCache) :=
  match c.get? mode with
  | some t => pure (t, c)
  | none => do
    let t ← buildTable mode r h
    let count := t.size
    Traced.log .debug .generator
      s!"Generated ligature table for mode '{mode}' with {count} leading characters"
    let t : Numbered Table := ⟨c.built, t⟩
    pure (t, ⟨(mode, t) :: c.tables, c.built + 1⟩)

def invalidate (c : TableCache) : Traced TableCache := do
  unless c.isEmpty do
    let count := c.size
    Traced.log .debug .generator s!"Discarding {count} cached ligature tables"
  pure ⟨[], c.built⟩

end TableCache

end Ligature.Rules
