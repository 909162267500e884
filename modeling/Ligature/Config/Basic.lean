import Ligature.Rules.Hierarchy
import Ligature.Rules.Spec

/-!
# Configurations

What a configuration says: sets of ligatures with the modes they are for, the parents of modes,
the modes that are left alone, and the size of the regex cache.
-/
namespace Ligature

open Rules (ModeSelector ModeTree PatternExpr Spec)

inductive ModesField where
  | one (name : String)
  | many (names : List String)
  deriving DecidableEq, Repr

def universalName : String := "*"

def ModesField.selector : ModesField → ModeSelector
  | .one name => if name = universalName then .universal else .single name
  | .many names => .set names

inductive LigatureEntry where
  | literal (text : String)
  | regex (leading : Char) (source : String)
  | expr (leading : Char) (e : PatternExpr)
  deriving DecidableEq, Repr

def LigatureEntry.spec : LigatureEntry → Spec
  | .literal text => .literal text
  | .regex c source => .pattern c (.regex source)
  | .expr c e => .pattern c (.expr e)

def LigatureEntry.ofSpec : Spec → LigatureEntry
  | .literal text => .literal text
  | .pattern c (.regex source) => .regex c source
  | .pattern c (.expr e) => .expr c e

@[simp] theorem LigatureEntry.spec_ofSpec (s : Spec) : (LigatureEntry.ofSpec s).spec = s := by
  rcases s with _ | ⟨_, _ | _⟩ <;> rfl

structure LigatureSet where
  /-- Without modes, a set is for every mode. -/
  modes : Option ModesField
  ligatures : List LigatureEntry
  deriving DecidableEq, Repr

namespace LigatureSet

def forMode (mode : String) (texts : List String) : LigatureSet :=
  ⟨some (.one mode), texts.map .literal⟩

def forAll (texts : List String) : LigatureSet := ⟨none, texts.map .literal⟩

def selector (s : LigatureSet) : ModeSelector := (s.modes.map ModesField.selector).getD .universal

def specs (s : LigatureSet) : List Spec := s.ligatures.map LigatureEntry.spec

end LigatureSet

structure ModeDeclaration where
  name : String
  parent : String
  deriving DecidableEq, Repr

structure Config where
  sets : List LigatureSet
  modes : List ModeDeclaration
  ignored : List String
  cacheSize : UInt64
  deriving DecidableEq, Repr

namespace Config

def addSet (c : Config) (s : LigatureSet) : Config := { c with sets := c.sets ++ [s] }

def addMode (c : Config) (name parent : String) : Config :=
  { c with modes := c.modes ++ [⟨name, parent⟩] }

def ignore (c : Config) (mode : String) : Config := { c with ignored := c.ignored ++ [mode] }

/-- The tree of the declared parents; the last declaration of a mode counts. -/
def modeTree (c : Config) : ModeTree :=
  c.modes.foldl (fun t d => t.declare d.name d.parent) .empty

def isIgnored (c : Config) (mode : Mode) : Bool := c.ignored.contains mode

/-! ### Validation -/

inductive Invalid where
  | cacheSize
  | emptyName (d : ModeDeclaration)
  | ownParent (name : String)
  | declaredTwice (name : String)
  deriving DecidableEq, Repr

def Invalid.message : Invalid → String
  | .cacheSize => "regex_cache_size must be greater than 0"
  | .emptyName ⟨name, parent⟩ => s!"mode declaration '{name}' -> '{parent}' has an empty name"
  | .ownParent name => s!"mode '{name}' cannot be its own parent"
  | .declaredTwice name => s!"mode '{name}' is declared more than once"

/-- Checks declarations in order; `seen` are the names declared before. -/
def checkModes (seen : List String) : List ModeDeclaration → Except Invalid Unit
  | [] => .ok ()
  | d :: rest =>
    if d.name = "" ∨ d.parent = "" then .error (.emptyName d)
    else if d.name = d.parent then .error (.ownParent d.name)
    else if d.name ∈ seen then .error (.declaredTwice d.name)
    else checkModes (d.name :: seen) rest

/-- Checks what the form of a configuration does not say. The length of literals is checked when
they are registered. -/
def validate (c : Config) : Except Invalid Unit :=
  if c.cacheSize = 0 then .error .cacheSize else checkModes [] c.modes

end Config

end Ligature
