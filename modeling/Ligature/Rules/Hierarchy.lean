import Ligature.Rules.Selector

/-!
# The hierarchy of modes

A hierarchy answers one question: does a mode descend from another? It may be flat, a tree of
declared parents, or any other predicate. A selector applies to a mode that it names or that
descends from one it names; what it asks to find out is kept in the journal.
-/
namespace Ligature.Rules

/-! ### Declared parents -/

structure ModeTree where
  parents : List (Mode × Mode)
  deriving DecidableEq, Repr

namespace ModeTree

def empty : ModeTree := ⟨[]⟩

/-- Makes `parent` the parent of `mode`, in the place of an earlier one. -/
def declare (t : ModeTree) (mode parent : Mode) : ModeTree :=
  ⟨(mode, parent) :: t.parents.filter (·.1 ≠ mode)⟩

def parent? (t : ModeTree) (mode : Mode) : Option Mode :=
  (t.parents.find? (·.1 == mode)).map (·.2)

def size (t : ModeTree) : Nat := t.parents.length

@[simp] theorem parent?_empty (mode : Mode) : empty.parent? mode = none := rfl

@[simp] theorem parent?_declare (t : ModeTree) (mode parent m : Mode) :
    (t.declare mode parent).parent? m = if mode = m then some parent else t.parent? m := by
  by_cases h : mode = m
  · simp [parent?, declare, h]
  · have same : (t.parents.filter (·.1 ≠ mode)).find? (·.1 == m) =
        t.parents.find? (·.1 == m) := by
      rw [List.find?_filter]
      congr 1
      funext x
      by_cases hx : x.1 = m
      · simp [hx, Ne.symm h]
      · simp [hx]
    simp only [parent?, declare, List.find?_cons, h, if_false]
    simp only [same, beq_eq_false_iff_ne.2 h]

/-- The parent of `mode`, its parent, and so on, up to the first mode in `seen`; then that mode, if
there is one. One step per unit of fuel. -/
def climb (t : ModeTree) : Nat → List Mode → Mode → List Mode × Option Mode
  | 0, _, _ => ([], none)
  | fuel + 1, seen, mode => match t.parent? mode with
    | none => ([], none)
    | some p =>
      if p ∈ seen then ([], some p)
      else
        let (chain, again) := t.climb fuel (p :: seen) p
        (p :: chain, again)

/-- The ancestors of a mode, nearest first, and the mode that closes a cycle. A chain of distinct
modes with parents is no longer than the tree. -/
def lineage (t : ModeTree) (mode : Mode) : List Mode × Option Mode :=
  t.climb (t.size + 1) [mode] mode

def ancestors (t : ModeTree) (mode : Mode) : List Mode := (t.lineage mode).1

def isDescendant (t : ModeTree) (mode ancestor : Mode) : Bool := ancestor ∈ t.ancestors mode

def notices (t : ModeTree) (mode : Mode) : List Record :=
  (t.lineage mode).2.toList.map fun m =>
    ⟨.warn, .hierarchy, s!"Mode hierarchy cycle detected at '{m}'"⟩

end ModeTree

/-! ### Hierarchies -/

structure Hierarchy where
  /-- Whether the first mode strictly descends from the second. -/
  isDescendant : Mode → Mode → Bool
  notices : Mode → List Record

namespace Hierarchy

def flat : Hierarchy := ⟨fun _ _ => false, fun _ => []⟩

def ofTree (t : ModeTree) : Hierarchy := ⟨t.isDescendant, t.notices⟩

def ofPredicate (p : Mode → Mode → Bool) : Hierarchy := ⟨p, fun _ => []⟩

def ask (h : Hierarchy) (mode ancestor : Mode) : Traced Bool :=
  let answer := h.isDescendant mode ancestor
  ⟨answer, (h.notices mode).map .logged ++ [.asked mode ancestor answer]⟩

@[simp] theorem value_ask (h : Hierarchy) (mode ancestor : Mode) :
    (h.ask mode ancestor).value = h.isDescendant mode ancestor := rfl

end Hierarchy

/-! ### Selection -/

/-- Whether `mode` is one of some modes or descends from one; modes behind the first that fits are
not looked at. -/
def matchesAny (h : Hierarchy) (mode : Mode) : List Mode → Traced Bool
  | [] => pure false
  | t :: rest =>
    if t = mode then pure true
    else do
      if ← h.ask mode t then pure true else matchesAny h mode rest

namespace ModeSelector

def appliesTo (s : ModeSelector) (h : Hierarchy) (mode : Mode) : Traced Bool :=
  match s with
  | .universal => pure true
  | .single t => matchesAny h mode [t]
  | .set ts => matchesAny h mode ts

end ModeSelector

theorem value_matchesAny (h : Hierarchy) (mode : Mode) (ts : List Mode) :
    (matchesAny h mode ts).value = ts.any fun t => t == mode || h.isDescendant mode t := by
  induction ts with
  | nil => rfl
  | cons t rest ih =>
    simp only [matchesAny, List.any_cons]
    split
    · simp_all
    · rename_i differ
      simp only [Traced.value_bind, Hierarchy.value_ask]
      by_cases hd : h.isDescendant mode t = true <;> simp [differ, hd, ih]

end Ligature.Rules
