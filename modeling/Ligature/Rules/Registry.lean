import Ligature.Rules.Selector
import Ligature.Rules.Spec

/-!
# The registry

Rule groups in the order of their registration, at most one per selector. A group that is
registered again takes the last place. Patterns get numbers when they enter the registry, so that
two uses of one pattern can be told from two patterns that look alike.
-/
namespace Ligature.Rules

/-- A value with the number it was created under. -/
structure Numbered (α : Type) where
  number : Nat
  value : α
  deriving DecidableEq, Repr

abbrev RegisteredGroup := CharMap (Numbered CompiledPattern)

def numberFrom {α : Type} (start : Nat) : List (Char × α) → List (Char × Numbered α)
  | [] => []
  | (c, a) :: rest => (c, ⟨start, a⟩) :: numberFrom (start + 1) rest

@[simp] theorem map_fst_numberFrom {α : Type} (start : Nat) (l : List (Char × α)) :
    (numberFrom start l).map (·.1) = l.map (·.1) := by
  induction l generalizing start with
  | nil => rfl
  | cons x rest ih => simp [numberFrom, ih]

def RuleGroup.register (g : RuleGroup) (start : Nat) : RegisteredGroup :=
  ⟨numberFrom start g.toList, by
    have h := List.pairwise_map.2 g.ascending
    rw [← map_fst_numberFrom start] at h
    exact List.pairwise_map.1 h⟩

structure Registry where
  entries : List (ModeSelector × RegisteredGroup)
  created : Nat
  deriving DecidableEq

namespace Registry

def empty : Registry := ⟨[], 0⟩

def get? (r : Registry) (s : ModeSelector) : Option RegisteredGroup :=
  (r.entries.find? (·.1 = s)).map (·.2)

/-- Makes `g` the group of a selector, as the newest one; also gives the group it replaces. -/
def replace (r : Registry) (s : ModeSelector) (g : RuleGroup) :
    Registry × Option RegisteredGroup :=
  let group := g.register r.created
  let created := r.created + g.size
  match r.entries.findIdx? (·.1 = s) with
  | some i => (⟨r.entries.eraseIdx i ++ [(s, group)], created⟩, r.entries[i]?.map (·.2))
  | none => (⟨r.entries ++ [(s, group)], created⟩, none)

def size (r : Registry) : Nat := r.entries.length

variable {r : Registry} {s : ModeSelector}

theorem replace_eq_eraseP (r : Registry) (s : ModeSelector) (g : RuleGroup) :
    r.replace s g =
      (⟨r.entries.eraseP (·.1 = s) ++ [(s, g.register r.created)], r.created + g.size⟩,
        r.get? s) := by
  simp only [replace, get?, List.eraseP_eq_eraseIdx, List.find?_eq_getElem?_findIdx]
  cases place : r.entries.findIdx? (·.1 = s) with
  | none =>
    have past := List.findIdx_eq_length.mpr (List.findIdx?_eq_none_iff.mp place)
    simp [past]
  | some i =>
    obtain ⟨-, rfl⟩ := List.findIdx?_eq_some_iff_findIdx_eq.mp place
    rfl

theorem eraseP_selector_eq_filter {entries : List (ModeSelector × RegisteredGroup)}
    (distinct : (entries.map (·.1)).Nodup) :
    entries.eraseP (·.1 = s) = entries.filter (·.1 ≠ s) := by
  induction entries with
  | nil => rfl
  | cons e rest ih =>
    obtain ⟨others, distinct⟩ := List.nodup_cons.mp distinct
    by_cases same : e.1 = s
    · subst same
      rw [List.eraseP_cons_of_pos (by simp), List.filter_cons_of_neg (by simp), eq_comm,
        List.filter_eq_self]
      intro x mem
      rw [decide_eq_true_eq]
      intro again
      exact others (List.mem_map.mpr ⟨x, mem, again⟩)
    · rw [List.eraseP_cons_of_neg (by simpa using same),
        List.filter_cons_of_pos (by simpa using same), ih distinct]

/-- With one group per selector the first entry that is found is the only one. -/
theorem replace_eq (distinct : (r.entries.map (·.1)).Nodup) (s : ModeSelector) (g : RuleGroup) :
    r.replace s g =
      (⟨r.entries.filter (·.1 ≠ s) ++ [(s, g.register r.created)], r.created + g.size⟩,
        r.get? s) := by
  rw [replace_eq_eraseP, eraseP_selector_eq_filter distinct]

end Registry

end Ligature.Rules
