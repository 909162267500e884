import Ligature.Proofs.Refusals

/-!
# Where the entries of a table come from

An entry of a table is an entry of one group of the registry: of the newest group that applies to
the mode and has the character. When a group is replaced, only the characters of the old and the
new group are touched, and only in the modes that its selector applies to.
-/
namespace Ligature.Rules

variable {h : Hierarchy} {mode : Mode} {c : Char} {p : Numbered CompiledPattern}

abbrev Entries := List (ModeSelector × RegisteredGroup)

/-- The `i`-th of some groups applies to the mode and has `p` for the character, and no newer one
that applies has the character. -/
structure Provides (entries : Entries) (h : Hierarchy) (mode : Mode) (c : Char) (i : Nat)
    (p : Numbered CompiledPattern) : Prop where
  has : ∃ e, entries[i]? = some e ∧ e.1.Applies h mode ∧ e.2.get? c = some p
  newest : ∀ j e, i < j → entries[j]? = some e → e.1.Applies h mode → e.2.get? c = none

def offer (h : Hierarchy) (mode : Mode) (c : Char) (e : ModeSelector × RegisteredGroup) :
    Option (Numbered CompiledPattern) :=
  if (e.1.appliesTo h mode).value then e.2.get? c else none

theorem offer_eq_some_iff {e : ModeSelector × RegisteredGroup} :
    offer h mode c e = some p ↔ e.1.Applies h mode ∧ e.2.get? c = some p := by
  unfold offer
  rw [← ModeSelector.value_appliesTo_iff]
  split
  · rename_i applies
    simp [applies]
  · rename_i applies
    simp [applies]

theorem offer_eq_none_iff {e : ModeSelector × RegisteredGroup} :
    offer h mode c e = none ↔ (e.1.Applies h mode → e.2.get? c = none) := by
  unfold offer
  rw [← ModeSelector.value_appliesTo_iff]
  split
  · rename_i applies
    simp [applies]
  · rename_i applies
    simp [applies]

theorem get?_buildTable_eq_findSome? (r : Registry) :
    (buildTable mode r h).value.entries.get? c = r.entries.reverse.findSome? (offer h mode c) := by
  simp only [buildTable, Traced.value_map, get?_layer, CharMap.get?_empty, Option.or_none]
  rfl

theorem findSome?_reverse_eq_some_iff (entries : Entries) :
    entries.reverse.findSome? (offer h mode c) = some p ↔ ∃ i, Provides entries h mode c i p := by
  rw [List.findSome?_eq_some_iff]
  constructor
  · rintro ⟨newer, e, older, split, offered, none⟩
    rw [List.reverse_eq_iff, List.reverse_append, List.reverse_cons, List.append_assoc,
      List.singleton_append] at split
    refine ⟨older.reverse.length, ⟨e, by simp [split], offer_eq_some_iff.mp offered⟩, ?_⟩
    intro j e' less he'
    apply offer_eq_none_iff.mp
    apply none
    obtain ⟨k, rfl⟩ : ∃ k, j = older.reverse.length + (k + 1) :=
      ⟨j - older.reverse.length - 1, by omega⟩
    rw [split, List.getElem?_append_right (by omega), Nat.add_sub_cancel_left,
      List.getElem?_cons_succ] at he'
    exact List.mem_reverse.mp (List.mem_of_getElem? he')
  · rintro ⟨i, ⟨e, he, offered⟩, newest⟩
    obtain ⟨inside, rfl⟩ := List.getElem?_eq_some_iff.mp he
    refine ⟨(entries.drop (i + 1)).reverse, entries[i], (entries.take i).reverse, ?_,
      offer_eq_some_iff.mpr offered, ?_⟩
    · rw [List.reverse_eq_iff]
      simp
    · intro e' he'
      apply offer_eq_none_iff.mpr
      obtain ⟨k, hk⟩ := List.mem_iff_getElem?.mp (List.mem_reverse.mp he')
      rw [List.getElem?_drop] at hk
      exact newest (i + 1 + k) e' (by omega) hk

/-- An entry of a table is that of the newest group which applies and has the character. -/
theorem get?_buildTable_eq_some_iff (r : Registry) :
    (buildTable mode r h).value.entries.get? c = some p ↔
      ∃ i, Provides r.entries h mode c i p := by
  rw [get?_buildTable_eq_findSome?, findSome?_reverse_eq_some_iff]

theorem get?_generate_run_eq_some_iff (history : List Request) :
    ((RuleTables.run history).generate mode).value.1.value.entries.get? c = some p ↔
      ∃ i, Provides (RuleTables.run history).registry.entries (RuleTables.run history).hierarchy
        mode c i p := by
  rw [RuleTables.generate_run_eq_build, get?_buildTable_eq_some_iff]

end Ligature.Rules
