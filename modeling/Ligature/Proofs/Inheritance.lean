import Ligature.Proofs.EntrySources
import Ligature.Proofs.Lineage

/-!
# What modes inherit

A group that applies to a mode applies to all modes that descend from it. So a mode has an entry
for every character that a mode above it has one for, from the same group or a newer one, and modes
in a circle have the same entries.
-/
namespace Ligature.Rules

variable {tree : ModeTree} {d p : Mode} {c : Char}

/-- What names `p` or a mode above `p` names a mode above `d`, or `d` itself if parents go round in
a circle. -/
theorem ModeTree.reaches_of_descends (descends : tree.isDescendant d p = true) {t : Mode}
    (reaches : t = p ∨ tree.isDescendant p t = true) : t = d ∨ tree.isDescendant d t = true := by
  rcases reaches with rfl | above
  · exact .inr descends
  · by_cases same : t = d
    · exact .inl same
    · have first := (isDescendant_iff.mp descends).2
      have second := (isDescendant_iff.mp above).2
      exact .inr (isDescendant_iff.mpr ⟨same, first.trans second⟩)

theorem ModeSelector.applies_of_descends (descends : tree.isDescendant d p = true)
    {s : ModeSelector} (applies : s.Applies (.ofTree tree) p) : s.Applies (.ofTree tree) d := by
  cases s with
  | universal => trivial
  | single t => exact ModeTree.reaches_of_descends descends applies
  | set ts =>
    obtain ⟨t, mem, reaches⟩ := applies
    exact ⟨t, mem, ModeTree.reaches_of_descends descends reaches⟩

theorem exists_provides {entries : Entries} {h : Hierarchy} {mode : Mode} {i : Nat}
    {e : ModeSelector × RegisteredGroup} {x : Numbered CompiledPattern}
    (he : entries[i]? = some e) (applies : e.1.Applies h mode) (has : e.2.get? c = some x) :
    ∃ j y, i ≤ j ∧ Provides entries h mode c j y := by
  by_cases newest : ∀ j e', i < j → entries[j]? = some e' → e'.1.Applies h mode →
      e'.2.get? c = none
  · exact ⟨i, x, Nat.le_refl i, ⟨e, he, applies, has⟩, newest⟩
  · push Not at newest
    obtain ⟨j, e', less, he', applies', has'⟩ := newest
    obtain ⟨x', hx'⟩ := Option.ne_none_iff_exists'.mp has'
    have inside : j < entries.length := (List.getElem?_eq_some_iff.mp he').1
    obtain ⟨k, y, le, provides⟩ := exists_provides he' applies' hx'
    exact ⟨k, y, by omega, provides⟩
termination_by entries.length - i

theorem layer_congr {h : Hierarchy} {m m' : Mode} (entries : Entries) (below : RegisteredGroup)
    (same : ∀ s : ModeSelector, s.Applies h m ↔ s.Applies h m') :
    (layer h m below entries).value = (layer h m' below entries).value := by
  induction entries generalizing below with
  | nil => rfl
  | cons e rest ih =>
    obtain ⟨s, g⟩ := e
    have same' : (s.appliesTo h m).value = (s.appliesTo h m').value := by
      rw [Bool.eq_iff_iff, ModeSelector.value_appliesTo_iff, ModeSelector.value_appliesTo_iff]
      exact same s
    simp only [layer, Traced.value_bind, same']
    split
    · exact ih _
    · exact ih _

/-- A mode that descends from another has all the characters of the other, each from the same group
or a newer one. If the other descends from it as well, they have the same entries. -/
theorem inherited_entries (history : List Request)
    (isTree : (RuleTables.run history).hierarchy = .ofTree tree)
    (descends : tree.isDescendant d p = true) :
    let t := RuleTables.run history
    let above := (t.generate p).value.1.value
    let below := (t.generate d).value.1.value
    (∀ c, above.contains c = true → below.contains c = true ∧
      ∃ i j x y, i ≤ j ∧
        Provides t.registry.entries t.hierarchy p c i x ∧ above.entries.get? c = some x ∧
        Provides t.registry.entries t.hierarchy d c j y ∧ below.entries.get? c = some y) ∧
    (tree.isDescendant p d = true → below.entries = above.entries) := by
  intro t above below
  have inherits {s : ModeSelector} (applies : s.Applies t.hierarchy p) :
      s.Applies t.hierarchy d := by
    rw [isTree] at applies ⊢
    exact ModeSelector.applies_of_descends descends applies
  constructor
  · intro c present
    rw [Table.contains, CharMap.contains_eq_isSome] at present
    obtain ⟨x, hx⟩ := Option.isSome_iff_exists.mp present
    obtain ⟨i, provides⟩ := (get?_generate_run_eq_some_iff history).mp hx
    obtain ⟨e, he, applies, has⟩ := provides.has
    obtain ⟨j, y, le, provides'⟩ := exists_provides he (inherits applies) has
    have hy := (get?_generate_run_eq_some_iff history).mpr ⟨j, provides'⟩
    refine ⟨?_, i, j, x, y, le, provides, hx, provides', hy⟩
    rw [Table.contains, CharMap.contains_eq_isSome, hy]
    rfl
  · intro circle
    have same (s : ModeSelector) : s.Applies t.hierarchy d ↔ s.Applies t.hierarchy p := by
      constructor
      · intro applies
        rw [isTree] at applies ⊢
        exact ModeSelector.applies_of_descends circle applies
      · exact inherits
    have built (mode : Mode) := RuleTables.generate_run_eq_build history mode
    change ((RuleTables.run history).generate d).value.1.value.entries =
      ((RuleTables.run history).generate p).value.1.value.entries
    rw [built d, built p]
    exact layer_congr _ _ same

/-- Parents in a circle of three modes, with a group for one of them and one for another. -/
theorem inherited_entries_circle :
    let tree := ((ModeTree.empty.declare "a" "b").declare "b" "c").declare "c" "a"
    let t := RuleTables.run [.withHierarchy (.ofTree tree),
      .register (.single "a") [.literal "=>"], .register (.set ["x", "c"]) [.literal "=="]]
    let above := (t.generate "b").value.1.value
    let below := (t.generate "a").value.1.value
    (t.hierarchy = .ofTree tree ∧ tree.isDescendant "a" "b" = true ∧
      tree.isDescendant "b" "a" = true ∧ above.contains '=' = true) ∧
    below.contains '=' = true ∧ below.entries = above.entries ∧
    ∃ i j x y, i ≤ j ∧
      Provides t.registry.entries t.hierarchy "b" '=' i x ∧ above.entries.get? '=' = some x ∧
      Provides t.registry.entries t.hierarchy "a" '=' j y ∧ below.entries.get? '=' = some y := by
  intro tree t above below
  have isTree : t.hierarchy = .ofTree tree := rfl
  have up : tree.isDescendant "a" "b" = true := by decide
  have down : tree.isDescendant "b" "a" = true := by decide
  have present : above.contains '=' = true := by decide
  obtain ⟨inherited, same⟩ := inherited_entries _ isTree up
  obtain ⟨present', sources⟩ := inherited '=' present
  exact ⟨⟨isTree, up, down, present⟩, present', same down, sources⟩

end Ligature.Rules
