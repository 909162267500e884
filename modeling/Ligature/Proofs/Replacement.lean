import Mathlib.Data.List.Nodup
import Ligature.Proofs.EntrySources

/-!
# What a registration changes

A registration takes the place of the group of its selector. In the modes that the selector applies
to it supplies the characters it leads with; what only the old group had falls back to the newest
other group. No other entry of any mode changes.
-/
namespace Ligature.Rules

variable {h : Hierarchy} {mode : Mode} {c : Char} {s : ModeSelector}

/-! ### One group per selector -/

theorem distinct_selectors_run (history : List Request) :
    ((RuleTables.run history).registry.entries.map (·.1)).Nodup :=
  (RuleTables.reflects_run history).distinct

theorem find?_selector_of_mem {entries : Entries} {g : RegisteredGroup}
    (distinct : (entries.map (·.1)).Nodup) (mem : (s, g) ∈ entries) :
    entries.find? (·.1 = s) = some (s, g) := by
  induction entries with
  | nil => cases mem
  | cons e rest ih =>
    obtain ⟨others, distinct⟩ := List.nodup_cons.mp distinct
    rcases List.mem_cons.mp mem with rfl | later
    · simp
    · have differ : e.1 ≠ s := by
        rintro rfl
        exact others (List.mem_map.mpr ⟨_, later, rfl⟩)
      rw [List.find?_cons_of_neg (by simpa using differ), ih distinct later]

theorem findSome?_filter_selector {entries : Entries}
    (nothing : ∀ e ∈ entries, e.1 = s → offer h mode c e = none) :
    (entries.filter (·.1 ≠ s)).findSome? (offer h mode c) =
      entries.findSome? (offer h mode c) := by
  induction entries with
  | nil => rfl
  | cons e rest ih =>
    obtain ⟨first, nothing⟩ := List.forall_mem_cons.mp nothing
    by_cases same : e.1 = s
    · rw [List.filter_cons_of_neg (by simpa using same), List.findSome?_cons, first same,
        ih nothing]
    · rw [List.filter_cons_of_pos (by simpa using same), List.findSome?_cons, List.findSome?_cons,
        ih nothing]

/-! ### New patterns -/

theorem le_number_of_mem_numberFrom {α : Type} {start : Nat} {l : List (Char × α)}
    {x : Char × Numbered α} (mem : x ∈ numberFrom start l) : start ≤ x.2.number := by
  induction l generalizing start with
  | nil => cases mem
  | cons y rest ih =>
    rcases List.mem_cons.mp mem with rfl | later
    · exact Nat.le_refl start
    · exact Nat.le_of_succ_le (ih later)

theorem get?_register_of_get? {g : RuleGroup} {p : CompiledPattern} (start : Nat)
    (hp : g.get? c = some p) : ∃ n, start ≤ n ∧ (g.register start).get? c = some ⟨n, p⟩ := by
  have plain := RegisteredGroup.get?_plain (g.register start) c
  rw [plain_register, hp] at plain
  obtain ⟨⟨n, p'⟩, found, rfl⟩ := Option.map_eq_some_iff.mp plain.symm
  refine ⟨n, ?_, found⟩
  obtain ⟨x, hx, value⟩ := Option.map_eq_some_iff.mp found
  have new := le_number_of_mem_numberFrom (List.mem_of_find?_eq_some hx)
  rwa [value] at new

theorem get?_register_eq_none {g : RuleGroup} {start : Nat} (hg : g.get? c = none) :
    (g.register start).get? c = none := by
  have plain := RegisteredGroup.get?_plain (g.register start) c
  rw [plain_register, hg] at plain
  exact Option.map_eq_none_iff.mp plain.symm

/-! ### Tables before and behind a registration -/

/-- The new group is asked first, then the groups of the other selectors. -/
theorem get?_generate_register (history : List Request) {specs : List Spec} {g : RuleGroup}
    (compiled : compileRules (RuleTables.run history).expander specs = .ok g) (mode : Mode)
    (c : Char) :
    let t := RuleTables.run history
    ((t.register s specs).value.2.generate mode).value.1.value.entries.get? c =
      (offer t.hierarchy mode c (s, g.register t.registry.created)).or
        ((t.registry.entries.filter (·.1 ≠ s)).reverse.findSome? (offer t.hierarchy mode c)) := by
  intro t
  have next : (t.register s specs).value.2 = RuleTables.run (history ++ [.register s specs]) := by
    rw [RuleTables.run_snoc]
    rfl
  rw [next, RuleTables.generate_run_eq_build, get?_buildTable_eq_findSome?, ← next,
    RuleTables.register_accepted compiled]
  simp only [Registry.replace_eq (distinct_selectors_run history), List.reverse_append,
    List.reverse_singleton, List.singleton_append, List.findSome?_cons]
  cases offer t.hierarchy mode c (s, g.register t.registry.created) with
  | some p => rfl
  | none => rfl

/-- A registration that is accepted changes the entry of a character only in the modes that its
selector applies to, and only if the new or the old group has the character. The entry is then that
of the new group as it was compiled, or else that of the newest group of another selector. -/
theorem accepted_registration_frame (history : List Request) (s : ModeSelector)
    (specs : List Spec)
    (accepted : ((RuleTables.run history).register s specs).value.1 = .ok ())
    (mode : Mode) (c : Char) :
    let t := RuleTables.run history
    let before := (t.generate mode).value.1.value.entries
    let behind := ((t.register s specs).value.2.generate mode).value.1.value.entries
    let leads := ∃ spec ∈ specs, spec.leading? = some c
    let had := ∃ g, t.registry.get? s = some g ∧ g.contains c = true
    (¬ (s.Applies t.hierarchy mode ∧ (leads ∨ had)) → behind.get? c = before.get? c) ∧
    (s.Applies t.hierarchy mode → leads →
      ∃ g p n, compileRules t.expander specs = .ok g ∧ g.get? c = some p ∧
        t.registry.created ≤ n ∧ behind.get? c = some ⟨n, p⟩) ∧
    (s.Applies t.hierarchy mode → ¬ leads → had →
      ∀ p, behind.get? c = some p ↔
        ∃ i, Provides (t.registry.entries.filter (·.1 ≠ s)) t.hierarchy mode c i p) := by
  intro t before behind leads had
  obtain ⟨g, compiled⟩ : ∃ g, compileRules t.expander specs = .ok g := by
    cases compiled : compileRules t.expander specs with
    | ok g => exact ⟨g, rfl⟩
    | error e => simp [t, RuleTables.register_refused compiled] at accepted
  have entry : behind.get? c =
      (offer t.hierarchy mode c (s, g.register t.registry.created)).or
        ((t.registry.entries.filter (·.1 ≠ s)).reverse.findSome? (offer t.hierarchy mode c)) :=
    get?_generate_register history compiled mode c
  have led : (g.get? c).isSome = true ↔ leads := isSome_compileRules compiled c
  have unled (h : ¬ leads) : g.get? c = none := by
    rw [← led, Option.not_isSome_iff_eq_none] at h
    exact h
  refine ⟨?_, ?_, ?_⟩
  · intro untouched
    have newer : offer t.hierarchy mode c (s, g.register t.registry.created) = none := by
      apply offer_eq_none_iff.mpr
      intro applies
      exact get?_register_eq_none (unled fun h => untouched ⟨applies, .inl h⟩)
    have older : ∀ e ∈ t.registry.entries, e.1 = s → offer t.hierarchy mode c e = none := by
      rintro ⟨_, g'⟩ mem rfl
      apply offer_eq_none_iff.mpr
      intro applies
      by_contra has
      refine untouched ⟨applies, .inr ⟨g', ?_, ?_⟩⟩
      · exact congrArg (Option.map (·.2))
          (find?_selector_of_mem (distinct_selectors_run history) mem)
      · rw [CharMap.contains_eq_isSome]
        exact Option.isSome_iff_ne_none.mpr has
    have kept := findSome?_filter_selector (s := s) fun e (he : e ∈ t.registry.entries.reverse) =>
      older e (List.mem_reverse.mp he)
    rw [List.filter_reverse] at kept
    rw [entry, newer, Option.none_or, kept, ← get?_buildTable_eq_findSome?,
      ← RuleTables.generate_run_eq_build]
  · intro applies h
    obtain ⟨p, hp⟩ := Option.isSome_iff_exists.mp (led.mpr h)
    obtain ⟨n, new, hn⟩ := get?_register_of_get? t.registry.created hp
    refine ⟨g, p, n, compiled, hp, new, ?_⟩
    rw [entry, offer_eq_some_iff.mpr ⟨applies, hn⟩, Option.some_or]
  · intro applies h _ p
    have newer : offer t.hierarchy mode c (s, g.register t.registry.created) = none :=
      offer_eq_none_iff.mpr fun _ => get?_register_eq_none (unled h)
    rw [entry, newer, Option.none_or, findSome?_reverse_eq_some_iff]

/-- One mode gets another arrow in the place of two; the long dash of all modes shows again. -/
theorem accepted_registration_frame_arrow :
    let t := RuleTables.run [.register .universal [.literal "---"],
      .register (.single "a") [.literal "=>", .literal "->"], .generate "a"]
    let specs := [Spec.literal "=!"]
    let behind mode :=
      ((t.register (.single "a") specs).value.2.generate mode).value.1.value.entries
    (t.register (.single "a") specs).value.1 = .ok () ∧
    (behind "b").get? '=' = (t.generate "b").value.1.value.entries.get? '=' ∧
    (∃ g p n, compileRules t.expander specs = .ok g ∧ g.get? '=' = some p ∧
      t.registry.created ≤ n ∧ (behind "a").get? '=' = some ⟨n, p⟩) ∧
    ∀ p, (behind "a").get? '-' = some p ↔
      ∃ i, Provides (t.registry.entries.filter (·.1 ≠ .single "a")) t.hierarchy "a" '-' i p := by
  intro t specs behind
  have accepted : (t.register (.single "a") specs).value.1 = .ok () := by decide
  have frame := accepted_registration_frame _ (.single "a") specs accepted
  have elsewhere : ¬ (ModeSelector.single "a").Applies t.hierarchy "b" := by
    rintro (same | descends)
    · exact absurd same (by decide)
    · cases descends
  have leads : ∃ spec ∈ specs, spec.leading? = some '=' := ⟨_, List.mem_cons_self, by decide⟩
  have unled : ¬ ∃ spec ∈ specs, spec.leading? = some '-' := by
    rintro ⟨spec, mem, led⟩
    obtain rfl := List.mem_singleton.mp mem
    exact absurd led (by decide)
  have had : ∃ g, t.registry.get? (.single "a") = some g ∧ g.contains '-' = true :=
    ⟨_, rfl, by decide⟩
  refine ⟨accepted, ?_, ?_, ?_⟩
  · exact (frame "b" '=').1 fun touched => elsewhere touched.1
  · exact (frame "a" '=').2.1 (.inl rfl) leads
  · exact (frame "a" '-').2.2 (.inl rfl) unled had

end Ligature.Rules
