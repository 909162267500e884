import Mathlib.Data.Finset.Card
import Ligature.Proofs.Refusals

/-!
# When two requests get the same table

Tables are told apart by the numbers they are built under. A mode keeps its table until something
that tables are made of changes: until a registration is accepted or a hierarchy is put in force.
From then on every table is a new one.
-/
namespace Ligature.Rules

namespace RuleTables

/-! ### What is done with the cache -/

def Renews (t : RuleTables) : Request → Prop
  | .register s specs => (t.register s specs).value.1 = .ok ()
  | .withHierarchy _ => True
  | .generate _ | .withExpander _ => False

def Quiet (t : RuleTables) : List Request → Prop
  | [] => True
  | q :: later => ¬ t.Renews q ∧ (t.after q).Quiet later

def GeneratedSince (history : List Request) (mode : Mode) : Prop :=
  ∃ before later, history = before ++ .generate mode :: later ∧
    (run (before ++ [.generate mode])).Quiet later

variable {t : RuleTables} {q : Request} {mode : Mode} {u : Numbered Table} {n : Nat}

theorem quiet_append (t : RuleTables) (a b : List Request) :
    t.Quiet (a ++ b) ↔ t.Quiet a ∧ (a.foldl after t).Quiet b := by
  induction a generalizing t with
  | nil => simp [Quiet]
  | cons q a ih => simp [Quiet, ih, and_assoc]

theorem run_append (a b : List Request) : run (a ++ b) = b.foldl after (run a) := by
  simp [run, List.foldl_append]

theorem after_of_renews (h : t.Renews q) : (t.after q).cache = ⟨[], t.cache.built⟩ := by
  cases q with
  | register s specs =>
    cases compiled : compileRules t.expander specs with
    | ok g => simp [after, register_accepted compiled]
    | error e => simp [Renews, register_refused compiled] at h
  | withHierarchy h' => simp [after, value_withHierarchy]
  | generate mode => cases h
  | withExpander e => cases h

theorem after_of_not_renews (h : ¬ t.Renews q) :
    (t.after q).cache = t.cache ∨
      ∃ mode u, q = .generate mode ∧ t.cache.get? mode = none ∧ u.number = t.cache.built ∧
        (t.after q).cache = ⟨(mode, u) :: t.cache.tables, t.cache.built + 1⟩ := by
  cases q with
  | register s specs =>
    cases compiled : compileRules t.expander specs with
    | ok g => exact absurd (by simp [Renews, register_accepted compiled]) h
    | error e => exact .inl (by simp [after, register_refused compiled])
  | withHierarchy h' => exact absurd trivial h
  | withExpander e => exact .inl rfl
  | generate mode =>
    rcases value_generate t mode with ⟨u, -, same⟩ | ⟨absent, new⟩
    · exact .inl (by simp [after, same])
    · refine .inr ⟨mode, ⟨t.cache.built, (buildTable mode t.registry t.hierarchy).value⟩, rfl,
        absent, rfl, ?_⟩
      simp [after, new]

/-! ### Cached modes -/

theorem isCached_iff : t.isCached mode = true ↔ ∃ u, t.cache.get? mode = some u :=
  TableCache.contains_iff

theorem cached_after_generate (t : RuleTables) (mode : Mode) :
    (t.after (.generate mode)).cache.get? mode = some (t.generate mode).value.1 := by
  rcases value_generate t mode with ⟨u, cached, same⟩ | ⟨-, new⟩
  · simp [after, same, cached]
  · simp [after, new, TableCache.get?]

theorem cached_after (h : ¬ t.Renews q) (cached : t.cache.get? mode = some u) :
    (t.after q).cache.get? mode = some u := by
  rcases after_of_not_renews h with same | ⟨m, v, -, absent, -, new⟩
  · rw [same, cached]
  · have differ : m ≠ mode := by
      rintro rfl
      exact nomatch absent.symm.trans cached
    rw [new]
    simpa [TableCache.get?, differ] using cached

theorem cached_of_quiet {later : List Request} (quiet : t.Quiet later)
    (cached : t.cache.get? mode = some u) : (later.foldl after t).cache.get? mode = some u := by
  induction later generalizing t with
  | nil => exact cached
  | cons q later ih => exact ih quiet.2 (cached_after quiet.1 cached)

theorem isCached_after :
    (t.after q).isCached mode = true ↔
      q = .generate mode ∨ (t.isCached mode = true ∧ ¬ t.Renews q) := by
  by_cases renews : t.Renews q
  · have notGenerate : q ≠ .generate mode := by
      rintro rfl
      exact renews
    have empty := after_of_renews renews
    simp [isCached, TableCache.contains, empty, renews, notGenerate]
  · rcases after_of_not_renews renews with same | ⟨m, v, rfl, absent, -, new⟩
    · constructor
      · intro cached
        exact .inr ⟨by simpa [isCached, same] using cached, renews⟩
      · rintro (rfl | ⟨cached, -⟩)
        · exact isCached_iff.mpr ⟨_, cached_after_generate t mode⟩
        · simpa [isCached, same] using cached
    · simp [isCached, TableCache.contains, new, renews]

theorem generatedSince_snoc {history : List Request} :
    GeneratedSince (history ++ [q]) mode ↔
      q = .generate mode ∨ (GeneratedSince history mode ∧ ¬ (run history).Renews q) := by
  constructor
  · rintro ⟨before, later, split, quiet⟩
    rcases List.eq_nil_or_concat later with rfl | ⟨later, q', rfl⟩
    · obtain ⟨-, last⟩ := List.append_inj' split rfl
      exact .inl (by simpa using last)
    · rw [List.concat_eq_append] at split quiet
      rw [← List.cons_append, ← List.append_assoc] at split
      obtain ⟨rfl, last⟩ := List.append_inj' split rfl
      obtain rfl : q = q' := by simpa using last
      obtain ⟨quiet, last⟩ := (quiet_append _ _ _).mp quiet
      refine .inr ⟨⟨before, later, rfl, quiet⟩, ?_⟩
      rw [← List.singleton_append, ← List.append_assoc, run_append]
      exact last.1
  · rintro (rfl | ⟨⟨before, later, rfl, quiet⟩, last⟩)
    · exact ⟨history, [], rfl, trivial⟩
    · refine ⟨before, later ++ [q], by simp, (quiet_append _ _ _).mpr ⟨quiet, ?_, trivial⟩⟩
      rw [← run_append, List.append_assoc]
      exact last

theorem isCached_run_iff (history : List Request) (mode : Mode) :
    (run history).isCached mode = true ↔ GeneratedSince history mode := by
  induction history using List.reverseRecOn with
  | nil => simp [run, new, isCached, TableCache.contains, TableCache.empty, GeneratedSince]
  | append_singleton history q ih => rw [run_snoc, isCached_after, generatedSince_snoc, ih]

theorem distinct_run (history : List Request) :
    ((run history).cache.tables.map (·.1)).Nodup := by
  induction history using List.reverseRecOn with
  | nil => exact List.nodup_nil
  | append_singleton history q ih =>
    rw [run_snoc]
    by_cases renews : (run history).Renews q
    · rw [after_of_renews renews]
      exact List.nodup_nil
    · rcases after_of_not_renews renews with same | ⟨mode, u, -, absent, -, new⟩
      · rwa [same]
      · rw [new]
        exact List.nodup_cons.mpr ⟨TableCache.not_mem_modes absent, ih⟩

/-! ### Numbers of tables -/

/-- The table of number `n` was built and is not cached, so that it is not handed out again. -/
def Discarded (n : Nat) (t : RuleTables) : Prop :=
  n < t.cache.built ∧ ∀ mode u, t.cache.get? mode = some u → n < u.number

theorem built_le_after (t : RuleTables) (q : Request) :
    t.cache.built ≤ (t.after q).cache.built := by
  by_cases renews : t.Renews q
  · rw [after_of_renews renews]
  · rcases after_of_not_renews renews with same | ⟨mode, u, -, -, -, new⟩
    · rw [same]
    · rw [new]
      exact Nat.le_succ _

theorem discarded_of_renews (built : n < t.cache.built) (h : t.Renews q) :
    Discarded n (t.after q) := by
  unfold Discarded
  rw [after_of_renews h]
  exact ⟨built, fun mode u cached => nomatch cached⟩

theorem discarded_after (h : Discarded n t) (q : Request) : Discarded n (t.after q) := by
  by_cases renews : t.Renews q
  · exact discarded_of_renews h.1 renews
  · refine ⟨lt_of_lt_of_le h.1 (built_le_after t q), ?_⟩
    rcases after_of_not_renews renews with same | ⟨m, v, -, -, number, new⟩
    · rw [same]
      exact h.2
    · intro mode u cached
      rw [new] at cached
      by_cases same : m = mode
      · obtain rfl : v = u := by simpa [TableCache.get?, same] using cached
        rw [number]
        exact h.1
      · exact h.2 mode u (by simpa [TableCache.get?, same] using cached)

theorem discarded_of_not_quiet {later : List Request} (built : n < t.cache.built)
    (loud : ¬ t.Quiet later) : Discarded n (later.foldl after t) := by
  have kept : ∀ (later : List Request) {t : RuleTables}, Discarded n t →
      Discarded n (later.foldl after t) := by
    intro later
    induction later with
    | nil => exact fun h => h
    | cons q later ih => exact fun h => ih (discarded_after h q)
  induction later generalizing t with
  | nil => exact absurd trivial loud
  | cons q later ih =>
    by_cases renews : t.Renews q
    · exact kept later (discarded_of_renews built renews)
    · exact ih (lt_of_lt_of_le built (built_le_after t q)) fun quiet => loud ⟨renews, quiet⟩

theorem number_ne_of_discarded (h : Discarded n t) (mode : Mode) :
    (t.generate mode).value.1.number ≠ n := by
  rcases value_generate t mode with ⟨u, cached, same⟩ | ⟨-, new⟩
  · rw [same]
    exact Nat.ne_of_gt (h.2 mode u cached)
  · rw [new]
    exact Nat.ne_of_gt h.1

theorem cached_number_lt (history : List Request)
    (cached : (run history).cache.get? mode = some u) :
    u.number < (run history).cache.built := by
  induction history using List.reverseRecOn generalizing mode u with
  | nil => cases cached
  | append_singleton history q ih =>
    rw [run_snoc] at cached ⊢
    by_cases renews : (run history).Renews q
    · rw [after_of_renews renews] at cached
      cases cached
    · rcases after_of_not_renews renews with same | ⟨m, v, -, -, number, new⟩
      · rw [same] at cached ⊢
        exact ih cached
      · rw [new] at cached ⊢
        by_cases same : m = mode
        · obtain rfl : v = u := by simpa [TableCache.get?, same] using cached
          rw [number]
          exact Nat.lt_succ_self _
        · have older := ih (by simpa [TableCache.get?, same] using cached)
          exact Nat.lt_succ_of_lt older

/-- In any run, two requests for the table of a mode get the same table just if no registration was
accepted and no hierarchy put in force between them; the modes with a cached table are those whose
table was asked for since that happened last. -/
theorem same_table_iff_quiet (history : List Request) :
    (∀ mode between,
      let first := ((run history).generate mode).value.1
      let second := ((run (history ++ .generate mode :: between)).generate mode).value.1
      (second.number = first.number ↔ (run (history ++ [.generate mode])).Quiet between) ∧
      (second.number = first.number → second = first)) ∧
    (∀ mode, (run history).isCached mode = true ↔ GeneratedSince history mode) ∧
    ∃ modes : Finset Mode, (∀ mode, mode ∈ modes ↔ GeneratedSince history mode) ∧
      (run history).cachedModes = modes.card := by
  refine ⟨?_, isCached_run_iff history, ?_⟩
  · intro mode between first second
    have cached : (run (history ++ [.generate mode])).cache.get? mode = some first := by
      rw [run_snoc]
      exact cached_after_generate _ mode
    have built := cached_number_lt (history ++ [.generate mode]) cached
    have later : run (history ++ .generate mode :: between) =
        between.foldl after (run (history ++ [.generate mode])) := by
      rw [← run_append, List.append_assoc, List.singleton_append]
    have same (quiet : (run (history ++ [.generate mode])).Quiet between) : second = first := by
      have still := cached_of_quiet quiet cached
      rw [← later] at still
      exact congrArg (·.1) (generate_of_cached still)
    have quiet (equal : second.number = first.number) :
        (run (history ++ [.generate mode])).Quiet between := by
      by_contra loud
      have gone := discarded_of_not_quiet built loud
      rw [← later] at gone
      exact number_ne_of_discarded gone mode equal
    exact ⟨⟨quiet, fun h => congrArg (·.number) (same h)⟩, fun equal => same (quiet equal)⟩
  · refine ⟨((run history).cache.tables.map (·.1)).toFinset, ?_, ?_⟩
    · intro mode
      rw [← isCached_run_iff]
      simp [isCached, TableCache.contains]
    · rw [List.toFinset_card_of_nodup (distinct_run history), List.length_map]
      rfl

end RuleTables

end Ligature.Rules
