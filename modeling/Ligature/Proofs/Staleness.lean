import Mathlib.Data.Finset.Card
import Ligature.Proofs.TableHistory

/-!
# How long a cached table stays

A table depends on the registry and on the hierarchy, but a cache finds it by its mode alone. So
whatever registries and hierarchies come with later calls, a mode keeps the table that it got from
its first call since the cache was emptied. Whoever owns a cache has to empty it when one of the
two changes.
-/
namespace Ligature.Rules.TableCache

/-! ### Calls -/

inductive Call where
  | generate (mode : Mode) (registry : Registry) (hierarchy : Hierarchy)
  | invalidate

def after (c : TableCache) : Call → TableCache
  | .generate mode r h => (c.generate mode r h).value.2
  | .invalidate => c.invalidate.value

def run (calls : List Call) : TableCache := calls.foldl after empty

/-- The table of a mode was asked for, with whatever registry and hierarchy, and the cache has not
been emptied since. -/
def AskedSince (calls : List Call) (mode : Mode) : Prop :=
  ∃ before r h later, calls = before ++ .generate mode r h :: later ∧ .invalidate ∉ later

structure FirstCall (calls : List Call) (mode : Mode) where
  before : List Call
  registry : Registry
  hierarchy : Hierarchy
  later : List Call
  split : calls = before ++ .generate mode registry hierarchy :: later
  kept : .invalidate ∉ later
  first : ¬ AskedSince before mode

def FirstCall.answer {calls : List Call} {mode : Mode} (first : FirstCall calls mode) :
    Numbered Table :=
  ((run first.before).generate mode first.registry first.hierarchy).value.1

variable {c : TableCache} {call : Call} {calls : List Call} {mode : Mode} {u : Numbered Table}

theorem run_append (a b : List Call) : run (a ++ b) = b.foldl after (run a) := by
  simp [run, List.foldl_append]

theorem run_snoc (calls : List Call) (call : Call) :
    run (calls ++ [call]) = (run calls).after call := run_append calls [call]

/-! ### One call -/

theorem after_invalidate (c : TableCache) : c.after .invalidate = ⟨[], c.built⟩ :=
  c.value_invalidate

theorem cached_after_generate (c : TableCache) (mode : Mode) (r : Registry) (h : Hierarchy) :
    (c.after (.generate mode r h)).get? mode = some (c.generate mode r h).value.1 := by
  rcases c.generate_cases mode r h with ⟨u, cached, same⟩ | ⟨-, new⟩
  · simp [after, same, cached]
  · simp [after, new, get?]

theorem cached_after (keeps : call ≠ .invalidate) (cached : c.get? mode = some u) :
    (c.after call).get? mode = some u := by
  cases call with
  | invalidate => exact absurd rfl keeps
  | generate m r h =>
    rcases c.generate_cases m r h with ⟨v, -, same⟩ | ⟨absent, new⟩
    · simpa [after, same] using cached
    · have differ : m ≠ mode := by
        rintro rfl
        exact nomatch absent.symm.trans cached
      simpa [after, new, get?, differ] using cached

theorem contains_after :
    (c.after call).contains mode = true ↔
      (∃ r h, call = .generate mode r h) ∨ (c.contains mode = true ∧ call ≠ .invalidate) := by
  cases call with
  | invalidate => simp [after_invalidate, contains]
  | generate m r h =>
    rcases c.generate_cases m r h with ⟨v, cached, same⟩ | ⟨-, new⟩
    · have held : m = mode → c.contains mode = true := by
        rintro rfl
        exact contains_iff.mpr ⟨v, cached⟩
      simpa [after, same] using held
    · simp [after, new, contains]

theorem distinct_after (distinct : (c.tables.map (·.1)).Nodup) (call : Call) :
    ((c.after call).tables.map (·.1)).Nodup := by
  cases call with
  | invalidate =>
    rw [after_invalidate]
    exact List.nodup_nil
  | generate m r h =>
    rcases c.generate_cases m r h with ⟨v, -, same⟩ | ⟨absent, new⟩
    · simpa [after, same] using distinct
    · simp only [after, new, List.map_cons]
      exact List.nodup_cons.mpr ⟨not_mem_modes absent, distinct⟩

/-! ### Runs -/

theorem askedSince_snoc :
    AskedSince (calls ++ [call]) mode ↔
      (∃ r h, call = .generate mode r h) ∨ (AskedSince calls mode ∧ call ≠ .invalidate) := by
  constructor
  · rintro ⟨before, r, h, later, split, kept⟩
    rcases List.eq_nil_or_concat later with rfl | ⟨later, call', rfl⟩
    · obtain ⟨-, last⟩ := List.append_inj' split rfl
      exact .inl ⟨r, h, by simpa using last⟩
    · rw [List.concat_eq_append] at split kept
      rw [← List.cons_append, ← List.append_assoc] at split
      obtain ⟨rfl, last⟩ := List.append_inj' split rfl
      obtain rfl : call = call' := by simpa using last
      simp only [List.mem_append, List.mem_singleton, not_or] at kept
      exact .inr ⟨⟨before, r, h, later, rfl, kept.1⟩, Ne.symm kept.2⟩
  · rintro (⟨r, h, rfl⟩ | ⟨⟨before, r, h, later, rfl, kept⟩, keeps⟩)
    · exact ⟨calls, r, h, [], rfl, List.not_mem_nil⟩
    · exact ⟨before, r, h, later ++ [call], by simp, by simp [kept, Ne.symm keeps]⟩

theorem contains_run_iff (calls : List Call) (mode : Mode) :
    (run calls).contains mode = true ↔ AskedSince calls mode := by
  induction calls using List.reverseRecOn with
  | nil => simp [run, empty, contains, AskedSince]
  | append_singleton calls call ih => rw [run_snoc, contains_after, askedSince_snoc, ih]

theorem distinct_run (calls : List Call) : ((run calls).tables.map (·.1)).Nodup := by
  induction calls using List.reverseRecOn with
  | nil => exact List.nodup_nil
  | append_singleton calls call ih =>
    rw [run_snoc]
    exact distinct_after ih call

theorem cached_of_kept {later : List Call} (kept : .invalidate ∉ later)
    (cached : c.get? mode = some u) : (later.foldl after c).get? mode = some u := by
  induction later generalizing c with
  | nil => exact cached
  | cons call later ih =>
    rw [List.mem_cons, not_or] at kept
    exact ih kept.2 (cached_after (Ne.symm kept.1) cached)

/-! ### The first call -/

theorem exists_firstCall (asked : AskedSince calls mode) : Nonempty (FirstCall calls mode) := by
  induction calls using List.reverseRecOn with
  | nil =>
    obtain ⟨before, r, h, later, split, -⟩ := asked
    simp at split
  | append_singleton calls call ih =>
    by_cases earlier : AskedSince calls mode ∧ call ≠ .invalidate
    · obtain ⟨first⟩ := ih earlier.1
      exact ⟨{ first with
        later := first.later ++ [call]
        split := by simp [first.split]
        kept := by simp [first.kept, Ne.symm earlier.2] }⟩
    · obtain ⟨r, h, rfl⟩ := (askedSince_snoc.mp asked).resolve_right earlier
      have first : ¬ AskedSince calls mode := fun asked => earlier ⟨asked, by simp⟩
      exact ⟨⟨calls, r, h, [], rfl, List.not_mem_nil, first⟩⟩

namespace FirstCall

theorem nothing_between (first other : FirstCall calls mode) {between : List Call}
    (more : other.before = first.before ++ between)
    (rest : .generate mode first.registry first.hierarchy :: first.later =
      between ++ .generate mode other.registry other.hierarchy :: other.later) : between = [] := by
  cases between with
  | nil => rfl
  | cons call between =>
    rw [List.cons_append] at rest
    obtain ⟨rfl, later⟩ := List.cons.inj rest
    have kept := first.kept
    rw [later, List.mem_append, not_or] at kept
    exact absurd ⟨_, _, _, between, more, kept.1⟩ other.first

theorem before_eq (first other : FirstCall calls mode) : other.before = first.before := by
  rcases List.append_eq_append_iff.mp (first.split.symm.trans other.split) with
    ⟨between, more, rest⟩ | ⟨between, more, rest⟩
  · rw [more, nothing_between first other more rest, List.append_nil]
  · rw [more, nothing_between other first more rest, List.append_nil]

theorem unique (first other : FirstCall calls mode) : other = first := by
  have before := before_eq first other
  have rest := first.split.symm.trans other.split
  rw [before, List.append_cancel_left_eq] at rest
  obtain ⟨_, _, _, _, _, _, _⟩ := first
  obtain ⟨_, _, _, _, _, _, _⟩ := other
  cases before
  cases rest
  rfl

theorem value_answer (first : FirstCall calls mode) :
    first.answer.value = (buildTable mode first.registry first.hierarchy).value := by
  rcases (run first.before).generate_cases mode first.registry first.hierarchy with
    ⟨u, cached, -⟩ | ⟨-, new⟩
  · exact absurd ((contains_run_iff _ _).mp (contains_iff.mpr ⟨u, cached⟩)) first.first
  · rw [answer, new]

theorem cached_answer (first : FirstCall calls mode) :
    (run calls).get? mode = some first.answer := by
  have here := (run first.before).cached_after_generate mode first.registry first.hierarchy
  have behind : run calls = first.later.foldl after
      ((run first.before).after (.generate mode first.registry first.hierarchy)) := by
    rw [← run_snoc, ← run_append, List.append_assoc, List.singleton_append, ← first.split]
  rw [behind]
  exact cached_of_kept first.kept here

end FirstCall

/-- A cache answers every call for the table of a mode with the table that was built for the first
such call since it was emptied, from the registry and the hierarchy of that call. It has a table
for just the modes that were asked for since then. -/
theorem first_table_kept (calls : List Call) :
    let c := run calls
    (∀ mode r h, ∃ first : FirstCall (calls ++ [.generate mode r h]) mode,
      (∀ other : FirstCall (calls ++ [.generate mode r h]) mode, other = first) ∧
      (c.generate mode r h).value.1 = first.answer ∧
      (c.generate mode r h).value.1.value =
        (buildTable mode first.registry first.hierarchy).value) ∧
    (∀ mode, c.contains mode = true ↔ AskedSince calls mode) ∧
    ∃ modes : Finset Mode, (∀ mode, mode ∈ modes ↔ AskedSince calls mode) ∧
      c.size = modes.card := by
  intro c
  refine ⟨?_, contains_run_iff calls, (c.tables.map (·.1)).toFinset, ?_, ?_⟩
  · intro mode r h
    obtain ⟨first⟩ := exists_firstCall (askedSince_snoc.mpr (.inl ⟨r, h, rfl⟩) :
      AskedSince (calls ++ [.generate mode r h]) mode)
    have answer : (c.generate mode r h).value.1 = first.answer := by
      have cached := first.cached_answer
      rw [run_snoc, cached_after_generate] at cached
      exact Option.some.inj cached
    exact ⟨first, first.unique, answer, by rw [answer, first.value_answer]⟩
  · intro mode
    rw [← contains_run_iff]
    simp [c, contains]
  · rw [List.toFinset_card_of_nodup (distinct_run calls), List.length_map]
    rfl

/-- What enters the registry behind a call is not seen before the cache is emptied. -/
example :
    let arrow : RuleGroup := CharMap.empty.insert '=' ⟨[], [">"]⟩
    let filled := (Registry.empty.replace .universal arrow).1
    let c := run [.generate "a" .empty .flat]
    (c.generate "a" filled .flat).value.1.value.size = 0 ∧
      ((c.after .invalidate).generate "a" filled .flat).value.1.value.size = 1 := by
  decide

end Ligature.Rules.TableCache
