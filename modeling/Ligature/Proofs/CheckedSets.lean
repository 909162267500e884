import Mathlib.Data.Finset.Card
import Ligature.Proofs.ConfiguredTables
import Ligature.Proofs.Outcomes
import Ligature.Proofs.Replacement

/-!
# What a check reports

A check succeeds if all ligature sets of the configuration register. It then counts the groups that
are registered: one for each selector, since a set takes the place of an earlier set that has its
selector. Otherwise it reports the sets that are refused.
-/
namespace Ligature

open Files (Disk Path)
open Machine (outcome)
open Rules (ModeSelector RuleTables Registration compileRules expandRegex standing)

namespace Config

variable {c : Config}

def selectors (c : Config) : Finset ModeSelector := (c.sets.map (·.selector)).toFinset

/-- The sets that register and are not replaced by a later one, as registrations. -/
def lasting (c : Config) : List Registration := standing (c.sets.map (·.registration))

theorem failures_eq_nil_iff : c.failures = [] ↔ ∀ set ∈ c.sets, ¬ set.Refused := by
  rw [List.eq_nil_iff_forall_not_mem]
  constructor
  · intro none set mem refused
    obtain ⟨i, listed⟩ := List.mem_iff_getElem?.mp mem
    obtain ⟨f, failed, -⟩ := exists_failure_iff.mpr ⟨set, listed, refused⟩
    exact none f failed
  · intro passed f failed
    obtain ⟨set, listed, refused⟩ := exists_failure_iff.mp ⟨f, failed, rfl⟩
    exact passed set (List.mem_of_getElem? listed) refused

theorem card_selectors_eq_iff :
    c.selectors.card = c.sets.length ↔ (c.sets.map (·.selector)).Nodup := by
  constructor
  · intro all
    rw [← List.length_map (·.selector)] at all
    exact Multiset.toFinset_card_eq_card_iff_nodup.mp all
  · intro distinct
    rw [selectors, List.toFinset_card_of_nodup distinct, List.length_map]

theorem mem_lasting_selectors (passed : ∀ set ∈ c.sets, ¬ set.Refused) {s : ModeSelector} :
    s ∈ c.lasting.map (·.selector) ↔ s ∈ c.selectors := by
  rw [lasting, Rules.mem_selectors_standing, selectors, List.mem_toFinset, List.mem_map]
  constructor
  · rintro ⟨r, mem, -, same⟩
    obtain ⟨set, listed, rfl⟩ := List.mem_map.mp mem
    exact ⟨set, listed, same⟩
  · rintro ⟨set, listed, same⟩
    refine ⟨set.registration, List.mem_map_of_mem listed, ?_, same⟩
    exact set.accepted_registration_iff.mpr (passed set listed)

theorem standing_setup (c : Config) : standing (Rules.registrations c.setup) = c.lasting := by
  have given := registrations_setup c []
  rw [List.map_nil, List.append_nil] at given
  rw [given, lasting]

end Config

namespace Session

variable {c : Config}

theorem tables_start (c : Config) : (start c).value.tables = RuleTables.run c.setup := by
  simp only [start, Traced.value_bind, Traced.value_pure]
  rw [value_addSets (expander_withHierarchy (.ofTree c.modeTree))]
  rfl

/-- What is registered at the start are the groups of the sets that last. -/
theorem entries_start (c : Config) :
    (start c).value.tables.registry.entries.map (fun e => (e.1, e.2.plain)) =
      c.lasting.map fun r => (r.selector, r.group) := by
  rw [tables_start, (RuleTables.reflects_run c.setup).entries, Config.standing_setup]

theorem size_registry_start (passed : ∀ set ∈ c.sets, ¬ set.Refused) :
    (start c).value.tables.registry.size = c.selectors.card := by
  have listed := (RuleTables.reflects_run c.setup).selectors
  rw [Config.standing_setup] at listed
  have distinct := Rules.distinct_selectors_run c.setup
  -- The registry has no selector twice, so its size is that of the set of its selectors.
  have same : (c.lasting.map (·.selector)).toFinset = c.selectors := by
    ext s
    rw [List.mem_toFinset, Config.mem_lasting_selectors passed]
  rw [tables_start, Rules.Registry.size, ← List.length_map (·.1), ← same, ← listed,
    List.toFinset_card_of_nodup distinct]

end Session

/-! ### The command -/

def Config.approval (c : Config) : String :=
  let count := c.selectors.card
  s!"ok: {count} ligature sets registered\n"

def Config.checked (c : Config) : Except (List SetFailure) String :=
  (Session.start c >>= Command.check.answer).value

def Invocation.loaded (i : Invocation) (home : Path) (d : Disk) :
    Except StoreError Config × Disk :=
  outcome (match i.config with
    | some p => Config.loadFrom p
    | none => Config.load home) d

namespace Config

variable {c : Config} {text : String} {failures : List SetFailure}

theorem checked_eq (c : Config) : c.checked =
    if c.failures = [] then .ok c.approval else .error c.failures := by
  have reported : (Session.start c).value.failures = c.failures := (Session.serves_start c).failures
  rw [checked, Traced.value_bind, Command.answer, Traced.value_pure, reported]
  by_cases none : c.failures = []
  · have count := Session.size_registry_start (failures_eq_nil_iff.mp none)
    simp only [none, List.isEmpty_nil, if_true, count, approval]
  · simp only [List.isEmpty_iff, none, if_false]

theorem checked_eq_ok_iff :
    c.checked = .ok text ↔ (∀ set ∈ c.sets, ¬ set.Refused) ∧ text = c.approval := by
  rw [checked_eq, ← failures_eq_nil_iff]
  by_cases none : c.failures = []
  · rw [if_pos none, Except.ok.injEq, eq_comm]
    exact (and_iff_right none).symm
  · rw [if_neg none]
    constructor
    · intro refused
      cases refused
    · rintro ⟨none', -⟩
      exact absurd none' none

theorem checked_eq_error_iff :
    c.checked = .error failures ↔ (∃ set ∈ c.sets, set.Refused) ∧ failures = c.failures := by
  have some_iff : (∃ set ∈ c.sets, set.Refused) ↔ c.failures ≠ [] := by
    rw [Ne, failures_eq_nil_iff]
    push Not
    rfl
  rw [checked_eq, some_iff]
  by_cases none : c.failures = []
  · rw [if_pos none]
    constructor
    · intro passed
      cases passed
    · rintro ⟨some, -⟩
      exact absurd none some
  · rw [if_neg none, Except.error.injEq, eq_comm]
    exact (and_iff_right none).symm

end Config

theorem Program.outcome_check (home : Path) (source : Option Path) (level : Option Nat) (d : Disk) :
    let i : Invocation := ⟨.check, source, level⟩
    (outcome (Program.run home i) d).1 = match (i.loaded home d).1 with
      | .ok c => c.checked.mapError .refused
      | .error e => .error (.store e) := by
  intro i
  rw [Program.outcome_run]
  change (i.answerTo (i.loaded home d)).1 = _
  obtain ⟨result, d'⟩ := i.loaded home d
  cases result with
  | ok c => rfl
  | error e => rfl

/-- With any configuration in use, a check succeeds just if every ligature set registers, and then
prints the number of different selectors of the sets; otherwise it reports the sets that are
refused. What is registered are the sets whose selector no later one has, so that none is lost just
if no two sets share a selector. The program does this with the configuration that it loads. -/
theorem check_counts_selectors :
    (∀ c : Config,
      (∀ text, c.checked = .ok text ↔
        (∀ set ∈ c.sets, ¬ set.Refused) ∧ text = c.approval) ∧
      (∀ failures, c.checked = .error failures ↔
        (∃ set ∈ c.sets, set.Refused) ∧ failures = c.failures) ∧
      ((Session.start c).value.tables.registry.entries.map fun e => (e.1, e.2.plain)) =
        c.lasting.map (fun r => (r.selector, r.group)) ∧
      (c.selectors.card = c.sets.length ↔ (c.sets.map (·.selector)).Nodup)) ∧
    ∀ (home : Path) (source : Option Path) (level : Option Nat) (d : Disk),
      let i : Invocation := ⟨.check, source, level⟩
      let answer := (outcome (Program.run home i) d).1
      (∀ text, answer = .ok text ↔ ∃ c, (i.loaded home d).1 = .ok c ∧
        (∀ set ∈ c.sets, ¬ set.Refused) ∧ text = c.approval) ∧
      ∀ failures, answer = .error (.refused failures) ↔ ∃ c, (i.loaded home d).1 = .ok c ∧
        (∃ set ∈ c.sets, set.Refused) ∧ failures = c.failures := by
  constructor
  · intro c
    refine ⟨?_, ?_, Session.entries_start c, Config.card_selectors_eq_iff⟩
    · intro text
      exact Config.checked_eq_ok_iff
    · intro failures
      exact Config.checked_eq_error_iff
  · intro home source level d i answer
    have answered : answer = _ := Program.outcome_check home source level d
    rw [answered]
    cases (i.loaded home d).1 with
    | error e => simp
    | ok c =>
      simp only [Except.ok.injEq, exists_eq_left', ← Config.checked_eq_ok_iff,
        ← Config.checked_eq_error_iff]
      cases c.checked with
      | ok text => simp [Except.mapError]
      | error failures => simp [Except.mapError]

/-- Two sets for every mode: both register, the second in the place of the first, and the check
counts one of them. -/
theorem replaced_set_not_counted :
    let c : Config := ⟨[.forAll ["=>"], ⟨some (.one "*"), [.literal "->"]⟩], [], [], 1⟩
    let given := c.sets.length
    (c.sets.all fun set => (compileRules expandRegex set.specs).isOk) = true ∧ given = 2 ∧
      c.checked = .ok "ok: 1 ligature sets registered\n" ∧
      c.checked ≠ .ok s!"ok: {given} ligature sets registered\n" := by
  decide +kernel

end Ligature
