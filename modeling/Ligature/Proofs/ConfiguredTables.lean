import Ligature.Proofs.Lineage
import Ligature.Proofs.Refusals
import Ligature.Session

/-!
# The tables of a configuration

A session registers the sets of its configuration in order and passes over those that are refused.
What it answers afterwards can be read off the configuration: which sets failed and why, which
modes have no table, and which set supplies a leading character of a mode. The last of the sets
that stand, apply to the mode and have the character does; it stands if it is not refused and no
later one takes its place.
-/
namespace Ligature

open Rules (ModeSelector ModeTree Hierarchy Spec RegistrationError RuleTables Registration Request
  FirstRefused compileRules expandRegex registrations registrationsFrom hierarchyOf
  hierarchyBehind)

/-! ### Sets and their registrations -/

namespace LigatureSet

def Refused (set : LigatureSet) : Prop := ∃ spec ∈ set.specs, ∃ e, spec.Refused expandRegex e

def failure? (set : LigatureSet) (index : Nat) : Option SetFailure :=
  match compileRules expandRegex set.specs with
  | .ok _ => none
  | .error e => some ⟨index, set.selector, e⟩

theorem failure?_eq_some_iff {set : LigatureSet} {index : Nat} {f : SetFailure} :
    set.failure? index = some f ↔ index = f.index ∧ f.selector = set.selector ∧
      FirstRefused expandRegex set.specs f.error := by
  rw [← Rules.compileRules_eq_error_iff, failure?]
  obtain ⟨i, selector, e⟩ := f
  cases compileRules expandRegex set.specs with
  | ok g => simp
  | error e' => simp [eq_comm (a := set.selector)]

def request (set : LigatureSet) : Request := .register set.selector set.specs

def registration (set : LigatureSet) : Registration := ⟨set.selector, set.specs, expandRegex⟩

theorem accepted_registration_iff (set : LigatureSet) :
    set.registration.Accepted ↔ ¬ set.Refused := by
  rw [Refused, ← Rules.exists_firstRefused_iff]
  simp only [← Rules.compileRules_eq_error_iff]
  constructor
  · rintro ⟨g, accepted⟩ ⟨e, refused⟩
    exact nomatch accepted.symm.trans refused
  · intro passed
    cases compiled : compileRules expandRegex set.specs with
    | ok g => exact ⟨g, compiled⟩
    | error e => exact absurd ⟨e, compiled⟩ passed

end LigatureSet

/-! ### What a configuration says -/

namespace Config

def parentOf? (c : Config) (mode : Mode) : Option Mode :=
  (c.modes.reverse.find? (·.name == mode)).map (·.parent)

def Refines (c : Config) : Mode → Mode → Prop :=
  Relation.ReflTransGen fun mode parent => c.parentOf? mode = some parent

def Selects (c : Config) (s : ModeSelector) (mode : Mode) : Prop :=
  match s with
  | .universal => True
  | .single t => c.Refines mode t
  | .set ts => ∃ t ∈ ts, c.Refines mode t

/-- A set may supply the pattern of a leading character in a mode: it is not refused, no later set
that is not refused has its selector, it selects the mode, and it has the character. -/
structure Supplies (c : Config) (mode : Mode) (leading : Char) (i : Nat) (set : LigatureSet) :
    Prop where
  listed : c.sets[i]? = some set
  passed : ¬ set.Refused
  last : ∀ j later, i < j → c.sets[j]? = some later → ¬ later.Refused →
    later.selector ≠ set.selector
  selects : c.Selects set.selector mode
  leads : ∃ spec ∈ set.specs, spec.leading? = some leading

def SuppliesLast (c : Config) (mode : Mode) (leading : Char) (i : Nat) (set : LigatureSet) :
    Prop :=
  c.Supplies mode leading i set ∧ ∀ j later, c.Supplies mode leading j later → j ≤ i

def failures (c : Config) : List SetFailure :=
  c.sets.zipIdx.filterMap fun x => x.1.failure? x.2

def setup (c : Config) : List Request :=
  .withHierarchy (.ofTree c.modeTree) :: c.sets.map LigatureSet.request

variable {c : Config} {mode : Mode}

theorem parent?_modeTree (c : Config) (mode : Mode) :
    c.modeTree.parent? mode = c.parentOf? mode := by
  unfold modeTree parentOf?
  induction c.modes using List.reverseRecOn with
  | nil => rfl
  | append_singleton modes d ih =>
    rw [List.foldl_append, List.foldl_cons, List.foldl_nil, ModeTree.parent?_declare, ih,
      List.reverse_append, List.reverse_singleton, List.singleton_append, List.find?_cons]
    by_cases same : d.name = mode
    · simp [same]
    · rw [if_neg same, beq_eq_false_iff_ne.mpr same]

theorem refines_iff {a : Mode} :
    c.Refines mode a ↔ a = mode ∨ c.modeTree.isDescendant mode a = true := by
  have steps : c.modeTree.Parent = fun mode parent => c.parentOf? mode = some parent := by
    funext m p
    rw [ModeTree.Parent, parent?_modeTree]
  rw [Refines, Relation.reflTransGen_iff_eq_or_transGen, ModeTree.isDescendant_iff, steps]
  by_cases same : a = mode
  · simp [same]
  · simp [same]

theorem selects_iff {s : ModeSelector} :
    c.Selects s mode ↔ s.Applies (.ofTree c.modeTree) mode := by
  cases s with
  | universal => exact Iff.rfl
  | single t => exact refines_iff
  | set ts => exact exists_congr fun t => and_congr_right fun _ => refines_iff

theorem supplies_iff {leading : Char} {i : Nat} {r : Registration} :
    Rules.Supplies (c.sets.map (·.registration)) (.ofTree c.modeTree) mode leading i r ↔
      ∃ set, r = set.registration ∧ c.Supplies mode leading i set := by
  constructor
  · rintro ⟨made, accepted, last, applies, leads⟩
    rw [List.getElem?_map] at made
    obtain ⟨set, listed, rfl⟩ := Option.map_eq_some_iff.mp made
    refine ⟨set, rfl, listed, set.accepted_registration_iff.mp accepted, ?_,
      selects_iff.mpr applies, leads⟩
    intro j later less hj passed
    refine last j later.registration less ?_ (later.accepted_registration_iff.mpr passed)
    rw [List.getElem?_map, hj, Option.map_some]
  · rintro ⟨set, rfl, listed, passed, last, selects, leads⟩
    refine ⟨by rw [List.getElem?_map, listed, Option.map_some],
      set.accepted_registration_iff.mpr passed, ?_, selects_iff.mp selects, leads⟩
    intro j q less hj accepted
    rw [List.getElem?_map] at hj
    obtain ⟨later, hlater, rfl⟩ := Option.map_eq_some_iff.mp hj
    exact last j later less hlater (later.accepted_registration_iff.mp accepted)

theorem suppliesNewest_of_suppliesLast {leading : Char} {i : Nat} {set : LigatureSet}
    (h : c.SuppliesLast mode leading i set) :
    Rules.SuppliesNewest (c.sets.map (·.registration)) (.ofTree c.modeTree) mode leading i
      set.registration := by
  refine ⟨supplies_iff.mpr ⟨set, rfl, h.1⟩, fun j q hq => ?_⟩
  obtain ⟨later, -, supplies⟩ := supplies_iff.mp hq
  exact h.2 j later supplies

theorem supply_of_suppliesLast {leading : Char} {i : Nat} {set : LigatureSet}
    (last : c.SuppliesLast mode leading i set) :
    ∃ g p, compileRules expandRegex set.specs = .ok g ∧ g.get? leading = some p ∧
      Rules.supply (.ofTree c.modeTree) mode leading (c.sets.map (·.registration)) = some p := by
  have newest := suppliesNewest_of_suppliesLast last
  obtain ⟨g, hg⟩ := newest.1.accepted
  obtain ⟨p, hp⟩ := Option.isSome_iff_exists.mp
    (Registration.isSome_group newest.1.accepted newest.1.leads)
  rw [Rules.supply_eq_newest newest]
  rw [Registration.group_eq hg] at hp ⊢
  exact ⟨g, p, hg, hp, hp⟩

theorem supply_of_not_supplies {leading : Char}
    (none : ∀ i set, ¬ c.Supplies mode leading i set) :
    Rules.supply (.ofTree c.modeTree) mode leading (c.sets.map (·.registration)) = .none := by
  apply Rules.supply_eq_none
  intro i r h
  obtain ⟨set, -, supplies⟩ := supplies_iff.mp h
  exact none i set supplies

/-! ### Failures -/

theorem mem_failures_iff {f : SetFailure} : f ∈ c.failures ↔
    ∃ set, c.sets[f.index]? = some set ∧ f.selector = set.selector ∧
      FirstRefused expandRegex set.specs f.error := by
  rw [failures, List.mem_filterMap]
  constructor
  · rintro ⟨⟨set, i⟩, mem, failure⟩
    obtain ⟨rfl, selector, error⟩ := LigatureSet.failure?_eq_some_iff.mp failure
    exact ⟨set, List.mem_zipIdx_iff_getElem?.mp mem, selector, error⟩
  · rintro ⟨set, listed, selector, error⟩
    exact ⟨(set, f.index), List.mem_zipIdx_iff_getElem?.mpr listed,
      LigatureSet.failure?_eq_some_iff.mpr ⟨rfl, selector, error⟩⟩

theorem failures_ascending (c : Config) :
    c.failures.Pairwise fun f g => f.index < g.index := by
  have places : c.sets.zipIdx.Pairwise fun x y => x.2 < y.2 := by
    refine List.pairwise_map.mp ?_
    rw [List.zipIdx_map_snd]
    exact List.pairwise_lt_range'
  refine List.pairwise_filterMap.mpr (places.imp fun {x y} less f hf g hg => ?_)
  rw [← (LigatureSet.failure?_eq_some_iff.mp hf).1, ← (LigatureSet.failure?_eq_some_iff.mp hg).1]
  exact less

theorem exists_failure_iff {i : Nat} : (∃ f ∈ c.failures, f.index = i) ↔
    ∃ set, c.sets[i]? = some set ∧ set.Refused := by
  constructor
  · rintro ⟨f, mem, rfl⟩
    obtain ⟨set, listed, -, error⟩ := mem_failures_iff.mp mem
    exact ⟨set, listed, Rules.exists_firstRefused_iff.mp ⟨f.error, error⟩⟩
  · rintro ⟨set, listed, refused⟩
    obtain ⟨e, error⟩ := Rules.exists_firstRefused_iff.mpr refused
    exact ⟨⟨i, set.selector, e⟩, mem_failures_iff.mpr ⟨set, listed, rfl, error⟩, rfl⟩

/-! ### The history behind a configuration -/

theorem registrationsFrom_sets (sets : List LigatureSet) (later : List Request) :
    registrationsFrom expandRegex (sets.map LigatureSet.request ++ later) =
      sets.map (·.registration) ++ registrationsFrom expandRegex later := by
  induction sets with
  | nil => rfl
  | cons set rest ih =>
    rw [List.map_cons, List.cons_append, LigatureSet.request, registrationsFrom, ih]
    rfl

theorem registrationsFrom_generate (modes : List Mode) :
    registrationsFrom expandRegex (modes.map .generate) = [] := by
  induction modes with
  | nil => rfl
  | cons mode rest ih => exact ih

theorem hierarchyBehind_sets (h : Hierarchy) (sets : List LigatureSet) (later : List Request) :
    hierarchyBehind h (sets.map LigatureSet.request ++ later) = hierarchyBehind h later := by
  induction sets with
  | nil => rfl
  | cons set rest ih => exact ih

theorem hierarchyBehind_generate (h : Hierarchy) (modes : List Mode) :
    hierarchyBehind h (modes.map .generate) = h := by
  induction modes with
  | nil => rfl
  | cons mode rest ih => exact ih

theorem registrations_setup (c : Config) (modes : List Mode) :
    registrations (c.setup ++ modes.map .generate) = c.sets.map (·.registration) := by
  rw [registrations, setup, List.cons_append, registrationsFrom, registrationsFrom_sets,
    registrationsFrom_generate, List.append_nil]
  · intro s specs h
    cases h
  · intro e h
    cases h

theorem hierarchyOf_setup (c : Config) (modes : List Mode) :
    hierarchyOf (c.setup ++ modes.map .generate) = .ofTree c.modeTree := by
  rw [hierarchyOf, setup, List.cons_append, hierarchyBehind, hierarchyBehind_sets,
    hierarchyBehind_generate]

end Config

/-! ### Sessions -/

namespace Session

open Rules (Table Numbered)

def askTables (s : Session) (modes : List Mode) : Session :=
  modes.foldl (fun s mode => (s.tableFor mode).value.2) s

theorem expander_after_request (t : RuleTables) (set : LigatureSet) :
    (t.after set.request).expander = t.expander := by
  show (t.register set.selector set.specs).value.2.expander = t.expander
  cases compiled : compileRules t.expander set.specs with
  | ok g => rw [RuleTables.register_accepted compiled]
  | error e => rw [RuleTables.register_refused compiled]

theorem value_addSet {s : Session} (expander : s.tables.expander = expandRegex) (i : Nat)
    (set : LigatureSet) : (s.addSet i set).value =
      { s with
        tables := s.tables.after set.request
        failures := s.failures ++ (set.failure? i).toList } := by
  unfold LigatureSet.request RuleTables.after LigatureSet.failure? addSet
  rw [← expander]
  cases compiled : compileRules s.tables.expander set.specs with
  | ok g => simp [RuleTables.register_accepted compiled, Traced.log]
  | error e => simp [RuleTables.register_refused compiled, Traced.log]

theorem value_addSets {s : Session} (expander : s.tables.expander = expandRegex) (i : Nat)
    (sets : List LigatureSet) : (s.addSets i sets).value =
      { s with
        tables := (sets.map LigatureSet.request).foldl RuleTables.after s.tables
        failures := s.failures ++ (sets.zipIdx i).filterMap fun x => x.1.failure? x.2 } := by
  induction sets generalizing s i with
  | nil => simp [addSets]
  | cons set rest ih =>
    have next : (s.addSet i set).value.tables.expander = expandRegex := by
      rw [value_addSet expander]
      exact (expander_after_request s.tables set).trans expander
    rw [addSets, Traced.value_bind, ih next, value_addSet expander]
    cases h : set.failure? i <;> simp [h]

structure Serves (s : Session) (c : Config) : Prop where
  tables : ∃ modes : List Mode, s.tables = RuleTables.run (c.setup ++ modes.map .generate)
  ignored : s.ignored = c.ignored
  failures : s.failures = c.failures

theorem expander_withHierarchy (h : Hierarchy) :
    (RuleTables.new.withHierarchy h).value.expander = expandRegex := by
  rw [RuleTables.value_withHierarchy]
  rfl

theorem serves_start (c : Config) : (start c).value.Serves c := by
  simp only [start, Traced.value_bind, Traced.value_pure]
  rw [value_addSets (expander_withHierarchy (.ofTree c.modeTree))]
  refine ⟨⟨[], ?_⟩, rfl, List.nil_append _⟩
  rw [List.map_nil, List.append_nil]
  rfl

theorem Serves.tableFor {s : Session} {c : Config} (serves : s.Serves c) (mode : Mode) :
    (s.tableFor mode).value.2.Serves c := by
  obtain ⟨⟨modes, tables⟩, ignored, failures⟩ := serves
  unfold Session.tableFor
  split
  · exact ⟨⟨modes, tables⟩, ignored, failures⟩
  · refine ⟨⟨modes ++ [mode], ?_⟩, ignored, failures⟩
    rw [List.map_append, ← List.append_assoc, List.map_singleton, RuleTables.run_snoc, ← tables]
    rfl

theorem Serves.askTables {s : Session} {c : Config} (serves : s.Serves c) (modes : List Mode) :
    (s.askTables modes).Serves c := by
  induction modes generalizing s with
  | nil => exact serves
  | cons mode rest ih => exact ih (serves.tableFor mode)

section Answers

variable {s : Session} {c : Config} {mode : Mode}

theorem tableFor_of_ignored (h : s.isIgnored mode = true) :
    (s.tableFor mode).value = (none, s) := by
  rw [Session.tableFor, if_pos h]
  rfl

theorem tableFor_of_not_ignored (h : ¬ s.isIgnored mode = true) :
    (s.tableFor mode).value =
      (some (s.tables.generate mode).value.1,
        { s with tables := (s.tables.generate mode).value.2 }) := by
  rw [Session.tableFor, if_neg h]
  rfl

theorem Serves.isIgnored (serves : s.Serves c) (mode : Mode) :
    s.isIgnored mode = c.isIgnored mode := by
  rw [Session.isIgnored, Config.isIgnored, serves.ignored]

theorem Serves.tableFor_eq_none_iff (serves : s.Serves c) :
    (s.tableFor mode).value.1 = none ↔ c.isIgnored mode = true := by
  rw [← serves.isIgnored]
  by_cases ignored : s.isIgnored mode = true
  · exact iff_of_true (by rw [tableFor_of_ignored ignored]) ignored
  · exact iff_of_false (by rw [tableFor_of_not_ignored ignored]; exact nofun) ignored

theorem eq_generate_of_tableFor {table : Numbered Table}
    (h : (s.tableFor mode).value.1 = some table) : table = (s.tables.generate mode).value.1 := by
  by_cases ignored : s.isIgnored mode = true
  · rw [tableFor_of_ignored ignored] at h
    cases h
  · rw [tableFor_of_not_ignored ignored] at h
    exact (Option.some.inj h).symm

theorem tableFor_unchanged (h : (s.tableFor mode).value.1 = none) :
    (s.tableFor mode).value.2 = s := by
  by_cases ignored : s.isIgnored mode = true
  · rw [tableFor_of_ignored ignored]
  · rw [tableFor_of_not_ignored ignored] at h
    cases h

theorem Serves.mode_generate (serves : s.Serves c) (mode : Mode) :
    (s.tables.generate mode).value.1.value.mode = mode := by
  obtain ⟨modes, tables⟩ := serves.tables
  rw [tables, RuleTables.generate_run_eq_build]
  rfl

theorem Serves.get?_generate (serves : s.Serves c) (mode : Mode) (leading : Char) :
    (s.tables.generate mode).value.1.value.get? leading =
      Rules.supply (.ofTree c.modeTree) mode leading (c.sets.map (·.registration)) := by
  obtain ⟨modes, tables⟩ := serves.tables
  rw [tables, RuleTables.generate_run_eq_build,
    Rules.get?_buildTable (RuleTables.reflects_run _), Config.hierarchyOf_setup,
    Config.registrations_setup]

end Answers

/-- Whatever tables were asked for before, a session reports the sets of its configuration that are
refused, each with the error of its first bad ligature, gives no table for an ignored mode, and for
any other mode one in which each leading character has the pattern of the last set that supplies
it. -/
theorem configured_tables (c : Config) (asked : List Mode) :
    let s := (start c).value.askTables asked
    (s.failures.Pairwise fun f g => f.index < g.index) ∧
    (∀ i, (∃ f ∈ s.failures, f.index = i) ↔ ∃ set, c.sets[i]? = some set ∧ set.Refused) ∧
    (∀ f, f ∈ s.failures ↔ ∃ set, c.sets[f.index]? = some set ∧ f.selector = set.selector ∧
      FirstRefused expandRegex set.specs f.error) ∧
    ∀ mode,
      let answer := (s.tableFor mode).value
      (answer.1 = none ↔ c.isIgnored mode = true) ∧
      (answer.1 = none → answer.2 = s) ∧
      ∀ table, answer.1 = some table → table.value.mode = mode ∧ ∀ leading,
        (∀ i set, c.SuppliesLast mode leading i set →
          ∃ g p, compileRules expandRegex set.specs = .ok g ∧ g.get? leading = some p ∧
            table.value.get? leading = some p) ∧
        ((∀ i set, ¬ c.Supplies mode leading i set) → table.value.get? leading = none) := by
  intro s
  have serves : s.Serves c := (serves_start c).askTables asked
  refine ⟨?_, fun i => ?_, fun f => ?_, fun mode => ?_⟩
  · rw [serves.failures]
    exact c.failures_ascending
  · rw [serves.failures]
    exact Config.exists_failure_iff
  · rw [serves.failures]
    exact Config.mem_failures_iff
  · refine ⟨serves.tableFor_eq_none_iff, tableFor_unchanged, fun table given => ?_⟩
    rw [eq_generate_of_tableFor given]
    refine ⟨serves.mode_generate mode, fun leading => ?_⟩
    rw [serves.get?_generate]
    exact ⟨fun i set => Config.supply_of_suppliesLast, Config.supply_of_not_supplies⟩

end Session

end Ligature
