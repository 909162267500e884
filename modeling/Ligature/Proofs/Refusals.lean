import Ligature.Proofs.FirstFaults
import Ligature.Proofs.TableHistory

/-!
# Refused registrations

A batch of specifications is refused for the first of them that is too short or has an expression
that the expander rejects, and for no other reason. A refused batch leaves the tables as they were,
so that nothing asked later can tell that it was tried.
-/
namespace Ligature.Rules

/-! ### Which specifications are refused -/

/-- A specification is refused, with the error that says why. Regex text is taken as it is. -/
inductive Spec.Refused (expand : Expander) : Spec → RegistrationError → Prop where
  | short {text : String} (less : text.length < 2) :
      Refused expand (.literal text) (.invalidLength text text.length)
  | expansion {c : Char} {e : PatternExpr} {cause : ExpansionError}
      (rejected : expand e = .error cause) :
      Refused expand (.pattern c (.expr e)) (.expansion c cause)

def FirstRefused (expand : Expander) (specs : List Spec) (e : RegistrationError) : Prop :=
  ∃ before spec behind, specs = before ++ spec :: behind ∧
    (∀ s ∈ before, ∀ e', ¬ s.Refused expand e') ∧ spec.Refused expand e

theorem Spec.Refused.error_eq {expand : Expander} (s : Spec) (e e' : RegistrationError)
    (h : s.Refused expand e) (h' : s.Refused expand e') : e = e' := by
  cases h with
  | short less =>
    cases h'
    rfl
  | expansion rejected =>
    cases h' with
    | expansion rejected' => rw [Except.error.inj (rejected.symm.trans rejected')]

section Batch

variable {expand : Expander} {g g' : RuleGroup} {s : Spec} {specs : List Spec}
  {e : RegistrationError}

theorem addSpec_literal_eq_error_iff {text : String} :
    addSpec expand g (.literal text) = .error e ↔
      text.length < 2 ∧ e = .invalidLength text text.length := by
  rw [addSpec]
  match text.toList, text.length_toList with
  | [], count => simp [← count, eq_comm]
  | [c], count => simp [← count, eq_comm]
  | c :: d :: tail, count =>
    have long : ¬ tail.length + 1 + 1 < 2 := by omega
    simp [← count, long]

theorem addSpec_eq_error_iff : addSpec expand g s = .error e ↔ s.Refused expand e := by
  constructor
  · intro h
    match s with
    | .literal text =>
      obtain ⟨less, rfl⟩ := addSpec_literal_eq_error_iff.mp h
      exact .short less
    | .pattern c (.regex source) => cases h
    | .pattern c (.expr x) =>
      simp only [addSpec] at h
      split at h
      · cases h
      · rename_i cause rejected
        cases h
        exact .expansion rejected
  · intro refused
    cases refused with
    | short less => exact addSpec_literal_eq_error_iff.mpr ⟨less, rfl⟩
    | expansion rejected => simp only [addSpec, rejected]

theorem not_refused_of_addSpec (h : addSpec expand g s = .ok g') (e : RegistrationError) :
    ¬ s.Refused expand e := by
  intro refused
  exact nomatch h.symm.trans (addSpec_eq_error_iff.mpr refused)

theorem foldlM_addSpec_eq_error_iff :
    specs.foldlM (addSpec expand) g = .error e ↔ FirstRefused expand specs e := by
  induction specs generalizing g with
  | nil =>
    constructor
    · intro h
      cases h
    · rintro ⟨before, spec, behind, split, -⟩
      simp at split
  | cons s rest ih =>
    rw [List.foldlM_cons]
    cases first : addSpec expand g s with
    | ok g₁ => exact ih.trans (firstFault_cons_iff (not_refused_of_addSpec first)).symm
    | error e₁ =>
      refine Iff.trans ?_ (firstFault_cons_iff_of_faulty Spec.Refused.error_eq
        (addSpec_eq_error_iff.mp first)).symm
      exact ⟨fun h => by cases h; rfl, fun h => by rw [h]; rfl⟩

theorem compileRules_eq_error_iff :
    compileRules expand specs = .error e ↔ FirstRefused expand specs e :=
  foldlM_addSpec_eq_error_iff

theorem exists_firstRefused_iff :
    (∃ e, FirstRefused expand specs e) ↔ ∃ s ∈ specs, ∃ e, s.Refused expand e :=
  exists_firstFault_iff

end Batch

/-! ### Refused requests -/

namespace RuleTables

variable {t : RuleTables} {s : ModeSelector} {specs : List Spec} {e : RegistrationError}

theorem register_eq_error_iff :
    (t.register s specs).value.1 = .error e ↔ FirstRefused t.expander specs e := by
  rw [← compileRules_eq_error_iff]
  cases compiled : compileRules t.expander specs with
  | ok g => simp [register_accepted compiled]
  | error e' => simp [register_refused compiled]

theorem register_unchanged (h : (t.register s specs).value.1 = .error e) :
    (t.register s specs).value.2 = t := by
  rw [register_refused (compileRules_eq_error_iff.mpr (register_eq_error_iff.mp h))]

/-- A refused request may be struck from a history. -/
theorem run_of_refused {history : List Request}
    (h : ((run history).register s specs).value.1 = .error e) (later : List Request) :
    run (history ++ .register s specs :: later) = run (history ++ later) := by
  have unchanged : (run history).after (.register s specs) = run history := register_unchanged h
  rw [← List.singleton_append, ← List.append_assoc, run, List.foldl_append, ← run, run_snoc,
    unchanged, run, run, List.foldl_append]

theorem generate_of_cached {mode : Mode} {u : Numbered Table}
    (cached : t.cache.get? mode = some u) : (t.generate mode).value = (u, t) := by
  rcases value_generate t mode with ⟨u', cached', h⟩ | ⟨none, -⟩
  · rw [h, Option.some.inj (cached.symm.trans cached')]
  · exact nomatch none.symm.trans cached

/-- Whatever was asked before, a registration is refused just if one of its specifications is, and
then for the first of these. Nothing that is generated later can tell that it was tried: a table
that was cached is still the same one. -/
theorem refused_registration (history : List Request) (s : ModeSelector) (specs : List Spec) :
    let t := run history
    let answer := (t.register s specs).value
    ((∃ e, answer.1 = .error e) ↔ ∃ spec ∈ specs, ∃ e, spec.Refused t.expander e) ∧
    ∀ e, answer.1 = .error e →
      FirstRefused t.expander specs e ∧
      (∀ text length, e = .invalidLength text length → length = text.length ∧ e.message =
        s!"Invalid ligature '{text}': literal ligatures need at least 2 characters, got {length}") ∧
      answer.2 = t ∧
      (∀ later mode, (run (history ++ .register s specs :: later)).generate mode =
        (run (history ++ later)).generate mode) ∧
      ∀ mode u, t.cache.get? mode = some u → (answer.2.generate mode).value.1 = u := by
  intro t answer
  constructor
  · rw [← exists_firstRefused_iff]
    exact exists_congr fun e => register_eq_error_iff
  · intro e refused
    have unchanged : answer.2 = t := register_unchanged refused
    refine ⟨register_eq_error_iff.mp refused, ?_, unchanged, ?_, ?_⟩
    · rintro text length rfl
      obtain ⟨-, spec, -, -, -, short⟩ := register_eq_error_iff.mp refused
      cases short
      exact ⟨rfl, rfl⟩
    · intro later mode
      rw [run_of_refused refused]
    · intro mode u cached
      rw [unchanged, generate_of_cached cached]

end RuleTables

end Ligature.Rules
