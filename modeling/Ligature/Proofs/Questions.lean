import Ligature.Proofs.TableHistory

/-!
# What the hierarchy is asked

A table that is cached is handed out without a question. For a table that is built, the selectors
of the registry are gone through in order, and the modes of a selector until one fits. The hierarchy
is asked about each of them but the mode itself, which fits without a question. Registrations ask
nothing.
-/
namespace Ligature

namespace Traced

variable {α β : Type}

def questions (x : Traced α) : List (Mode × Mode × Bool) := x.journal.filterMap Event.question?

@[simp] theorem questions_pure (a : α) : (pure a : Traced α).questions = [] := rfl

@[simp] theorem questions_bind (x : Traced α) (f : α → Traced β) :
    (x >>= f).questions = x.questions ++ (f x.value).questions := List.filterMap_append

@[simp] theorem questions_map (f : α → β) (x : Traced α) : (f <$> x).questions = x.questions := by
  rw [questions, journal_map, questions]

@[simp] theorem questions_log (level : Level) (channel : Channel) (message : String) :
    (log level channel message).questions = [] := rfl

end Traced

namespace Rules

/-! ### Looking for the first that fits -/

def upToFirst {α : Type} (p : α → Bool) (xs : List α) : List α :=
  xs.takeWhile (!p ·) ++ (xs.find? p).toList

theorem upToFirst_cons {α : Type} (p : α → Bool) (x : α) (xs : List α) :
    upToFirst p (x :: xs) = if p x then [x] else x :: upToFirst p xs := by
  by_cases h : p x = true
  · simp [upToFirst, h]
  · simp [upToFirst, h]

namespace Hierarchy

/-- A mode that is named fits the modes that it is and those that descend from it. -/
def fits (h : Hierarchy) (mode named : Mode) : Bool := named == mode || h.isDescendant mode named

/-- The questions whether `mode` descends from those of some modes that have to be looked at to find
the first that fits; it is not asked whether `mode` descends from itself. -/
def questionsAbout (h : Hierarchy) (mode : Mode) (named : List Mode) :
    List (Mode × Mode × Bool) :=
  ((upToFirst (h.fits mode) named).filter (· ≠ mode)).map fun t => (mode, t, h.isDescendant mode t)

variable {h : Hierarchy} {mode t : Mode} {rest : List Mode}

theorem questionsAbout_self : h.questionsAbout mode (mode :: rest) = [] := by
  have itself : h.fits mode mode = true := by simp [fits]
  rw [questionsAbout, upToFirst_cons, if_pos itself]
  simp

theorem questionsAbout_cons (differ : t ≠ mode) :
    h.questionsAbout mode (t :: rest) = (mode, t, h.isDescendant mode t) ::
      if h.isDescendant mode t then [] else h.questionsAbout mode rest := by
  have fits_iff : h.fits mode t = h.isDescendant mode t := by simp [fits, differ]
  rw [questionsAbout, upToFirst_cons, fits_iff]
  by_cases descends : h.isDescendant mode t = true
  · simp [descends, differ]
  · simp [descends, differ, questionsAbout]

@[simp] theorem questions_ask (h : Hierarchy) (mode ancestor : Mode) :
    (h.ask mode ancestor).questions = [(mode, ancestor, h.isDescendant mode ancestor)] := by
  have silent : ((h.notices mode).map Event.logged).filterMap Event.question? = [] := by
    rw [List.filterMap_map, List.filterMap_eq_nil_iff]
    intro r _
    rfl
  rw [Traced.questions, ask, List.filterMap_append, silent]
  rfl

end Hierarchy

variable {h : Hierarchy} {mode : Mode}

theorem questions_matchesAny (h : Hierarchy) (mode : Mode) (named : List Mode) :
    (matchesAny h mode named).questions = h.questionsAbout mode named := by
  induction named with
  | nil => rfl
  | cons t rest ih =>
    -- The mode itself and a mode that it descends from both end the search, the first in silence.
    by_cases same : t = mode
    · subst same
      rw [matchesAny, if_pos rfl, Traced.questions_pure, Hierarchy.questionsAbout_self]
    · rw [matchesAny, if_neg same, Traced.questions_bind, Hierarchy.questions_ask,
        Hierarchy.value_ask, Hierarchy.questionsAbout_cons same]
      by_cases descends : h.isDescendant mode t = true
      · rw [if_pos descends, if_pos descends]
        rfl
      · rw [if_neg descends, if_neg descends, ih]
        rfl

theorem questions_appliesTo (s : ModeSelector) (h : Hierarchy) (mode : Mode) :
    (s.appliesTo h mode).questions = h.questionsAbout mode s.targets := by
  cases s with
  | universal => rfl
  | single t => exact questions_matchesAny h mode [t]
  | set ts => exact questions_matchesAny h mode ts

/-! ### Building a table -/

theorem questions_layer (below : RegisteredGroup)
    (entries : List (ModeSelector × RegisteredGroup)) :
    (layer h mode below entries).questions =
      entries.flatMap fun e => h.questionsAbout mode e.1.targets := by
  induction entries generalizing below with
  | nil => rfl
  | cons e rest ih =>
    rw [layer, Traced.questions_bind, questions_appliesTo, List.flatMap_cons]
    by_cases applies : (e.1.appliesTo h mode).value = true
    · rw [if_pos applies, Traced.questions_bind, Traced.questions_log, List.nil_append, ih]
    · rw [if_neg applies, ih]

theorem questions_buildTable (mode : Mode) (r : Registry) (h : Hierarchy) :
    (buildTable mode r h).questions =
      r.entries.flatMap fun e => h.questionsAbout mode e.1.targets := by
  rw [buildTable, Traced.questions_map, questions_layer]

theorem TableCache.questions_generate (c : TableCache) (mode : Mode) (r : Registry)
    (h : Hierarchy) :
    (c.generate mode r h).questions = if c.contains mode then [] else
      r.entries.flatMap fun e => h.questionsAbout mode e.1.targets := by
  have found : c.contains mode = (c.get? mode).isSome := by
    simp [contains, get?, List.isSome_find?]
  rw [found, generate]
  cases c.get? mode with
  | some u => rfl
  | none =>
    simp only [Traced.questions_bind, Traced.questions_log, Traced.questions_pure,
      questions_buildTable, List.append_nil]
    rfl

theorem TableCache.questions_invalidate (c : TableCache) : c.invalidate.questions = [] := by
  by_cases h : c.isEmpty = true
  · simp [invalidate, h]
  · simp [invalidate, h]

/-! ### Requests -/

namespace RuleTables

theorem questions_register (t : RuleTables) (s : ModeSelector) (specs : List Spec) :
    (t.register s specs).questions = [] := by
  unfold register
  cases compileRules t.expander specs with
  | error e => rfl
  | ok g =>
    by_cases replaced : (t.registry.replace s g).2.isSome = true
    · simp [replaced, TableCache.questions_invalidate]
    · simp [replaced, TableCache.questions_invalidate]

theorem questions_generate (t : RuleTables) (mode : Mode) :
    (t.generate mode).questions = if t.isCached mode then [] else
      t.registry.entries.flatMap fun e => t.hierarchy.questionsAbout mode e.1.targets := by
  rw [generate, Traced.questions_bind, TableCache.questions_generate, isCached,
    Traced.questions_pure, List.append_nil]

/-- Whatever was asked before, a table that is cached takes no question. One that is not takes the
questions about the selectors of the registrations that stand, the oldest first: about the modes
that a selector names, up to the first one that fits. A registration takes none, accepted or not. -/
theorem questions_in_order (history : List Request) (mode : Mode) :
    let t := run history
    let selectors := t.registry.entries.map (·.1)
    selectors = (standing (registrations history)).map (·.selector) ∧
    t.hierarchy = hierarchyOf history ∧
    ((t.generate mode).questions = if t.isCached mode then [] else
      selectors.flatMap fun s => t.hierarchy.questionsAbout mode s.targets) ∧
    ∀ s specs, (t.register s specs).questions = [] := by
  intro t selectors
  have reflects : t.Reflects history := reflects_run history
  refine ⟨reflects.selectors, reflects.hierarchy, ?_, questions_register t⟩
  rw [questions_generate, List.flatMap_map]

/-- The second mode of the set fits, so that the third one is not looked at. -/
example : (Hierarchy.ofTree (.declare .empty "rust" "prog")).questionsAbout "rust"
    ["text", "prog", "c"] = [("rust", "text", false), ("rust", "prog", true)] := by
  decide +kernel

end RuleTables

end Rules

end Ligature
