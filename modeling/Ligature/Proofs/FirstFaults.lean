/-!
# The first fault

Things that are looked at in order are refused for the first of them that has something wrong with
it. What is wrong is given by a relation between things and faults.
-/
namespace Ligature

variable {α ε : Type}

def FirstFault (faulty : α → ε → Prop) (xs : List α) (e : ε) : Prop :=
  ∃ before x behind, xs = before ++ x :: behind ∧ (∀ y ∈ before, ∀ e', ¬ faulty y e') ∧ faulty x e

def Faultless (faulty : α → ε → Prop) (xs : List α) : Prop := ∀ x ∈ xs, ∀ e, ¬ faulty x e

variable {faulty : α → ε → Prop} {x : α} {xs ys : List α} {e e' : ε}

theorem faultless_append (h : Faultless faulty xs) (h' : Faultless faulty ys) :
    Faultless faulty (xs ++ ys) := by
  intro x mem
  rcases List.mem_append.mp mem with mem | mem
  · exact h x mem
  · exact h' x mem

theorem faultless_singleton (sound : ∀ e, ¬ faulty x e) : Faultless faulty [x] := by
  intro y mem
  obtain rfl := List.mem_singleton.mp mem
  exact sound

theorem FirstFault.append_right (h : FirstFault faulty xs e) :
    FirstFault faulty (xs ++ ys) e := by
  obtain ⟨before, x, behind, rfl, passed, wrong⟩ := h
  exact ⟨before, x, behind ++ ys, by simp, passed, wrong⟩

theorem FirstFault.append_left (sound : Faultless faulty xs) (h : FirstFault faulty ys e) :
    FirstFault faulty (xs ++ ys) e := by
  obtain ⟨before, x, behind, rfl, passed, wrong⟩ := h
  exact ⟨xs ++ before, x, behind, by simp, faultless_append sound passed, wrong⟩

theorem firstFault_head (wrong : faulty x e) : FirstFault faulty (x :: xs) e :=
  ⟨[], x, xs, rfl, by simp, wrong⟩

theorem FirstFault.exists_faulty (h : FirstFault faulty xs e) : ∃ x ∈ xs, faulty x e := by
  obtain ⟨before, x, behind, rfl, -, wrong⟩ := h
  exact ⟨x, by simp, wrong⟩

theorem firstFault_cons_iff (passed : ∀ e, ¬ faulty x e) :
    FirstFault faulty (x :: xs) e ↔ FirstFault faulty xs e := by
  constructor
  · rintro ⟨before, y, behind, split, sound, wrong⟩
    cases before with
    | nil =>
      cases split
      exact absurd wrong (passed e)
    | cons z before =>
      cases split
      exact ⟨before, y, behind, rfl, (List.forall_mem_cons.mp sound).2, wrong⟩
  · exact FirstFault.append_left (faultless_singleton passed)

theorem exists_firstFault_iff :
    (∃ e, FirstFault faulty xs e) ↔ ∃ x ∈ xs, ∃ e, faulty x e := by
  induction xs with
  | nil =>
    constructor
    · rintro ⟨e, before, x, behind, split, -⟩
      simp at split
    · simp
  | cons x xs ih =>
    simp only [List.mem_cons, exists_eq_or_imp]
    by_cases wrong : ∃ e, faulty x e
    · obtain ⟨e, wrong⟩ := wrong
      exact iff_of_true ⟨e, firstFault_head wrong⟩ (.inl ⟨e, wrong⟩)
    · have passed : ∀ e, ¬ faulty x e := not_exists.mp wrong
      simp only [firstFault_cons_iff passed, wrong, false_or, ih]

theorem faultless_iff_forall_not : Faultless faulty xs ↔ ∀ e, ¬ FirstFault faulty xs e := by
  rw [← not_exists, exists_firstFault_iff]
  constructor
  · rintro sound ⟨x, mem, e, wrong⟩
    exact sound x mem e wrong
  · intro none x mem e wrong
    exact none ⟨x, mem, e, wrong⟩

section SingleValued

variable (single : ∀ x e e', faulty x e → faulty x e' → e = e')
include single

theorem firstFault_cons_iff_of_faulty (wrong : faulty x e') :
    FirstFault faulty (x :: xs) e ↔ e' = e := by
  constructor
  · rintro ⟨before, y, behind, split, sound, wrong'⟩
    cases before with
    | nil =>
      cases split
      exact single x e' e wrong wrong'
    | cons z before =>
      cases split
      exact absurd wrong (sound x List.mem_cons_self e')
  · rintro rfl
    exact firstFault_head wrong

theorem FirstFault.unique (h : FirstFault faulty xs e) (h' : FirstFault faulty xs e') :
    e = e' := by
  induction xs with
  | nil =>
    obtain ⟨x, mem, -⟩ := h.exists_faulty
    cases mem
  | cons x xs ih =>
    by_cases wrong : ∃ e, faulty x e
    · obtain ⟨e₁, wrong⟩ := wrong
      rw [firstFault_cons_iff_of_faulty single wrong] at h h'
      exact h.symm.trans h'
    · have passed : ∀ e, ¬ faulty x e := not_exists.mp wrong
      rw [firstFault_cons_iff passed] at h h'
      exact ih h h'

end SingleValued

end Ligature
