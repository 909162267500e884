import Mathlib.Data.List.Nodup
import Ligature.Proofs.WalkLaws

/-!
# One result per place

Of the ways to one place a walk keeps the best, so its ends are at different places. For a sequence
and a choice that is what keeping the best ways does; a loop never stands at a place twice, and so
never stops at one twice either.
-/
namespace Ligature.Regex

namespace Ends

def Distinct (ends : Ends) : Prop := (ends.map (·.1.left)).Nodup

theorem mem_best {ends : Ends} {seen : Places} {e : Cursor × Marks} (h : e ∈ ends.best seen) :
    seen.contains e.1.left = false := by
  induction ends generalizing seen with
  | nil => cases h
  | cons x rest ih =>
    rw [best] at h
    split at h
    · exact ih h
    · rename_i fresh
      rcases List.mem_cons.mp h with rfl | later
      · simpa using fresh
      · have := ih later
        simp only [Places.contains_insert, Bool.or_eq_false_iff] at this
        exact this.1

theorem distinct_best (ends : Ends) (seen : Places) : (ends.best seen).Distinct := by
  induction ends generalizing seen with
  | nil => exact List.nodup_nil
  | cons x rest ih =>
    rw [best]
    split
    · exact ih seen
    · refine List.nodup_cons.mpr ⟨fun twice => ?_, ih _⟩
      obtain ⟨e, he, same⟩ := List.mem_map.mp twice
      have other := mem_best he
      simp [same] at other

theorem Distinct.best_eq {ends : Ends} (h : ends.Distinct) {seen : Places}
    (fresh : ∀ e ∈ ends, seen.contains e.1.left = false) : ends.best seen = ends := by
  induction ends generalizing seen with
  | nil => rfl
  | cons x rest ih =>
    obtain ⟨once, rest'⟩ := List.nodup_cons.mp h
    obtain ⟨here, later⟩ := List.forall_mem_cons.mp fresh
    have other : ∀ e ∈ rest, (seen.insert x.1.left).contains e.1.left = false := by
      intro e he
      have apart : e.1.left ≠ x.1.left := fun same => once (List.mem_map.mpr ⟨e, he, same⟩)
      simp [later e he, apart]
    rw [best, here, if_neg Bool.false_ne_true, ih rest' other]

end Ends

namespace Step

def Distinct (a : Step) : Prop := ∀ m c, (a m c).Distinct

variable {a b body : Step}

theorem distinct_stay : stay.Distinct := fun _ _ => List.nodup_singleton _

theorem distinct_andThen (a b : Step) : (a.andThen b).Distinct := fun _ _ =>
  Ends.distinct_best _ _

theorem distinct_orElse (a b : Step) : (a.orElse b).Distinct := by
  intro m c
  simp only [orElse]
  split
  · exact List.nodup_nil
  · exact Ends.distinct_best _ _

theorem distinct_optional (a : Step) (greedy : Bool) : (optional a greedy).Distinct := by
  cases greedy <;> exact distinct_orElse _ _

/-- What some more rounds of a loop may add: ends at places where the loop had not stood before,
each of them once. -/
structure Rounds.Extends (x y : Rounds) : Prop where
  stood : ∀ n, x.stood.contains n = true → y.stood.contains n = true
  added : ∃ new : Ends, y.ends = new ++ x.ends ∧ new.Distinct ∧
    ∀ e ∈ new, x.stood.contains e.1.left = false ∧ y.stood.contains e.1.left = true

namespace Rounds.Extends

variable {x y z : Rounds}

theorem refl (x : Rounds) : x.Extends x := ⟨fun _ h => h, [], rfl, List.nodup_nil, by simp⟩

theorem trans (h : x.Extends y) (k : y.Extends z) : x.Extends z := by
  obtain ⟨new, ends, distinct, fresh⟩ := h.added
  obtain ⟨new', ends', distinct', fresh'⟩ := k.added
  refine ⟨fun n hn => k.stood n (h.stood n hn), new' ++ new, by simp [ends', ends], ?_, ?_⟩
  · rw [Ends.Distinct, List.map_append]
    refine List.nodup_append.mpr ⟨distinct', distinct, ?_⟩
    rintro n hn _ hn' rfl
    obtain ⟨e, he, rfl⟩ := List.mem_map.mp hn
    obtain ⟨f, hf, same⟩ := List.mem_map.mp hn'
    have known := (fresh f hf).2
    rw [same, (fresh' e he).1] at known
    cases known
  · intro e he
    rcases List.mem_append.mp he with he | he
    · obtain ⟨old, now⟩ := fresh' e he
      refine ⟨Bool.eq_false_iff.mpr fun before => ?_, now⟩
      rw [h.stood _ before] at old
      cases old
    · exact ⟨(fresh e he).1, k.stood _ (fresh e he).2⟩

theorem foldl {f : Rounds → Cursor × Marks → Rounds}
    (each : ∀ (x : Rounds) e, x.Extends (f x e)) (ends : Ends) (x : Rounds) :
    x.Extends (ends.foldl f x) := by
  induction ends generalizing x with
  | nil => exact .refl x
  | cons e rest ih => exact (each x e).trans (ih _)

theorem stop {stood : Places} {ends : Ends} {c : Cursor} (first : stood.contains c.left = false)
    (m : Marks) {new : Ends} {stood' : Places} (kept : ∀ n,
      (stood.insert c.left).contains n = true → stood'.contains n = true)
    (distinct : new.Distinct) (fresh : ∀ e ∈ new,
      (stood.insert c.left).contains e.1.left = false ∧ stood'.contains e.1.left = true)
    {all : Ends} (either : all = (c, m) :: new ++ ends ∨ all = new ++ (c, m) :: ends) :
    Rounds.Extends ⟨stood, ends⟩ ⟨stood', all⟩ := by
  have here : stood'.contains c.left = true := kept _ (by simp)
  have apart : ∀ e ∈ new, stood.contains e.1.left = false ∧ e.1.left ≠ c.left := by
    intro e he
    simpa using (fresh e he).1
  have once : c.left ∉ new.map (·.1.left) := by
    intro twice
    obtain ⟨e, he, same⟩ := List.mem_map.mp twice
    exact (apart e he).2 same
  refine ⟨fun n hn => kept n (by simp [hn]), ?_⟩
  rcases either with rfl | rfl
  · exact ⟨(c, m) :: new, rfl, List.nodup_cons.mpr ⟨once, distinct⟩, List.forall_mem_cons.mpr
      ⟨⟨first, here⟩, fun e he => ⟨(apart e he).1, (fresh e he).2⟩⟩⟩
  · refine ⟨new ++ [(c, m)], by simp, ?_, ?_⟩
    · rw [Ends.Distinct, List.map_append]
      refine List.nodup_append.mpr ⟨distinct, List.nodup_singleton _, ?_⟩
      rintro n hn _ hc rfl
      obtain rfl := List.mem_singleton.mp hc
      exact once hn
    · refine List.forall_mem_append.mpr ⟨fun e he => ⟨(apart e he).1, (fresh e he).2⟩, ?_⟩
      simpa using ⟨first, here⟩

end Rounds.Extends

theorem extends_between (body : Step) (greedy : Bool) (fuel : Nat) (x : Rounds) (m : Marks)
    (c : Cursor) : x.Extends (between body greedy fuel x m c) := by
  induction fuel generalizing x m c with
  | zero => exact .refl x
  | succ fuel ih =>
    simp only [between]
    split
    · exact .refl x
    · rename_i pass
      have first : x.stood.contains c.left = false := by
        simp only [Bool.or_eq_true, not_or, Bool.not_eq_true] at pass
        exact pass.2
      have go (y : Rounds) : y.Extends ((body m.left c).foldl (fun y e =>
          between body greedy fuel y (.node (some c.left) e.2 .fresh) e.1) y) :=
        .foldl (fun y e => ih y _ e.1) _ y
      split
      · obtain ⟨kept, new, ends, distinct, fresh⟩ := go { x with stood := x.stood.insert c.left }
        exact .stop first _ kept distinct fresh (.inl (congrArg (_ :: ·) ends))
      · obtain ⟨kept, new, ends, distinct, fresh⟩ := go
          ⟨x.stood.insert c.left, (c, .node (some c.left) m.left .fresh) :: x.ends⟩
        exact .stop first _ kept distinct fresh (.inr ends)

theorem Rounds.Extends.distinct_reverse {x : Rounds} (h : Rounds.Extends ⟨.empty, []⟩ x) :
    Ends.Distinct x.ends.reverse := by
  obtain ⟨-, new, ends, distinct, -⟩ := h
  rw [ends, List.append_nil, Ends.Distinct, List.map_reverse]
  exact List.nodup_reverse.mpr distinct

theorem distinct_star (body : Step) (greedy : Bool) : (star body greedy).Distinct := fun _ _ =>
  (extends_between ..).distinct_reverse

end Step

open Step in
/-- A walk has at most one result per place. -/
theorem Pattern.distinct_walk (p : Pattern) : p.walk.Distinct := by
  induction p with
  | empty => exact distinct_stay
  | set s =>
    rintro m ⟨before, _ | ⟨x, rest⟩⟩
    · exact List.nodup_nil
    · simp only [walk]
      split
      · exact List.nodup_singleton _
      · exact List.nodup_nil
  | look l =>
    intro m c
    simp only [walk]
    split
    · exact List.nodup_singleton _
    · exact List.nodup_nil
  | cat p q => exact distinct_andThen _ _
  | alt p q => exact distinct_orElse _ _
  | capture body ih => exact ih
  | rep min max greedy body =>
    cases max with
    | none =>
      simp only [walk]
      split
      · split
        · exact distinct_star _ _
        · exact distinct_optional _ _
      · exact distinct_andThen _ _
    | some max => exact distinct_andThen _ _

end Ligature.Regex
