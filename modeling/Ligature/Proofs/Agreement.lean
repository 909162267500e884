import Ligature.Proofs.SameRounds

/-!
# Patterns that agree

Two patterns agree if one may be put for the other in a larger pattern: they match the same texts
with the same preference, and a repetition of either is walked in the same way. Within a loop over
something that may match the empty text they must keep pace, too.
-/
namespace Ligature.Regex.Pattern

/-- Patterns that may stand for each other, also within a loop whose rounds may match the empty text
if they are `looped`. -/
structure Agree (looped : Bool) (p q : Pattern) : Prop where
  zeroWidth : p.zeroWidth = q.zeroWidth
  consumes : p.consumes = q.consumes
  ends : p.SameEnds q
  rounds : looped = true → p.walk.SameRounds q.walk

variable {looped : Bool} {p q p' q' : Pattern}

/-- Patterns that keep pace in every loop agree wherever they stand. -/
theorem Agree.of_rounds (zeroWidth : p.zeroWidth = q.zeroWidth)
    (consumes : p.consumes = q.consumes) (rounds : p.walk.SameRounds q.walk) : Agree looped p q :=
  ⟨zeroWidth, consumes, rounds.sameEnds, fun _ => rounds⟩

theorem Agree.of_consumes (zeroWidth : p.zeroWidth = q.zeroWidth)
    (consumes : p.consumes = q.consumes) (ends : p.SameEnds q)
    (moves : looped = true → p.consumes = true) : Agree looped p q := by
  refine ⟨zeroWidth, consumes, ends, fun loops => ?_⟩
  have first := p.renews_walk
  have second := q.renews_walk
  rw [moves loops] at first
  rw [← consumes, moves loops] at second
  exact .of_moving ends first second

theorem Alike.agree (h : p.Alike q) : Agree looped p q :=
  .of_rounds h.zeroWidth h.consumes (.of_alike h.walks p.forward_walk)

namespace Agree

theorem refl (p : Pattern) : Agree looped p p := (Alike.refl p).agree

theorem symm (h : Agree looped p q) : Agree looped q p :=
  ⟨h.zeroWidth.symm, h.consumes.symm, h.ends.symm,
    fun loops => (h.rounds loops).symm q.forward_walk⟩

theorem trans {r : Pattern} (h : Agree looped p q) (k : Agree looped q r) : Agree looped p r :=
  ⟨h.zeroWidth.trans k.zeroWidth, h.consumes.trans k.consumes,
    h.ends.trans k.ends, fun loops => (h.rounds loops).trans (k.rounds loops)⟩

theorem mono {looped' : Bool} (h : Agree looped p q) (le : looped' = true → looped = true) :
    Agree looped' p q :=
  ⟨h.zeroWidth, h.consumes, h.ends, fun loops => h.rounds (le loops)⟩

theorem cat (h : Agree looped p p') (k : Agree looped q q') :
    Agree looped (cat p q) (cat p' q') where
  zeroWidth := by simp [Pattern.zeroWidth, h.zeroWidth, k.zeroWidth]
  consumes := by simp [Pattern.consumes, h.consumes, k.consumes]
  ends := h.ends.cat k.ends
  rounds loops := (h.rounds loops).andThen (k.rounds loops)

theorem alt (h : Agree looped p p') (k : Agree looped q q') :
    Agree looped (alt p q) (alt p' q') where
  zeroWidth := by simp [Pattern.zeroWidth, h.zeroWidth, k.zeroWidth]
  consumes := by simp [Pattern.consumes, h.consumes, k.consumes]
  ends := h.ends.alt k.ends
  rounds loops := (h.rounds loops).orElse (k.rounds loops)

theorem capture (h : Agree looped p q) : Agree looped (capture p) (capture q) :=
  ⟨h.zeroWidth, h.consumes, h.ends, h.rounds⟩

/-- Rounds of a body that may match the empty text depend on each other. -/
theorem rep {min : Nat} {max : Option Nat} (greedy : Bool)
    (h : Agree (looped || max.isNone && !p.consumes) p q) :
    Agree looped (rep min max greedy p) (rep min max greedy q) := by
  have rounds (keep : p.walk.SameRounds q.walk) :
      (Pattern.rep min max greedy p).walk.SameRounds (Pattern.rep min max greedy q).walk := by
    cases max with
    | none =>
      simp only [walk, h.consumes]
      split
      · split
        · exact keep.star greedy
        · exact (keep.plus greedy).optional greedy
      · exact (keep.times _).andThen (keep.plus greedy)
    | some max => exact (keep.times _).andThen (keep.upTo greedy _)
  refine ⟨h.zeroWidth, ?_, ?_, fun loops => rounds (h.rounds (by simp [loops]))⟩
  · simp [Pattern.consumes, h.consumes]
  · cases max with
    | some max => exact h.ends.rep_bounded min max greedy
    | none =>
      cases moves : p.consumes with
      | true => exact h.ends.rep_unbounded moves (h.consumes ▸ moves) min greedy
      | false => exact (rounds (h.rounds (by simp [moves]))).sameEnds

theorem repeated {min : Nat} {max : Option Nat} (greedy : Bool)
    (h : Agree (looped || max.isNone && !p.consumes) p q) :
    Agree looped (repeated min max greedy p) (repeated min max greedy q) := by
  have once : Agree looped p q := h.mono fun loops => by simp [loops]
  simp only [Pattern.repeated, h.zeroWidth]
  split <;> dsimp only <;> split
  · exact .refl _
  · split
    · exact once
    · exact .rep greedy (by simpa using once)
  · exact .refl _
  · split
    · exact once
    · exact .rep greedy h

theorem choice {ps qs : List Pattern} (h : List.Forall₂ (Agree looped) ps qs) :
    Agree looped (choice ps) (choice qs) := by
  induction h with
  | nil => exact .refl _
  | cons first rest ih =>
    cases rest with
    | nil => exact first
    | cons => exact first.alt ih

/-! ### Sequences -/

theorem append_cat (p q : Pattern) : Agree looped (append p q) (.cat p q) := by
  by_cases hp : p = .empty
  · subst hp
    rw [empty_append]
    refine .of_rounds (by simp [Pattern.zeroWidth]) (by simp [Pattern.consumes]) ?_
    exact (Step.SameRounds.stay_andThen q.distinct_walk q.forward_walk).symm q.forward_walk
  by_cases hq : q = .empty
  · subst hq
    rw [append_empty]
    refine .of_rounds (by simp [Pattern.zeroWidth]) (by simp [Pattern.consumes]) ?_
    exact (Step.SameRounds.andThen_stay p.distinct_walk p.forward_walk).symm p.forward_walk
  rw [append_of_ne hp hq]
  exact .refl _

theorem append (h : Agree looped p p') (k : Agree looped q q') :
    Agree looped (append p q) (append p' q') :=
  (append_cat p q).trans ((h.cat k).trans (append_cat p' q').symm)

theorem sequence {ps qs : List Pattern} (h : List.Forall₂ (Agree looped) ps qs) :
    Agree looped (sequence ps) (sequence qs) := by
  have further : ∀ {p q}, Agree looped p q →
      Agree looped (ps.foldl Pattern.append p) (qs.foldl Pattern.append q) := by
    induction h with
    | nil => exact id
    | cons first _ ih => exact fun start => ih (start.append first)
  exact further (.refl .empty)

theorem sequence_flatten {pss : List (List Pattern)} {qs : List Pattern}
    (h : List.Forall₂ (fun ps q => Agree looped (Pattern.sequence ps) q) pss qs) :
    Agree looped (Pattern.sequence pss.flatten) (Pattern.sequence qs) := by
  have flat : (Pattern.sequence pss.flatten).Alike (Pattern.sequence (pss.map Pattern.sequence)) :=
    Pattern.sequence_flatten (List.forall₂_map_right_iff.mpr
      (List.forall₂_same.mpr fun _ _ => .refl _))
  exact flat.agree.trans (sequence (List.forall₂_map_left_iff.mpr h))

end Agree

end Ligature.Regex.Pattern
