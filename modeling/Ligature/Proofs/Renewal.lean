import Ligature.Proofs.Tracking

/-!
# Rounds that begin anew

A choice that was passed is not passed again before a character is consumed, so the rounds of a loop
may depend on each other. They do not if each of them consumes something. Choices that are come to
before the first character of a round were passed at an earlier place then, and all others are come
to at a later place: the marks that a round leaves are as good as none for the next one.
-/
namespace Ligature.Regex

open Ends (MatchAt)
open Marks (BarAlike)

namespace Step

/-- What tells which marks make no difference to a step. Marks that are as good as fresh at all later
places are so again where the step ends, and if it `moves` they are as good as fresh at that place,
too. -/
structure Renewal (even : Nat → Marks → Marks → Prop) (moves : Bool) (a : Step) : Prop
    extends Tracks even moves a a where
  later : ∀ {m c}, even c.left m .fresh → ∀ e ∈ a m c, even e.1.left e.2 .fresh
  here : moves = true → ∀ {m c}, even c.left m .fresh → ∀ e ∈ a m c,
    even (e.1.left + 1) e.2 .fresh

def Renews (moves : Bool) (a : Step) : Prop := ∃ even, Renewal even moves a

variable {ea eb : Nat → Marks → Marks → Prop} {ma mb : Bool} {a b : Step} {m n : Marks} {c : Cursor}

namespace Renewal

theorem of_same (keeps : ∀ m c, a m c = (a .fresh c).map fun e => (e.1, m)) (forward : a.Forward)
    (moving : ma = true → a.Leads fun c d => d.left < c.left) :
    Renewal (fun _ _ _ => True) ma a where
  toTracks := .of_same keeps forward moving
  later _ _ _ := trivial
  here _ _ _ _ _ _ := trivial

theorem stay : Renewal (fun _ _ _ => True) false stay :=
  of_same (fun _ _ => rfl) onward_ahead.stay nofun

theorem right_fresh (ha : Renewal ea ma a) (hb : Renewal eb mb b) {d : Cursor × Marks}
    (hd : d ∈ a m.left c) (h : eb (if ma then c.left - 1 else c.left) m.right .fresh) :
    eb d.1.left m.right .fresh := by
  have less := ha.left_lt hd
  refine hb.mono ?_ h
  cases ma
  · exact Nat.le_of_succ_le_succ less
  · exact Nat.le_sub_one_of_lt less

theorem andThen (ha : Renewal ea ma a) (hb : Renewal eb mb b) :
    Renewal (fun k m n => ea k m.left n.left ∧ eb (if ma then k - 1 else k) m.right n.right)
      (ma || mb) (a.andThen b) where
  toTracks := ha.toTracks.andThen hb.toTracks
  later {m c} h := by
    refine forall_andThen fun d hd e he => ?_
    have le := hb.left_le he
    refine ⟨ha.mono le (ha.later h.1 d hd), hb.mono ?_ (hb.later (ha.right_fresh hb hd h.2) e he)⟩
    dsimp only
    split <;> omega
  here moves {m c} h := by
    refine forall_andThen fun d hd e he => ?_
    have right := ha.right_fresh hb hd h.2
    cases ma with
    | true =>
      have le := Nat.succ_le_succ (hb.left_le he)
      exact ⟨ha.mono le (ha.here rfl h.1 d hd), hb.later right e he⟩
    | false =>
      have less := hb.moving moves _ _ e he
      exact ⟨ha.mono less (ha.later h.1 d hd), hb.here moves right e he⟩

theorem orElse (ha : Renewal ea ma a) (hb : Renewal eb mb b) :
    Renewal (fun k m n => m.BarAlike k n ∧ ea k m.left n.left ∧ eb k m.right n.right) (ma && mb)
      (a.orElse b) where
  toTracks := ha.toTracks.orElse hb.toTracks
  later {m c} h := by
    obtain ⟨-, left, right⟩ := h
    refine forall_orElse (fun e he => ?_) fun e he => ?_
    · have le := ha.left_le he
      exact ⟨.node_fresh le, ha.later left e he, hb.mono le right⟩
    · have le := hb.left_le he
      exact ⟨.node_fresh le, ha.mono le left, hb.later right e he⟩
  here moves {m c} h := by
    obtain ⟨-, left, right⟩ := h
    obtain ⟨first, second⟩ := Bool.and_eq_true_iff.mp moves
    refine forall_orElse (fun e he => ?_) fun e he => ?_
    · have less := ha.moving first _ _ e he
      exact ⟨.node_fresh less, ha.here first left e he, hb.mono less right⟩
    · have less := hb.moving second _ _ e he
      exact ⟨.node_fresh less, ha.mono less left, hb.here second right e he⟩

/-! ### Loops -/

theorem star (ha : Renewal ea ma a) (greedy : Bool) :
    Renewal (fun k m n => m.BarAlike k n ∧ ea k m.left n.left) false (star a greedy) where
  toTracks := ha.toTracks.star greedy
  later {m c} h := by
    refine forall_star (P := fun d m => ea d.left m.left .fresh) ?_ ?_ greedy h.2
    · intro d n kept e he
      exact ha.later kept e he
    · intro d n kept
      exact ⟨.node_fresh (Nat.le_refl _), kept⟩
  here := nofun

/-- A loop of one round or more is at its mark only behind the first round. -/
theorem plus (ha : Renewal ea ma a) (greedy : Bool) :
    Renewal (fun k m n => m.BarAlike (if ma then k - 1 else k) n ∧ ea k m.left n.left) ma
      (plus a greedy) where
  toTracks := ha.toTracks.plus greedy
  later {m c} h := by
    refine forall_plus (P := fun d m => ea d.left m.left .fresh) ?_ ?_ greedy fun e he => ?_
    · intro d n kept e he
      exact ha.later kept e he
    · intro d n kept
      refine ⟨.node_fresh ?_, kept⟩
      dsimp only
      split <;> omega
    · exact ha.later h.2 e he
  here moves {m c} h := by
    subst moves
    refine forall_plus (P := fun d m => ea (d.left + 1) m.left .fresh) ?_ ?_ greedy
      fun e he => ?_
    · intro d n kept e he
      exact ha.here rfl (ha.mono (Nat.le_succ _) kept) e he
    · intro d n kept
      exact ⟨.node_fresh (Nat.le_refl _), kept⟩
    · exact ha.here rfl h.2 e he

/-! ### Optional rounds -/

theorem upTo (ha : Renewal ea ma a) (greedy : Bool) (rounds : Nat) :
    Renewal (Tracks.Row ea rounds) false (upTo a greedy rounds) where
  toTracks := ha.toTracks.upTo greedy rounds
  later {m c} h := by
    refine forall_upTo (P := fun r w d m => Tracks.Row ea r d.left m .fresh ∧ ∀ j ≤ d.left, ∀ x,
      Tracks.Row ea r j x .fresh → Tracks.Row ea rounds j (w x) .fresh) ?_ ?_ ?_ greedy rounds
      ⟨h, fun _ _ _ same => same⟩
    · rintro r w d m ⟨⟨-, left, right⟩, wraps⟩ e he
      have le := ha.left_le he
      refine ⟨Tracks.Row.mono ha.toTracks le right, fun j less x rest => ?_⟩
      exact wraps j (by omega) _ ⟨.node_fresh (by omega), ha.mono less (ha.later left e he), rest⟩
    · rintro r w d m ⟨⟨-, left, right⟩, wraps⟩
      exact wraps _ (Nat.le_refl _) _ ⟨.node_fresh (Nat.le_refl _), left, right⟩
    · rintro w d m ⟨-, wraps⟩
      exact wraps _ (Nat.le_refl _) _ trivial
  here := nofun

end Renewal

/-! ### Patterns -/

theorem Renews.andThen (ha : Renews ma a) (hb : Renews mb b) : Renews (ma || mb) (a.andThen b) := by
  obtain ⟨ea, ha⟩ := ha
  obtain ⟨eb, hb⟩ := hb
  exact ⟨_, ha.andThen hb⟩

theorem Renews.times (ha : Renews ma a) (k : Nat) : Renews (k != 0 && ma) (a.times k) := by
  induction k with
  | zero => exact ⟨_, .stay⟩
  | succ k ih =>
    have both := ih.andThen ha
    rwa [show (k != 0 && ma || ma) = (k + 1 != 0 && ma) by cases ma <;> simp] at both

theorem Renews.optional (ha : Renews ma a) (greedy : Bool) : Renews false (optional a greedy) := by
  obtain ⟨ea, ha⟩ := ha
  cases greedy
  · exact ⟨_, Renewal.stay.orElse ha⟩
  · have either := ha.orElse .stay
    rw [Bool.and_false] at either
    exact ⟨_, either⟩

end Step

open Step in
/-- The walk of a pattern that consumes text in every match moves. -/
theorem Pattern.renews_walk (p : Pattern) : p.walk.Renews p.consumes := by
  induction p with
  | empty => exact ⟨_, .stay⟩
  | set s =>
    refine ⟨_, .of_same ?_ (forward_walk _) fun _ => ?_⟩
    · rintro m ⟨before, _ | ⟨x, rest⟩⟩
      · rfl
      · simp only [walk]
        split <;> rfl
    · rintro m ⟨before, _ | ⟨x, rest⟩⟩ e he
      · cases he
      · simp only [walk] at he
        split at he
        · obtain rfl := List.mem_singleton.mp he
          simp [Cursor.left]
        · cases he
  | look l =>
    refine ⟨_, .of_same (fun m c => ?_) (forward_walk _) fun moves => ?_⟩
    · simp only [walk]
      split <;> rfl
    · cases moves
  | cat p q hp hq => exact hp.andThen hq
  | alt p q hp hq =>
    obtain ⟨ea, hp⟩ := hp
    obtain ⟨eb, hq⟩ := hq
    exact ⟨_, hp.orElse hq⟩
  | capture body ih => exact ih
  | rep min max greedy body ih =>
    obtain ⟨even, renewal⟩ := id ih
    cases max with
    | none =>
      simp only [walk, consumes]
      split
      · rename_i none
        rw [none]
        split
        · exact ⟨_, renewal.star greedy⟩
        · exact Renews.optional ⟨_, renewal.plus greedy⟩ greedy
      · rename_i some
        have both := (ih.times (min - 1)).andThen ⟨_, renewal.plus greedy⟩
        have moves : (min - 1 != 0 && body.consumes || body.consumes) =
            (min != 0 && body.consumes) := by
          cases body.consumes <;> simp [some]
        rwa [moves] at both
    | some max =>
      have both := (ih.times min).andThen ⟨_, renewal.upTo greedy (max - min)⟩
      rwa [Bool.or_false] at both

end Ligature.Regex
