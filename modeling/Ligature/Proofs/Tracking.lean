import Ligature.Proofs.WalkLaws

/-!
# Steps that keep pace

Two steps keep pace if they end at the same places in the same order in every round of whatever
loop they stand in. The marks of the two need not be equal for this, only even: alike as far as
choices go that can still be come to. A mark at a place that is left behind bars nothing any more,
so what is even depends on the place.
-/
namespace Ligature.Regex

/-- Marks that bar the choice at their root at the same places, as far as places with fewer than `k`
characters to come go. -/
def Marks.BarAlike (k : Nat) (m n : Marks) : Prop := ∀ j < k, m.passed = some j ↔ n.passed = some j

namespace Marks.BarAlike

variable {j k : Nat} {m n : Marks}

theorem mono (le : j ≤ k) (h : m.BarAlike k n) : m.BarAlike j n :=
  fun i less => h i (by omega)

theorem bars (h : m.BarAlike k n) {c : Cursor} (less : c.left < k) : m.bars c = n.bars c := by
  rw [Marks.bars, Marks.bars, Bool.eq_iff_iff, beq_iff_eq, beq_iff_eq]
  exact h c.left less

theorem node {p : Option Nat} {l l' r r' : Marks} : BarAlike k (.node p l r) (.node p l' r') :=
  fun _ _ => .rfl

/-- A choice that was passed at an earlier place is as good as one that was not passed. -/
theorem node_fresh {l r : Marks} (le : k ≤ j) : BarAlike k (.node (some j) l r) .fresh := by
  intro i less
  have other : j ≠ i := by omega
  simp [Marks.passed, other]

end Marks.BarAlike

open Ends (MatchAt)
open Marks (BarAlike)

namespace Step

/-- What tells which marks of two steps are even, and that the steps keep them so. Marks are even
below `k` if the steps cannot tell them apart at places with fewer than `k` characters to come, now
or later. -/
structure Tracks (even : Nat → Marks → Marks → Prop) (moves : Bool) (a b : Step) : Prop where
  fresh : ∀ k, even k .fresh .fresh
  mono : ∀ {j k m n}, j ≤ k → even k m n → even j m n
  sim : ∀ {m n c}, even (c.left + 1) m n →
    MatchAt (fun d l r => even (d.left + 1) l r) (a m c) (b n c)
  forward : a.Forward
  moving : moves = true → a.Leads fun c d => d.left < c.left

variable {ea eb : Nat → Marks → Marks → Prop} {ma mb : Bool} {a b a' b' : Step} {m n : Marks}
  {c : Cursor}

namespace Tracks

theorem left_le (ha : Tracks ea ma a a') {e : Cursor × Marks} (he : e ∈ a m c) :
    e.1.left ≤ c.left :=
  (ha.forward m c e he).left_le

theorem left_lt (ha : Tracks ea ma a a') {e : Cursor × Marks} (he : e ∈ a m c) :
    e.1.left + 1 ≤ if ma then c.left else c.left + 1 := by
  split
  · rename_i moves
    exact ha.moving moves m c e he
  · exact Nat.succ_le_succ (ha.left_le he)

theorem of_same (keeps : ∀ m c, a m c = (a .fresh c).map fun e => (e.1, m)) (forward : a.Forward)
    (moving : ma = true → a.Leads fun c d => d.left < c.left) :
    Tracks (fun _ _ _ => True) ma a a where
  fresh _ := trivial
  mono _ _ := trivial
  sim {m n c} _ := by
    rw [keeps m, keeps n, MatchAt, List.forall₂_map_left_iff, List.forall₂_map_right_iff]
    exact List.forall₂_same.mpr fun _ _ => ⟨rfl, trivial⟩
  forward := forward
  moving := moving

theorem stay : Tracks (fun _ _ _ => True) false stay stay :=
  of_same (fun _ _ => rfl) onward_ahead.stay nofun

theorem andThen (ha : Tracks ea ma a a') (hb : Tracks eb mb b b') :
    Tracks (fun k m n => ea k m.left n.left ∧ eb (if ma then k - 1 else k) m.right n.right)
      (ma || mb) (a.andThen b) (a'.andThen b') where
  fresh _ := ⟨ha.fresh _, hb.fresh _⟩
  mono le h := by
    refine ⟨ha.mono le h.1, hb.mono ?_ h.2⟩
    split <;> omega
  sim {m n c} h := by
    have first := (ha.sim h.1).and_left (P := fun d _ => d.left + 1 ≤
      if ma then c.left else c.left + 1) fun _ => ha.left_lt
    refine match_andThen first ?_
    rintro d l r ⟨hl, less⟩
    have right := hb.sim (hb.mono (by simpa using less) h.2)
    refine (right.and_left (P := fun e _ => e.left ≤ d.left) fun _ => hb.left_le).imp ?_
    rintro e l' r' ⟨hr, le⟩
    refine ⟨ha.mono (Nat.succ_le_succ le) hl, hb.mono ?_ hr⟩
    split <;> omega
  forward := onward_ahead.andThen ha.forward hb.forward
  moving moves := by
    intro m c
    refine forall_andThen fun d hd e he => ?_
    have first := ha.left_le hd
    have rest := hb.left_le he
    rcases Bool.or_eq_true_iff.mp moves with moves | moves
    · exact Nat.lt_of_le_of_lt rest (ha.moving moves _ _ d hd)
    · exact Nat.lt_of_lt_of_le (hb.moving moves _ _ e he) first

theorem orElse (ha : Tracks ea ma a a') (hb : Tracks eb mb b b') :
    Tracks (fun k m n => m.BarAlike k n ∧ ea k m.left n.left ∧ eb k m.right n.right) (ma && mb)
      (a.orElse b) (a'.orElse b') where
  fresh _ := ⟨fun _ _ => .rfl, ha.fresh _, hb.fresh _⟩
  mono le h := ⟨h.1.mono le, ha.mono le h.2.1, hb.mono le h.2.2⟩
  sim {m n c} h := by
    obtain ⟨bars, left, right⟩ := h
    refine match_orElse (bars.bars (Nat.lt_succ_self _)) ?_ ?_
    · refine ((ha.sim left).and_left (P := fun d _ => d.left ≤ c.left) fun _ => ha.left_le).imp ?_
      rintro d l r ⟨hl, le⟩
      exact ⟨.node, hl, hb.mono (Nat.succ_le_succ le) right⟩
    · refine ((hb.sim right).and_left (P := fun d _ => d.left ≤ c.left) fun _ => hb.left_le).imp ?_
      rintro d l r ⟨hr, le⟩
      exact ⟨.node, ha.mono (Nat.succ_le_succ le) left, hr⟩
  forward := Leads.orElse ha.forward hb.forward
  moving moves := by
    obtain ⟨first, second⟩ := Bool.and_eq_true_iff.mp moves
    exact (ha.moving first).orElse (hb.moving second)

/-! ### Loops -/

theorem loopRule (ha : Tracks ea ma a a') :
    LoopRule (fun c m n => m.BarAlike (c.left + 1) n ∧ ea (c.left + 1) m.left n.left)
      (fun c m n => m.BarAlike (c.left + 1) n ∧ ea (c.left + 1) m.left n.left) a a' where
  bars h := h.1.bars (Nat.lt_succ_self _)
  round h := (ha.sim h.2).imp fun _ _ _ hl => ⟨.node, hl⟩
  stop h := ⟨.node, h.2⟩

theorem star (ha : Tracks ea ma a a') (greedy : Bool) :
    Tracks (fun k m n => m.BarAlike k n ∧ ea k m.left n.left) false (star a greedy)
      (star a' greedy) where
  fresh _ := ⟨fun _ _ => .rfl, ha.fresh _⟩
  mono le h := ⟨h.1.mono le, ha.mono le h.2⟩
  sim h := ha.loopRule.star greedy h
  forward := onward_ahead.star ha.forward greedy
  moving := nofun

theorem plus (ha : Tracks ea ma a a') (greedy : Bool) :
    Tracks (fun k m n => m.BarAlike (if ma then k - 1 else k) n ∧ ea k m.left n.left) ma
      (plus a greedy) (plus a' greedy) where
  fresh _ := ⟨fun _ _ => .rfl, ha.fresh _⟩
  mono le h := by
    refine ⟨h.1.mono ?_, ha.mono le h.2⟩
    split <;> omega
  sim {m n c} h := by
    have first := (ha.sim h.2).and_left (P := fun d _ => d.left + 1 ≤
      if ma then c.left else c.left + 1) fun _ => ha.left_lt
    have ends := ha.loopRule.plus greedy <| first.imp <| by
      rintro d l r ⟨hl, less⟩
      have bars : m.BarAlike (d.left + 1) n := h.1.mono (by simpa using less)
      exact ⟨bars, hl⟩
    refine ends.imp ?_
    rintro d l r ⟨bars, hl⟩
    refine ⟨bars.mono ?_, hl⟩
    split <;> omega
  forward := onward_ahead.plus ha.forward greedy
  moving moves := by
    intro m c
    refine forall_plus (P := fun d _ => d.left < c.left) ?_ id greedy fun e he => ?_
    · intro d n less e he
      exact Nat.lt_of_le_of_lt (ha.left_le he) less
    · exact ha.moving moves m.left c e he

/-! ### Optional rounds -/

def Row (even : Nat → Marks → Marks → Prop) : Nat → Nat → Marks → Marks → Prop
  | 0, _, _, _ => True
  | r + 1, k, m, n => m.BarAlike k n ∧ even k m.left n.left ∧ Row even r k m.right n.right

theorem Row.mono (ha : Tracks ea ma a a') {r j k : Nat} {m n : Marks} (le : j ≤ k)
    (h : Row ea r k m n) : Row ea r j m n := by
  induction r generalizing m n with
  | zero => trivial
  | succ r ih => exact ⟨h.1.mono le, ha.mono le h.2.1, ih h.2.2⟩

theorem Row.fresh (ha : Tracks ea ma a a') (r k : Nat) : Row ea r k .fresh .fresh := by
  induction r with
  | zero => trivial
  | succ r ih => exact ⟨fun _ _ => .rfl, ha.fresh k, ih⟩

theorem rowRule (ha : Tracks ea ma a a') (rounds : Nat) :
    RowRule (fun r w w' c m n => Row ea r (c.left + 1) m n ∧
        ∀ j ≤ c.left + 1, ∀ x y, Row ea r j x y → Row ea rounds j (w x) (w' y))
      (fun c l r => Row ea rounds (c.left + 1) l r) a a' where
  bars h := h.1.1.bars (Nat.lt_succ_self _)
  round {k w w' c m n} h := by
    obtain ⟨⟨-, left, right⟩, wraps⟩ := h
    refine ((ha.sim left).and_left (P := fun d _ => d.left ≤ c.left) fun _ => ha.left_le).imp ?_
    rintro d l r ⟨hl, le⟩
    refine ⟨Row.mono ha (Nat.succ_le_succ le) right, fun j less x y rest => ?_⟩
    exact wraps j (by omega) _ _ ⟨.node, ha.mono less hl, rest⟩
  stop h := h.2 _ (Nat.le_refl _) _ _ ⟨.node, h.1.2.1, h.1.2.2⟩
  last h := h.2 _ (Nat.le_refl _) _ _ h.1

theorem upTo (ha : Tracks ea ma a a') (greedy : Bool) (rounds : Nat) :
    Tracks (Row ea rounds) false (upTo a greedy rounds) (upTo a' greedy rounds) where
  fresh := Row.fresh ha rounds
  mono := Row.mono ha
  sim h := (ha.rowRule rounds).upTo greedy rounds ⟨h, fun _ _ _ _ same => same⟩
  forward := onward_ahead.upTo ha.forward greedy rounds
  moving := nofun

end Tracks

end Step

end Ligature.Regex
