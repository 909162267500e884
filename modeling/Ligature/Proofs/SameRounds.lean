import Ligature.Proofs.SameEnds

/-!
# The same rounds

Steps that keep pace may stand for each other anywhere, also in a loop whose body may match the
empty text: there it is not enough that they end at the same places when they start with fresh
marks. Steps that move keep pace as soon as they end at the same places, since what a round that
moves remembers of earlier rounds bars nothing.
-/
namespace Ligature.Regex

open Ends (MatchAt)
open Marks (BarAlike)

namespace Step

def SameRounds (a b : Step) : Prop := ∃ even, Tracks even false a b

variable {even ea eb : Nat → Marks → Marks → Prop} {moves : Bool} {a b d a' b' : Step}

theorem Tracks.sameRounds (h : Tracks even moves a b) : SameRounds a b :=
  ⟨even, { h with moving := nofun }⟩

theorem Tracks.matchAt_fresh (h : Tracks even moves a b) (c : Cursor) :
    MatchAt (fun d l r => even (d.left + 1) l r) (a .fresh c) (b .fresh c) :=
  h.sim (h.fresh _)

namespace SameRounds

theorem sameEnds (h : SameRounds a b) : SameEnds a b := by
  obtain ⟨even, tracks⟩ := h
  exact fun c => (tracks.matchAt_fresh c).places

theorem refl (forward : a.Forward) : SameRounds a a := by
  refine ⟨fun _ m n => m = n, fun _ => rfl, fun _ same => same, ?_, forward, nofun⟩
  rintro m _ c rfl
  exact List.forall₂_same.mpr fun _ _ => ⟨rfl, rfl⟩

theorem symm (h : SameRounds a b) (forward : b.Forward) : SameRounds b a := by
  obtain ⟨even, tracks⟩ := h
  refine ⟨fun k m n => even k n m, tracks.fresh, tracks.mono, fun same => ?_, forward, nofun⟩
  exact (tracks.sim same).flip.imp fun _ _ both => ⟨both.1.symm, both.1 ▸ both.2⟩

theorem trans (h : SameRounds a b) (k : SameRounds b d) : SameRounds a d := by
  obtain ⟨ea, first⟩ := h
  obtain ⟨eb, second⟩ := k
  refine ⟨fun k m n => ∃ x, ea k m x ∧ eb k x n, fun k => ⟨.fresh, first.fresh k, second.fresh k⟩,
    ?_, ?_, first.forward, nofun⟩
  · rintro j k m n le ⟨x, hm, hn⟩
    exact ⟨x, first.mono le hm, second.mono le hn⟩
  · rintro m n c ⟨x, hm, hn⟩
    have left := first.sim hm
    have right := second.sim hn
    revert left right
    generalize a m c = ends, b x c = ends', d n c = ends''
    intro left right
    induction left generalizing ends'' with
    | nil =>
      cases right
      exact .nil
    | cons same _ ih =>
      cases right with
      | cons same' right =>
        refine .cons ⟨same.1.trans same'.1, _, same.2, ?_⟩ (ih _ right)
        rw [same.1]
        exact same'.2

theorem of_alike (h : a.Alike b) (forward : a.Forward) : SameRounds a b := by
  obtain ⟨R, fresh, sim⟩ := h
  exact ⟨fun _ => R, fun _ => fresh, fun _ same => same, fun same => sim _ _ _ same, forward, nofun⟩

theorem andThen (h : SameRounds a a') (k : SameRounds b b') :
    SameRounds (a.andThen b) (a'.andThen b') := by
  obtain ⟨ea, ha⟩ := h
  obtain ⟨eb, hb⟩ := k
  exact (ha.andThen hb).sameRounds

theorem orElse (h : SameRounds a a') (k : SameRounds b b') :
    SameRounds (a.orElse b) (a'.orElse b') := by
  obtain ⟨ea, ha⟩ := h
  obtain ⟨eb, hb⟩ := k
  exact (ha.orElse hb).sameRounds

theorem times (h : SameRounds a a') (k : Nat) : SameRounds (a.times k) (a'.times k) := by
  induction k with
  | zero => exact .refl onward_ahead.stay
  | succ k ih => exact ih.andThen h

theorem star (h : SameRounds a a') (greedy : Bool) :
    SameRounds (Step.star a greedy) (Step.star a' greedy) := by
  obtain ⟨ea, ha⟩ := h
  exact (ha.star greedy).sameRounds

theorem plus (h : SameRounds a a') (greedy : Bool) :
    SameRounds (Step.plus a greedy) (Step.plus a' greedy) := by
  obtain ⟨ea, ha⟩ := h
  exact (ha.plus greedy).sameRounds

theorem optional (h : SameRounds a a') (greedy : Bool) :
    SameRounds (Step.optional a greedy) (Step.optional a' greedy) := by
  cases greedy
  · exact (refl onward_ahead.stay).orElse h
  · exact h.orElse (.refl onward_ahead.stay)

theorem upTo (h : SameRounds a a') (greedy : Bool) (k : Nat) :
    SameRounds (Step.upTo a greedy k) (Step.upTo a' greedy k) := by
  obtain ⟨ea, ha⟩ := h
  exact (ha.upTo greedy k).sameRounds

theorem of_moving (h : SameEnds a b) (ha : Renews true a) (hb : Renews true b) :
    SameRounds a b := by
  obtain ⟨ea, ha⟩ := ha
  obtain ⟨eb, hb⟩ := hb
  refine ⟨fun k m n => ea k m .fresh ∧ eb k n .fresh, fun k => ⟨ha.fresh k, hb.fresh k⟩, ?_, ?_,
    ha.forward, nofun⟩
  · exact fun le same => ⟨ha.mono le same.1, hb.mono le same.2⟩
  · exact fun same => h.round ha hb same.1 same.2

/-! ### Steps that change nothing -/

theorem stay_andThen (distinct : a.Distinct) (forward : a.Forward) :
    SameRounds (stay.andThen a) a := by
  refine ⟨fun _ m n => m.right = n, fun _ => rfl, fun _ same => same, ?_,
    onward_ahead.andThen onward_ahead.stay forward, nofun⟩
  rintro m _ c rfl
  have all : (stay.andThen a) m c =
      Ends.best ((a m.right c).map fun e => (e.1, .node none m.left e.2)) .empty := by
    simp [Step.andThen, stay]
  rw [all, Ends.best_map, (distinct m.right c).best_eq (by simp)]
  exact List.forall₂_map_left_iff.mpr (List.forall₂_same.mpr fun _ _ => ⟨rfl, rfl⟩)

theorem andThen_stay (distinct : a.Distinct) (forward : a.Forward) :
    SameRounds (a.andThen stay) a := by
  refine ⟨fun _ m n => m.left = n, fun _ => rfl, fun _ same => same, ?_,
    onward_ahead.andThen forward onward_ahead.stay, nofun⟩
  rintro m _ c rfl
  have all : (a.andThen stay) m c =
      Ends.best ((a m.left c).map fun e => (e.1, .node none e.2 m.right)) .empty := by
    simp [Step.andThen, stay, List.map_eq_flatMap]
  rw [all, Ends.best_map (.node none · m.right), (distinct m.left c).best_eq (by simp)]
  exact List.forall₂_map_left_iff.mpr (List.forall₂_same.mpr fun _ _ => ⟨rfl, rfl⟩)

end SameRounds

/-! ### Choices within choices -/

def Behind (k : Nat) (m : Marks) : Prop := ∀ j, m.passed = some j → k ≤ j + 1

/-- The marks of a choice among three, grouped to the left and to the right. Where a choice within
was passed last, the choice around it was passed, too, unless that place is left behind. -/
structure Nests (ea eb ed : Nat → Marks → Marks → Prop) (k : Nat) (m n : Marks) : Prop where
  bars : m.BarAlike k n
  left : ∀ j < k, m.left.passed = some j → m.passed = some j
  right : ∀ j < k, n.right.passed = some j → n.passed = some j
  behindLeft : Behind k m.left
  behindRight : Behind k n.right
  first : ea k m.left.left n.left
  second : eb k m.left.right n.right.left
  third : ed k m.right n.right.right

theorem Behind.mono {j k : Nat} {m : Marks} (le : j ≤ k) (h : Behind k m) : Behind j m :=
  fun i passed => Nat.le_trans le (h i passed)

theorem behind_node {j k : Nat} {l r : Marks} (le : k ≤ j + 1) : Behind k (.node (some j) l r) := by
  rintro i ⟨⟩
  exact le

/-- A choice that was passed at no place ahead, and not here, is passed at no place from here on. -/
theorem Behind.not_passed {k : Nat} {m : Marks} {c : Cursor} (h : Behind (c.left + 1) m)
    (pass : m.bars c = false) (le : k ≤ c.left + 1) : ∀ j < k, m.passed ≠ some j := by
  intro j less passed
  have past := h j passed
  obtain rfl : j = c.left := by omega
  simp [Marks.bars, passed] at pass

theorem best_append_best (a b : Ends) :
    Ends.best (a ++ Ends.best b .empty) .empty = Ends.best (a ++ b) .empty := by
  have second := Ends.best_best_append b [] (t := .empty) (s := a.addTo .empty) (by simp)
  simp only [List.append_nil] at second
  rw [Ends.best_append, second, ← Ends.best_append]

section Walks

variable {m : Marks} {c : Cursor}

theorem orElse_left (outer : m.bars c = false) (inner : m.left.bars c = false) :
    ((a.orElse b).orElse d) m c = Ends.best
      ((a m.left.left c).map (fun e =>
          (e.1, .node (some c.left) (.node (some c.left) e.2 m.left.right) m.right)) ++
        ((b m.left.right c).map (fun e =>
          (e.1, .node (some c.left) (.node (some c.left) m.left.left e.2) m.right)) ++
        (d m.right c).map fun e => (e.1, .node (some c.left) m.left e.2))) .empty := by
  simp only [Step.orElse, outer, inner, Bool.false_eq_true, if_false]
  rw [← Ends.best_map (.node (some c.left) · m.right), Ends.best_best_append _ _ (by simp)]
  simp [Function.comp_def]

theorem orElse_right (outer : m.bars c = false) (inner : m.right.bars c = false) :
    (a.orElse (b.orElse d)) m c = Ends.best
      ((a m.left c).map (fun e => (e.1, .node (some c.left) e.2 m.right)) ++
        ((b m.right.left c).map (fun e =>
          (e.1, .node (some c.left) m.left (.node (some c.left) e.2 m.right.right))) ++
        (d m.right.right c).map fun e =>
          (e.1, .node (some c.left) m.left (.node (some c.left) m.right.left e.2)))) .empty := by
  simp only [Step.orElse, outer, inner, Bool.false_eq_true, if_false]
  rw [← Ends.best_map (.node (some c.left) m.left ·), best_append_best]
  simp [Function.comp_def]

end Walks

theorem nests_orElse (ha : Tracks ea false a a) (hb : Tracks eb false b b)
    (hd : Tracks ed false d d) :
    Tracks (Nests ea eb ed) false ((a.orElse b).orElse d) (a.orElse (b.orElse d)) where
  fresh k := ⟨fun _ _ => .rfl, nofun, nofun, nofun, nofun, ha.fresh k, hb.fresh k, hd.fresh k⟩
  mono le h := ⟨h.bars.mono le, fun j less => h.left j (by omega),
    fun j less => h.right j (by omega), h.behindLeft.mono le, h.behindRight.mono le,
    ha.mono le h.first, hb.mono le h.second, hd.mono le h.third⟩
  sim {m n c} h := by
    cases barred : m.bars c with
    | true =>
      have barred' := h.bars.bars (Nat.lt_succ_self c.left) ▸ barred
      simp [Step.orElse, barred, barred']
    | false =>
      have pass := h.bars.bars (Nat.lt_succ_self c.left) ▸ barred
      -- A choice within is not barred here either: it would have been passed along with the one
      -- around it.
      have passL : m.left.bars c = false := by
        by_contra bars
        have passed := h.left c.left (Nat.lt_succ_self _) (by simpa [Marks.bars] using bars)
        simp [Marks.bars, passed] at barred
      have passR : n.right.bars c = false := by
        by_contra bars
        have passed := h.right c.left (Nat.lt_succ_self _) (by simpa [Marks.bars] using bars)
        simp [Marks.bars, passed] at pass
      let here := some c.left
      rw [orElse_left barred passL, orElse_right pass passR]
      refine MatchAt.best (List.rel_append ?_ (List.rel_append ?_ ?_)) _
      · refine MatchAt.map (S := fun e l r => Nests ea eb ed (e.left + 1) l r)
          (f := fun l => .node here (.node here l m.left.right) m.right)
          (g := fun l => .node here l n.right) ?_
        refine ((ha.sim h.first).and_left (P := fun e _ => e.left ≤ c.left)
          fun _ => ha.left_le).imp ?_
        rintro e l r ⟨hl, le⟩
        have less := Nat.succ_le_succ le
        exact ⟨.node, fun _ _ same => same,
          fun j before passed => absurd passed (h.behindRight.not_passed passR less j before),
          behind_node less, h.behindRight.mono less, hl, hb.mono less h.second,
          hd.mono less h.third⟩
      · refine MatchAt.map (S := fun e l r => Nests ea eb ed (e.left + 1) l r)
          (f := fun l => .node here (.node here m.left.left l) m.right)
          (g := fun l => .node here n.left (.node here l n.right.right)) ?_
        refine ((hb.sim h.second).and_left (P := fun e _ => e.left ≤ c.left)
          fun _ => hb.left_le).imp ?_
        rintro e l r ⟨hl, le⟩
        have less := Nat.succ_le_succ le
        exact ⟨.node, fun _ _ same => same, fun _ _ same => same, behind_node less,
          behind_node less, ha.mono less h.first, hl, hd.mono less h.third⟩
      · refine MatchAt.map (S := fun e l r => Nests ea eb ed (e.left + 1) l r)
          (f := fun l => .node here m.left l)
          (g := fun l => .node here n.left (.node here n.right.left l)) ?_
        refine ((hd.sim h.third).and_left (P := fun e _ => e.left ≤ c.left)
          fun _ => hd.left_le).imp ?_
        rintro e l r ⟨hl, le⟩
        have less := Nat.succ_le_succ le
        exact ⟨.node,
          fun j before passed => absurd passed (h.behindLeft.not_passed passL less j before),
          fun _ _ same => same, h.behindLeft.mono less, behind_node less, ha.mono less h.first,
          hb.mono less h.second, hl⟩
  forward := Leads.orElse (Leads.orElse ha.forward hb.forward) hd.forward
  moving := nofun

theorem SameRounds.orElse_assoc (ha : a.Forward) (hb : b.Forward) (hd : d.Forward) :
    SameRounds ((a.orElse b).orElse d) (a.orElse (b.orElse d)) := by
  obtain ⟨ea, ha⟩ := SameRounds.refl ha
  obtain ⟨eb, hb⟩ := SameRounds.refl hb
  obtain ⟨ed, hd⟩ := SameRounds.refl hd
  exact (nests_orElse ha hb hd).sameRounds

end Step

end Ligature.Regex
