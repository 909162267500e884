import Ligature.Proofs.DistinctEnds
import Ligature.Proofs.MatchLaws
import Ligature.Proofs.Renewal

/-!
# Patterns with the same ends

Two patterns match the same texts with the same preference if from every place their walks end at
the same places in the same order. One may then stand for the other in a sequence, in a choice and
under a bounded repetition. Under a repetition without a bound this takes bodies that consume text
in every round, for only then does a round not depend on the choices that were passed before it.
-/
namespace Ligature.Regex

open Ends (MatchAt)

namespace Step

/-- From every place, and from fresh marks, two steps end at the same places in the same order. -/
def SameEnds (a b : Step) : Prop := ∀ c, (a .fresh c).map (·.1) = (b .fresh c).map (·.1)

variable {a b a' b' : Step}

theorem sameEnds_iff :
    SameEnds a b ↔ ∀ c, MatchAt (fun _ _ _ => True) (a .fresh c) (b .fresh c) :=
  forall_congr' fun _ => ⟨.of_places, MatchAt.places⟩

namespace SameEnds

theorem refl (a : Step) : SameEnds a a := fun _ => rfl

theorem symm (h : SameEnds a b) : SameEnds b a := fun c => (h c).symm

theorem trans {d : Step} (h : SameEnds a b) (k : SameEnds b d) : SameEnds a d := fun c =>
  (h c).trans (k c)

theorem andThen (h : SameEnds a a') (k : SameEnds b b') :
    SameEnds (a.andThen b) (a'.andThen b') := by
  rw [sameEnds_iff] at h k ⊢
  intro c
  refine match_andThen (R := fun _ _ _ => True) (h c) ?_
  intro d _ _ _
  exact k d

theorem orElse (h : SameEnds a a') (k : SameEnds b b') :
    SameEnds (a.orElse b) (a'.orElse b') := by
  rw [sameEnds_iff] at h k ⊢
  intro c
  exact match_orElse rfl (h c) (k c)

theorem times (h : SameEnds a a') (k : Nat) : SameEnds (a.times k) (a'.times k) := by
  induction k with
  | zero => exact .refl stay
  | succ k ih => exact ih.andThen h

theorem rowRule (h : SameEnds a a') :
    RowRule (fun _ _ _ _ m n => m = .fresh ∧ n = .fresh) (fun _ _ _ => True) a a' where
  bars := by
    rintro _ _ _ c _ _ ⟨rfl, rfl⟩
    rfl
  round := by
    rintro _ _ _ c _ _ ⟨rfl, rfl⟩
    exact (sameEnds_iff.mp h c).imp fun _ _ _ _ => ⟨rfl, rfl⟩
  stop _ := trivial
  last _ := trivial

theorem upTo (h : SameEnds a a') (greedy : Bool) (k : Nat) :
    SameEnds (Step.upTo a greedy k) (Step.upTo a' greedy k) := by
  rw [sameEnds_iff]
  intro c
  exact h.rowRule.upTo greedy k ⟨rfl, rfl⟩

/-! ### Loops -/

variable {ea eb : Nat → Marks → Marks → Prop}

/-- Rounds that move begin with marks that are as good as fresh, so what they do does not depend on
the rounds before. -/
theorem round (h : SameEnds a b) (ha : Renewal ea true a) (hb : Renewal eb true b) {m n : Marks}
    {c : Cursor} (left : ea (c.left + 1) m .fresh) (right : eb (c.left + 1) n .fresh) :
    MatchAt (fun d l r => ea (d.left + 1) l .fresh ∧ eb (d.left + 1) r .fresh) (a m c) (b n c) := by
  have same : (a m c).map (·.1) = (b n c).map (·.1) := by
    rw [(ha.sim left).places, h c, (hb.sim right).places]
  have first := (MatchAt.of_places same).and_left (P := fun d l => ea (d.left + 1) l .fresh)
    (ha.here rfl (ha.mono (Nat.le_succ _) left))
  have both := first.and_right (P := fun d r => eb (d.left + 1) r .fresh)
    (hb.here rfl (hb.mono (Nat.le_succ _) right))
  exact both.imp fun _ _ _ kept => ⟨kept.1.2, kept.2⟩

theorem loopRule (h : SameEnds a b) (ha : Renewal ea true a) (hb : Renewal eb true b) :
    LoopRule (fun c m n => m.passed = n.passed ∧ ea (c.left + 1) m.left .fresh ∧
      eb (c.left + 1) n.left .fresh) (fun _ _ _ => True) a b where
  bars same := by simp [Marks.bars, same.1]
  round same := (h.round ha hb same.2.1 same.2.2).imp fun _ _ _ kept => ⟨rfl, kept⟩
  stop _ := trivial

theorem star (h : SameEnds a b) (ha : Renews true a) (hb : Renews true b) (greedy : Bool) :
    SameEnds (Step.star a greedy) (Step.star b greedy) := by
  obtain ⟨ea, ha⟩ := ha
  obtain ⟨eb, hb⟩ := hb
  rw [sameEnds_iff]
  intro c
  exact (h.loopRule ha hb).star greedy ⟨rfl, ha.fresh _, hb.fresh _⟩

theorem plus (h : SameEnds a b) (ha : Renews true a) (hb : Renews true b) (greedy : Bool) :
    SameEnds (Step.plus a greedy) (Step.plus b greedy) := by
  obtain ⟨ea, ha⟩ := ha
  obtain ⟨eb, hb⟩ := hb
  rw [sameEnds_iff]
  intro c
  have first := h.round ha hb (ha.fresh (c.left + 1)) (hb.fresh _)
  exact (h.loopRule ha hb).plus greedy (first.imp fun _ _ _ kept => ⟨rfl, kept⟩)

/-! ### Steps that change nothing -/

theorem stay_andThen (distinct : a.Distinct) : SameEnds (stay.andThen a) a := by
  intro c
  have all : (stay.andThen a) .fresh c =
      Ends.best ((a .fresh c).map fun e => (e.1, .node none .fresh e.2)) .empty := by
    simp [Step.andThen, stay, Marks.left, Marks.right]
  rw [all, Ends.best_map, (distinct .fresh c).best_eq (by simp), List.map_map]
  rfl

theorem andThen_stay (distinct : a.Distinct) : SameEnds (a.andThen stay) a := by
  intro c
  have all : (a.andThen stay) .fresh c =
      Ends.best ((a .fresh c).map fun e => (e.1, .node none e.2 .fresh)) .empty := by
    simp [Step.andThen, stay, Marks.left, Marks.right, List.map_eq_flatMap]
  rw [all, Ends.best_map (.node none · .fresh), (distinct .fresh c).best_eq (by simp), List.map_map]
  rfl

end SameEnds

/-! ### Steps that consume nothing -/

theorem Leads.stays (stays : a.Leads (· = ·)) (distinct : a.Distinct) (c : Cursor) :
    a .fresh c = [] ∨ ∃ m, a .fresh c = [(c, m)] := by
  have places := stays .fresh c
  have once := distinct .fresh c
  match ends : a .fresh c with
  | [] => exact .inl rfl
  | [(d, m)] =>
    rw [ends] at places
    obtain rfl : c = d := places (d, m) List.mem_cons_self
    exact .inr ⟨m, rfl⟩
  | e :: f :: rest =>
    rw [ends] at places once
    have first : c = e.1 := places e List.mem_cons_self
    have second : c = f.1 := places f (List.mem_cons_of_mem _ List.mem_cons_self)
    simp [Ends.Distinct, ← first, ← second] at once

namespace SameEnds

end SameEnds

end Step

/-! ### Patterns -/

namespace Pattern

/-- Two patterns match the same texts with the same preference: from every place their walks end at
the same places in the same order. -/
def SameEnds (p q : Pattern) : Prop := p.walk.SameEnds q.walk

variable {p q p' q' : Pattern}

namespace SameEnds

theorem refl (p : Pattern) : SameEnds p p := Step.SameEnds.refl _

theorem symm (h : SameEnds p q) : SameEnds q p := Step.SameEnds.symm h

theorem trans {r : Pattern} (h : SameEnds p q) (k : SameEnds q r) : SameEnds p r :=
  Step.SameEnds.trans h k

theorem matchEnd?_eq (h : SameEnds p q) (c : Cursor) : p.matchEnd? c = q.matchEnd? c := by
  rw [matchEnd?, matchEnd?, ← List.head?_map, ← List.head?_map, h c]

theorem cat (h : SameEnds p p') (k : SameEnds q q') : SameEnds (cat p q) (cat p' q') :=
  Step.SameEnds.andThen h k

theorem alt (h : SameEnds p p') (k : SameEnds q q') : SameEnds (alt p q) (alt p' q') :=
  Step.SameEnds.orElse h k

theorem choice {ps qs : List Pattern} (h : List.Forall₂ SameEnds ps qs) :
    SameEnds (choice ps) (choice qs) := by
  induction h with
  | nil => exact .refl _
  | cons first rest ih =>
    cases rest with
    | nil => exact first
    | cons => exact first.alt ih

theorem append_cat (p q : Pattern) : SameEnds (append p q) (.cat p q) := by
  by_cases hp : p = .empty
  · rw [hp, empty_append]
    exact (Step.SameEnds.stay_andThen q.distinct_walk).symm
  by_cases hq : q = .empty
  · rw [hq, append_empty]
    exact (Step.SameEnds.andThen_stay p.distinct_walk).symm
  rw [append_of_ne hp hq]
  exact .refl _

theorem append (h : SameEnds p p') (k : SameEnds q q') : SameEnds (append p q) (append p' q') :=
  (append_cat p q).trans ((h.cat k).trans (append_cat p' q').symm)

theorem sequence {ps qs : List Pattern} (h : List.Forall₂ SameEnds ps qs) :
    SameEnds (sequence ps) (sequence qs) := by
  have further : ∀ {p q}, SameEnds p q →
      SameEnds (ps.foldl Pattern.append p) (qs.foldl Pattern.append q) := by
    induction h with
    | nil => exact id
    | cons first _ ih => exact fun start => ih (start.append first)
  exact further (.refl .empty)

end SameEnds

theorem Alike.sameEnds (h : p.Alike q) : SameEnds p q := by
  obtain ⟨R, fresh, sim⟩ := h.walks
  intro c
  exact (Step.Simulates.matchAt sim fresh c).places

/-! ### Repetitions -/

namespace SameEnds

theorem rep_bounded (h : SameEnds p q) (min max : Nat) (greedy : Bool) :
    SameEnds (rep min (some max) greedy p) (rep min (some max) greedy q) :=
  Step.SameEnds.andThen (Step.SameEnds.times h min) (Step.SameEnds.upTo h greedy (max - min))

theorem rep_unbounded (h : SameEnds p q) (hp : p.consumes = true) (hq : q.consumes = true)
    (min : Nat) (greedy : Bool) : SameEnds (rep min none greedy p) (rep min none greedy q) := by
  have first := p.renews_walk
  have second := q.renews_walk
  rw [hp] at first
  rw [hq] at second
  show Step.SameEnds (rep min none greedy p).walk (rep min none greedy q).walk
  simp only [walk, hp, hq, if_true]
  split
  · exact Step.SameEnds.star h first second greedy
  · exact (Step.SameEnds.times h _).andThen (Step.SameEnds.plus h first second greedy)

end SameEnds

end Pattern

end Ligature.Regex
