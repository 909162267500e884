import Mathlib.Data.List.Forall2
import Ligature.Regex.Match

/-!
# Rules for steps

What two runs of steps have in common, from what the steps have in common that they are built of:
their ends are at the same places in the same order, and at each place the marks of the two are
related. There is one rule for each way to build a step; for a loop it takes a relation that every
round keeps. The rules for what holds of all ends of a single run follow from them.
-/
namespace Ligature.Regex

/-! ### Ends that match -/

/-- Ends at the same places in the same order, with marks that are related at each place. -/
abbrev Ends.MatchAt (R : Cursor → Marks → Marks → Prop) : Ends → Ends → Prop :=
  List.Forall₂ fun e f => e.1 = f.1 ∧ R e.1 e.2 f.2

theorem Ends.mem_of_mem_best {ends : Ends} {seen : Places} {e : Cursor × Marks}
    (h : e ∈ ends.best seen) : e ∈ ends := by
  induction ends generalizing seen with
  | nil => exact h
  | cons x rest ih =>
    simp only [Ends.best] at h
    split at h
    · exact List.mem_cons_of_mem _ (ih h)
    · rcases List.mem_cons.mp h with rfl | h
      · exact List.mem_cons_self
      · exact List.mem_cons_of_mem _ (ih h)

namespace Ends.MatchAt

variable {R S : Cursor → Marks → Marks → Prop} {a b : Ends}

theorem imp (h : MatchAt R a b) (weaker : ∀ c l r, R c l r → S c l r) : MatchAt S a b :=
  List.Forall₂.imp (fun e f same => ⟨same.1, weaker e.1 e.2 f.2 same.2⟩) h

theorem and_left (h : MatchAt R a b) {P : Cursor → Marks → Prop} (each : ∀ e ∈ a, P e.1 e.2) :
    MatchAt (fun c l r => R c l r ∧ P c l) a b := by
  induction h with
  | nil => exact .nil
  | cons same _ ih =>
    obtain ⟨first, rest⟩ := List.forall_mem_cons.mp each
    exact .cons ⟨same.1, same.2, first⟩ (ih rest)

theorem and_right (h : MatchAt R a b) {P : Cursor → Marks → Prop} (each : ∀ e ∈ b, P e.1 e.2) :
    MatchAt (fun c l r => R c l r ∧ P c r) a b := by
  induction h with
  | nil => exact .nil
  | cons same _ ih =>
    obtain ⟨first, rest⟩ := List.forall_mem_cons.mp each
    exact .cons ⟨same.1, same.2, same.1 ▸ first⟩ (ih rest)

theorem forall_left (h : MatchAt R a b) {P : Cursor × Marks → Prop}
    (each : ∀ c l r, R c l r → P (c, l)) : ∀ e ∈ a, P e := by
  induction h with
  | nil => simp
  | @cons e f _ _ same _ ih => exact List.forall_mem_cons.mpr ⟨each e.1 e.2 f.2 same.2, ih⟩

theorem places (h : MatchAt R a b) : a.map (·.1) = b.map (·.1) := by
  induction h with
  | nil => rfl
  | cons same _ ih => simp [same.1, ih]

theorem of_places (h : a.map (·.1) = b.map (·.1)) : MatchAt (fun _ _ _ => True) a b := by
  rw [← List.forall₂_eq_eq_eq, List.forall₂_map_left_iff, List.forall₂_map_right_iff] at h
  exact h.imp fun _ _ same => ⟨same, trivial⟩

theorem of_forall {P : Cursor × Marks → Prop} (each : ∀ e ∈ a, P e) :
    MatchAt (fun c l r => l = r ∧ P (c, l)) a a :=
  List.forall₂_same.mpr fun e he => ⟨rfl, rfl, each e he⟩

theorem best (h : MatchAt R a b) (seen : Places) : MatchAt R (a.best seen) (b.best seen) := by
  induction h generalizing seen with
  | nil => exact .nil
  | @cons e f _ _ same _ ih =>
    obtain ⟨e, l⟩ := e
    obtain ⟨f, r⟩ := f
    obtain ⟨rfl, hr⟩ := same
    simp only [Ends.best]
    split
    · exact ih seen
    · exact .cons ⟨rfl, hr⟩ (ih _)

theorem foldl (h : MatchAt R a b) {σ : Type} (T : σ → σ → Prop) {f g : σ → Cursor × Marks → σ}
    (step : ∀ x y c l r, T x y → R c l r → T (f x (c, l)) (g y (c, r))) {x y : σ}
    (start : T x y) : T (a.foldl f x) (b.foldl g y) := by
  induction h generalizing x y with
  | nil => exact start
  | @cons e e' _ _ same _ ih =>
    obtain ⟨e, l⟩ := e
    obtain ⟨e', r⟩ := e'
    obtain ⟨rfl, hr⟩ := same
    exact ih (step x y e l r start hr)

theorem flatMap (h : MatchAt R a b) {f g : Cursor × Marks → Ends}
    (each : ∀ c l r, R c l r → MatchAt S (f (c, l)) (g (c, r))) :
    MatchAt S (a.flatMap f) (b.flatMap g) := by
  induction h with
  | nil => exact .nil
  | @cons e e' _ _ same _ ih =>
    obtain ⟨e, l⟩ := e
    obtain ⟨e', r⟩ := e'
    obtain ⟨rfl, hr⟩ := same
    exact List.rel_append (each e l r hr) ih

theorem map {f g : Marks → Marks} (h : MatchAt (fun c l r => S c (f l) (g r)) a b) :
    MatchAt S (a.map fun e => (e.1, f e.2)) (b.map fun e => (e.1, g e.2)) := by
  induction h with
  | nil => exact .nil
  | cons same _ ih => exact .cons same ih

end Ends.MatchAt

open Ends (MatchAt)

namespace Step

variable {a b a' b' : Step} {m n : Marks} {c : Cursor}

/-! ### Two runs -/

theorem match_andThen {R S : Cursor → Marks → Marks → Prop}
    (first : MatchAt R (a m.left c) (a' n.left c))
    (second : ∀ d l r, R d l r →
      MatchAt (fun e l' r' => S e (.node none l l') (.node none r r')) (b m.right d)
        (b' n.right d)) :
    MatchAt S (a.andThen b m c) (a'.andThen b' n c) := by
  refine MatchAt.best (first.flatMap ?_) _
  intro d l r hr
  exact (second d l r hr).map

theorem match_orElse {R : Cursor → Marks → Marks → Prop} (bars : m.bars c = n.bars c)
    (first : MatchAt (fun d l r => R d (.node (some c.left) l m.right)
      (.node (some c.left) r n.right)) (a m.left c) (a' n.left c))
    (second : MatchAt (fun d l r => R d (.node (some c.left) m.left l)
      (.node (some c.left) n.left r)) (b m.right c) (b' n.right c)) :
    MatchAt R (a.orElse b m c) (a'.orElse b' n c) := by
  simp only [orElse, bars]
  split
  · exact .nil
  · refine MatchAt.best (List.rel_append ?_ ?_) _
    · exact first.map (f := fun l => .node (some c.left) l m.right)
        (g := fun l => .node (some c.left) l n.right)
    · exact second.map (f := fun r => .node (some c.left) m.left r)
        (g := fun r => .node (some c.left) n.left r)

/-- What relates two loops: a relation `J` between the marks with which they stand between two
rounds, kept by each round, under which they may stop with marks that `K` relates. -/
structure LoopRule (J K : Cursor → Marks → Marks → Prop) (a a' : Step) : Prop where
  bars : ∀ {c m n}, J c m n → m.bars c = n.bars c
  round : ∀ {c m n}, J c m n → MatchAt (fun d l r =>
    J d (.node (some c.left) l .fresh) (.node (some c.left) r .fresh)) (a m.left c) (a' n.left c)
  stop : ∀ {c m n}, J c m n →
    K c (.node (some c.left) m.left .fresh) (.node (some c.left) n.left .fresh)

section Loops

variable {J K : Cursor → Marks → Marks → Prop}

def Rounds.MatchAt (K : Cursor → Marks → Marks → Prop) (x y : Rounds) : Prop :=
  x.stood = y.stood ∧ Ends.MatchAt K x.ends y.ends

theorem LoopRule.between (rule : LoopRule J K a a') (greedy : Bool) (fuel : Nat) {x y : Rounds}
    (found : x.MatchAt K y) (h : J c m n) :
    (Step.between a greedy fuel x m c).MatchAt K (Step.between a' greedy fuel y n c) := by
  induction fuel generalizing x y m n c with
  | zero => exact found
  | succ fuel ih =>
    obtain ⟨stood, ends⟩ := x
    obtain ⟨_, ends'⟩ := y
    obtain ⟨rfl, found⟩ := found
    simp only [Step.between, rule.bars h]
    split
    · exact ⟨rfl, found⟩
    · have go : ∀ {x y : Rounds}, x.MatchAt K y → Rounds.MatchAt K
          ((a m.left c).foldl (fun found e =>
            Step.between a greedy fuel found (.node (some c.left) e.2 .fresh) e.1) x)
          ((a' n.left c).foldl (fun found e =>
            Step.between a' greedy fuel found (.node (some c.left) e.2 .fresh) e.1) y) := by
        intro x y found
        exact (rule.round h).foldl (Rounds.MatchAt K) (fun _ _ _ _ _ found hr => ih found hr) found
      have stop : ∀ {x y : Rounds}, x.MatchAt K y → Rounds.MatchAt K
          { x with ends := (c, .node (some c.left) m.left .fresh) :: x.ends }
          { y with ends := (c, .node (some c.left) n.left .fresh) :: y.ends } := by
        intro x y found
        exact ⟨found.1, .cons ⟨rfl, rule.stop h⟩ found.2⟩
      split
      · exact stop (go (x := ⟨stood.insert c.left, ends⟩) ⟨rfl, found⟩)
      · exact go (stop (x := ⟨stood.insert c.left, ends⟩) (y := ⟨stood.insert c.left, ends'⟩)
          ⟨rfl, found⟩)

theorem LoopRule.star (rule : LoopRule J K a a') (greedy : Bool) (h : J c m n) :
    MatchAt K (Step.star a greedy m c) (Step.star a' greedy n c) := by
  have found := rule.between greedy (c.left + 1) (x := ⟨.empty, []⟩) ⟨rfl, .nil⟩ h
  exact List.rel_reverse found.2

/-- The first of several rounds leaves the mark of the loop as it was. -/
theorem LoopRule.plus (rule : LoopRule J K a a') (greedy : Bool)
    (first : MatchAt (fun d l r => J d (.node m.passed l .fresh) (.node n.passed r .fresh))
      (a m.left c) (a' n.left c)) :
    MatchAt K (Step.plus a greedy m c) (Step.plus a' greedy n c) := by
  apply List.rel_reverse
  exact (first.foldl (Rounds.MatchAt K)
    (fun _ _ d _ _ found hr => rule.between greedy (d.left + 1) found hr)
    (x := ⟨.empty, []⟩) (y := ⟨.empty, []⟩) ⟨rfl, .nil⟩).2

end Loops

/-- What relates two rows of optional rounds, of which each is within the one before: a relation
between what is put around the marks of the rounds to come, and the marks of these rounds. -/
structure RowRule
    (J : Nat → (Marks → Marks) → (Marks → Marks) → Cursor → Marks → Marks → Prop)
    (K : Cursor → Marks → Marks → Prop) (a a' : Step) : Prop where
  bars : ∀ {k w w' c m n}, J (k + 1) w w' c m n → m.bars c = n.bars c
  round : ∀ {k w w' c m n}, J (k + 1) w w' c m n → MatchAt (fun d l r =>
    J k (fun x => w (.node (some c.left) l x)) (fun x => w' (.node (some c.left) r x)) d m.right
      n.right) (a m.left c) (a' n.left c)
  stop : ∀ {k w w' c m n}, J (k + 1) w w' c m n →
    K c (w (.node (some c.left) m.left m.right)) (w' (.node (some c.left) n.left n.right))
  last : ∀ {w w' c m n}, J 0 w w' c m n → K c (w m) (w' n)

section Rows

variable {J : Nat → (Marks → Marks) → (Marks → Marks) → Cursor → Marks → Marks → Prop}
  {K : Cursor → Marks → Marks → Prop}

def RowsMatchAt (K : Cursor → Marks → Marks → Prop) (x y : List Places × Ends) : Prop :=
  x.1 = y.1 ∧ Ends.MatchAt K x.2 y.2

theorem RowRule.before (rule : RowRule J K a a') (greedy : Bool) (k : Nat)
    {x y : List Places × Ends} (found : RowsMatchAt K x y) {w w' : Marks → Marks}
    (h : J k w w' c m n) :
    RowsMatchAt K (Step.before a greedy k x w m c) (Step.before a' greedy k y w' n c) := by
  induction k generalizing x y w w' m n c with
  | zero => exact ⟨found.1, .cons ⟨rfl, rule.last h⟩ found.2⟩
  | succ k ih =>
    obtain ⟨stood, ends⟩ := x
    obtain ⟨_, ends'⟩ := y
    obtain ⟨rfl, found⟩ := found
    simp only [Step.before, rule.bars h]
    split
    · exact ⟨rfl, found⟩
    · have go : ∀ {x y : List Places × Ends}, RowsMatchAt K x y → RowsMatchAt K
          ((a m.left c).foldl (fun found e => Step.before a greedy k found
            (fun r => w (.node (some c.left) e.2 r)) m.right e.1) x)
          ((a' n.left c).foldl (fun found e => Step.before a' greedy k found
            (fun r => w' (.node (some c.left) e.2 r)) n.right e.1) y) := by
        intro x y found
        exact (rule.round h).foldl (RowsMatchAt K) (fun _ _ _ _ _ found hr => ih found hr) found
      have here := rule.stop h
      split
      · have later := go (x := (stood.tail, ends)) (y := (stood.tail, ends')) ⟨rfl, found⟩
        exact ⟨congrArg (_ :: ·) later.1, .cons ⟨rfl, here⟩ later.2⟩
      · have stopped : RowsMatchAt K
            (stood.tail, (c, w (.node (some c.left) m.left m.right)) :: ends)
            (stood.tail, (c, w' (.node (some c.left) n.left n.right)) :: ends') :=
          ⟨rfl, .cons ⟨rfl, here⟩ found⟩
        exact ⟨congrArg (_ :: ·) (go stopped).1, (go stopped).2⟩

theorem RowRule.upTo (rule : RowRule J K a a') (greedy : Bool) (k : Nat) (h : J k id id c m n) :
    MatchAt K (Step.upTo a greedy k m c) (Step.upTo a' greedy k n c) := by
  refine MatchAt.best (List.rel_reverse ?_) _
  exact (rule.before greedy k (x := ([], [])) (y := ([], [])) ⟨rfl, .nil⟩ h).2

end Rows

/-! ### One run -/

section

variable {P : Cursor → Marks → Prop} {Q : Cursor × Marks → Prop}

theorem forall_andThen (each : ∀ d ∈ a m.left c, ∀ e ∈ b m.right d.1, Q (e.1, .node none d.2 e.2)) :
    ∀ e ∈ a.andThen b m c, Q e := by
  intro e he
  obtain ⟨d, hd, hde⟩ := List.mem_flatMap.mp (Ends.mem_of_mem_best he)
  obtain ⟨f, hf, rfl⟩ := List.mem_map.mp hde
  exact each d hd f hf

theorem forall_orElse (first : ∀ e ∈ a m.left c, Q (e.1, .node (some c.left) e.2 m.right))
    (second : ∀ e ∈ b m.right c, Q (e.1, .node (some c.left) m.left e.2)) :
    ∀ e ∈ a.orElse b m c, Q e := by
  intro e he
  simp only [Step.orElse] at he
  split at he
  · cases he
  · rcases List.mem_append.mp (Ends.mem_of_mem_best he) with he | he
    · obtain ⟨d, hd, rfl⟩ := List.mem_map.mp he
      exact first d hd
    · obtain ⟨d, hd, rfl⟩ := List.mem_map.mp he
      exact second d hd

theorem loopRule_self
    (round : ∀ {c m}, P c m → ∀ e ∈ a m.left c, P e.1 (.node (some c.left) e.2 .fresh))
    (stop : ∀ {c m}, P c m → Q (c, .node (some c.left) m.left .fresh)) :
    LoopRule (fun c m n => m = n ∧ P c m) (fun c l r => l = r ∧ Q (c, l)) a a where
  bars := by
    rintro c m _ ⟨rfl, -⟩
    rfl
  round := by
    rintro c m _ ⟨rfl, h⟩
    refine (MatchAt.of_forall (round h)).imp fun d l r => ?_
    rintro ⟨rfl, kept⟩
    exact ⟨rfl, kept⟩
  stop := by
    rintro c m _ ⟨rfl, h⟩
    exact ⟨rfl, stop h⟩

/-- What holds of every end of a loop: it holds where the loop may stop, under a condition that
each round keeps. -/
theorem forall_star
    (round : ∀ {c m}, P c m → ∀ e ∈ a m.left c, P e.1 (.node (some c.left) e.2 .fresh))
    (stop : ∀ {c m}, P c m → Q (c, .node (some c.left) m.left .fresh)) (greedy : Bool)
    (h : P c m) : ∀ e ∈ star a greedy m c, Q e := by
  have same := (loopRule_self round stop).star greedy ⟨rfl, h⟩
  exact same.forall_left fun _ _ _ => And.right

theorem forall_plus
    (round : ∀ {c m}, P c m → ∀ e ∈ a m.left c, P e.1 (.node (some c.left) e.2 .fresh))
    (stop : ∀ {c m}, P c m → Q (c, .node (some c.left) m.left .fresh)) (greedy : Bool)
    (first : ∀ e ∈ a m.left c, P e.1 (.node m.passed e.2 .fresh)) :
    ∀ e ∈ plus a greedy m c, Q e := by
  have same := (loopRule_self round stop).plus greedy <| (MatchAt.of_forall first).imp <| by
    rintro d l _ ⟨rfl, kept⟩
    exact ⟨rfl, kept⟩
  exact same.forall_left fun _ _ _ => And.right

theorem forall_upTo {P : Nat → (Marks → Marks) → Cursor → Marks → Prop}
    (round : ∀ {k w c m}, P (k + 1) w c m → ∀ e ∈ a m.left c,
      P k (fun x => w (.node (some c.left) e.2 x)) e.1 m.right)
    (stop : ∀ {k w c m}, P (k + 1) w c m → Q (c, w (.node (some c.left) m.left m.right)))
    (last : ∀ {w c m}, P 0 w c m → Q (c, w m)) (greedy : Bool) (k : Nat) (h : P k id c m) :
    ∀ e ∈ upTo a greedy k m c, Q e := by
  have rule : RowRule (fun k w w' c m n => w = w' ∧ m = n ∧ P k w c m)
      (fun c l r => l = r ∧ Q (c, l)) a a :=
    { bars := by
        rintro k w _ c m _ ⟨rfl, rfl, -⟩
        rfl
      round := by
        rintro k w _ c m _ ⟨rfl, rfl, h⟩
        refine (MatchAt.of_forall (round h)).imp fun d l r => ?_
        rintro ⟨rfl, kept⟩
        exact ⟨rfl, rfl, kept⟩
      stop := by
        rintro k w _ c m _ ⟨rfl, rfl, h⟩
        exact ⟨rfl, stop h⟩
      last := by
        rintro w _ c m _ ⟨rfl, rfl, h⟩
        exact ⟨rfl, last h⟩ }
  exact (rule.upTo greedy k ⟨rfl, rfl, h⟩).forall_left fun _ _ _ => And.right

end

/-! ### Where steps lead -/

def Leads (rel : Cursor → Cursor → Prop) (a : Step) : Prop := ∀ m c, ∀ e ∈ a m c, rel c e.1

structure Onward (rel : Cursor → Cursor → Prop) : Prop where
  here : ∀ c, rel c c
  trans : ∀ {c d e}, rel c d → rel d e → rel c e

variable {rel : Cursor → Cursor → Prop}

theorem Onward.stay (h : Onward rel) : stay.Leads rel := by
  intro m c e he
  obtain rfl := List.mem_singleton.mp he
  exact h.here c

theorem Onward.andThen (h : Onward rel) (ha : a.Leads rel) (hb : b.Leads rel) :
    (a.andThen b).Leads rel := by
  intro m c
  refine forall_andThen ?_
  intro d hd e he
  exact h.trans (ha m.left c d hd) (hb m.right d.1 e he)

theorem Leads.orElse (ha : a.Leads rel) (hb : b.Leads rel) : (a.orElse b).Leads rel := by
  intro m c
  exact forall_orElse (ha m.left c) (hb m.right c)

theorem Onward.times (h : Onward rel) (ha : a.Leads rel) (k : Nat) : (a.times k).Leads rel := by
  induction k with
  | zero => exact h.stay
  | succ k ih => exact h.andThen ih ha

theorem Onward.star (h : Onward rel) (ha : a.Leads rel) (greedy : Bool) :
    (star a greedy).Leads rel := by
  intro m c
  refine forall_star (P := fun d _ => rel c d) ?_ id greedy (h.here c)
  intro d n here e he
  exact h.trans here (ha n.left d e he)

theorem Onward.plus (h : Onward rel) (ha : a.Leads rel) (greedy : Bool) :
    (plus a greedy).Leads rel := by
  intro m c
  refine forall_plus (P := fun d _ => rel c d) ?_ id greedy (ha m.left c)
  intro d n here e he
  exact h.trans here (ha n.left d e he)

theorem Onward.optional (h : Onward rel) (ha : a.Leads rel) (greedy : Bool) :
    (optional a greedy).Leads rel := by
  cases greedy
  · exact h.stay.orElse ha
  · exact ha.orElse h.stay

theorem Onward.upTo (h : Onward rel) (ha : a.Leads rel) (greedy : Bool) (k : Nat) :
    (upTo a greedy k).Leads rel := by
  intro m c
  refine forall_upTo (P := fun _ _ d _ => rel c d) ?_ id id greedy k (h.here c)
  intro _ _ d n here e he
  exact h.trans here (ha n.left d e he)

theorem Onward.rep (h : Onward rel) {body : Pattern} (ha : body.walk.Leads rel) (min : Nat)
    (max : Option Nat) (greedy : Bool) : (Pattern.rep min max greedy body).walk.Leads rel := by
  cases max with
  | none =>
    simp only [Pattern.walk]
    split
    · split
      · exact h.star ha greedy
      · exact h.optional (h.plus ha greedy) greedy
    · exact h.andThen (h.times ha _) (h.plus ha greedy)
  | some max => exact h.andThen (h.times ha _) (h.upTo ha greedy _)

end Step

end Ligature.Regex
