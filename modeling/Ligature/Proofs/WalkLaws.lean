import Ligature.Proofs.StepRules

/-!
# Laws of walks

A walk only moves forward, so that within one text the number of characters to come tells its ends
apart. Two patterns are alike when their walks end at the same places in the same order, whatever
marks they leave behind. Likeness is kept by every way to build a pattern, and a sequence may be
grouped in any way.
-/
namespace Ligature.Regex

/-! ### Moving forward -/

/-- A place is ahead of another if it is reached by consuming characters. -/
inductive Cursor.Ahead : Cursor → Cursor → Prop where
  | here (c) : Ahead c c
  | further {b x rest d} : Ahead ⟨some x, rest⟩ d → Ahead ⟨b, x :: rest⟩ d

namespace Cursor.Ahead

theorem trans {c d e : Cursor} (h : c.Ahead d) (k : d.Ahead e) : c.Ahead e := by
  induction h with
  | here => exact k
  | further _ ih => exact .further (ih k)

theorem left_le {c d : Cursor} (h : c.Ahead d) : d.left ≤ c.left := by
  induction h with
  | here => exact Nat.le_refl _
  | further _ ih =>
    simp only [Cursor.left, List.length_cons] at ih ⊢
    omega

theorem eq_of_left_eq {c d e : Cursor} (h : c.Ahead d) (k : c.Ahead e)
    (same : d.left = e.left) : d = e := by
  induction h with
  | here =>
    cases k with
    | here => rfl
    | further k =>
      have := k.left_le
      simp only [Cursor.left, List.length_cons] at this same
      omega
  | further h ih =>
    cases k with
    | here =>
      have := h.left_le
      simp only [Cursor.left, List.length_cons] at this same
      omega
    | further k => exact ih k same

end Cursor.Ahead

namespace Step

def Forward (a : Step) : Prop := ∀ m c, ∀ e ∈ a m c, c.Ahead e.1

theorem onward_ahead : Onward Cursor.Ahead := ⟨.here, .trans⟩

end Step

open Step in
theorem Pattern.forward_walk (p : Pattern) : p.walk.Forward := by
  induction p with
  | empty => exact onward_ahead.stay
  | set s =>
    intro m c e he
    obtain ⟨b, rest⟩ := c
    cases rest with
    | nil => cases he
    | cons x rest =>
      simp only [walk] at he
      split at he
      · obtain rfl := List.mem_singleton.mp he
        exact .further (.here _)
      · cases he
  | look l =>
    intro m c e he
    simp only [walk] at he
    split at he
    · obtain rfl := List.mem_singleton.mp he
      exact .here c
    · cases he
  | cat a b iha ihb => exact onward_ahead.andThen iha ihb
  | alt a b iha ihb => exact Leads.orElse iha ihb
  | capture body ih => exact ih
  | rep min max greedy body ih => exact onward_ahead.rep ih min max greedy

/-! ### Likeness -/

abbrev Ends.Match (R : Marks → Marks → Prop) : Ends → Ends → Prop :=
  List.Forall₂ fun e f => e.1 = f.1 ∧ R e.2 f.2

theorem Ends.Match.trans {R S : Marks → Marks → Prop} {a b c : Ends} (h : Ends.Match R a b)
    (k : Ends.Match S b c) : Ends.Match (fun l r => ∃ m, R l m ∧ S m r) a c := by
  induction h generalizing c with
  | nil =>
    cases k
    exact .nil
  | cons same _ ih =>
    cases k with
    | cons same' k => exact .cons ⟨same.1.trans same'.1, _, same.2, same'.2⟩ (ih k)

theorem Ends.Match.refl (a : Ends) : Ends.Match Eq a a :=
  List.forall₂_same.mpr fun _ _ => ⟨rfl, rfl⟩

namespace Step

def Simulates (R : Marks → Marks → Prop) (a b : Step) : Prop :=
  ∀ m n c, R m n → Ends.Match R (a m c) (b n c)

structure Sides (R S : Marks → Marks → Prop) (m n : Marks) : Prop where
  passed : m.passed = n.passed
  left : R m.left n.left
  right : S m.right n.right

variable {R S : Marks → Marks → Prop} {a b a' b' : Step}

theorem Sides.node {p : Option Nat} {l l' r r' : Marks} (hl : R l l') (hr : S r r') :
    Sides R S (.node p l r) (.node p l' r') :=
  ⟨rfl, hl, hr⟩

theorem Sides.bars {m n : Marks} (h : Sides R S m n) (c : Cursor) : m.bars c = n.bars c := by
  simp [Marks.bars, h.passed]

theorem Simulates.matchAt (ha : Simulates R a b) {m n : Marks} (h : R m n) (c : Cursor) :
    Ends.MatchAt (fun _ => R) (a m c) (b n c) :=
  ha m n c h

theorem Simulates.andThen (ha : Simulates R a a') (hb : Simulates S b b') :
    Simulates (Sides R S) (a.andThen b) (a'.andThen b') := by
  intro m n c h
  refine match_andThen (S := fun _ => Sides R S) (ha.matchAt h.left c) ?_
  intro d l r hr
  exact (hb.matchAt h.right d).imp fun _ _ _ hs => .node hr hs

theorem Simulates.orElse (ha : Simulates R a a') (hb : Simulates S b b') :
    Simulates (Sides R S) (a.orElse b) (a'.orElse b') := by
  intro m n c h
  refine match_orElse (R := fun _ => Sides R S) (h.bars c) ?_ ?_
  · exact (ha.matchAt h.left c).imp fun _ _ _ hr => .node hr h.right
  · exact (hb.matchAt h.right c).imp fun _ _ _ hs => .node h.left hs

abbrev Loop (R : Marks → Marks → Prop) : Marks → Marks → Prop := Sides R fun _ _ => True

theorem Simulates.loopRule (ha : Simulates R a a') :
    LoopRule (fun _ => Loop R) (fun _ => Loop R) a a' where
  bars h := h.bars _
  round := by
    intro c m n h
    exact (ha.matchAt h.left c).imp fun _ _ _ hr => .node hr trivial
  stop h := .node h.left trivial

theorem Simulates.star (ha : Simulates R a a') (greedy : Bool) :
    Simulates (Loop R) (Step.star a greedy) (Step.star a' greedy) := by
  intro m n c h
  exact ha.loopRule.star greedy h

theorem Simulates.plus (ha : Simulates R a a') (greedy : Bool) :
    Simulates (Loop R) (Step.plus a greedy) (Step.plus a' greedy) := by
  intro m n c h
  refine ha.loopRule.plus greedy ((ha.matchAt h.left c).imp ?_)
  intro d l r hr
  rw [h.passed]
  exact .node hr trivial

def Nested (R : Marks → Marks → Prop) : Nat → Marks → Marks → Prop
  | 0 => fun _ _ => True
  | n + 1 => Sides R (Nested R n)

theorem Simulates.rowRule (ha : Simulates R a a') (T : Marks → Marks → Prop) :
    RowRule (fun k w w' _ m n => Nested R k m n ∧ ∀ l r, Nested R k l r → T (w l) (w' r))
      (fun _ => T) a a' where
  bars h := Sides.bars h.1 _
  round := by
    rintro k w w' c m n ⟨h, outside⟩
    refine (ha.matchAt h.left c).imp fun d l r hr => ⟨h.right, ?_⟩
    intro l' r' rest
    exact outside _ _ (.node hr rest)
  stop h := h.2 _ _ (.node h.1.left h.1.right)
  last h := h.2 _ _ h.1

theorem Simulates.upTo (ha : Simulates R a a') (greedy : Bool) (k : Nat) :
    Simulates (Nested R k) (Step.upTo a greedy k) (Step.upTo a' greedy k) := by
  intro m n c h
  exact (ha.rowRule (Nested R k)).upTo greedy k ⟨h, fun _ _ same => same⟩

end Step

/-! ### The best ways -/

theorem Places.eq_of_contains {s t : Places} (h : ∀ n, s.contains n = t.contains n) : s = t := by
  obtain ⟨s⟩ := s
  obtain ⟨t⟩ := t
  exact congrArg Places.mk (Nat.eq_of_testBit_eq h)

namespace Ends

/-- Whether one of some ends stands at a place. -/
def Reaches (ends : Ends) (n : Nat) : Prop := ∃ e ∈ ends, e.1.left = n

def addTo (ends : Ends) (s : Places) : Places := ends.foldl (fun s e => s.insert e.1.left) s

theorem contains_addTo (ends : Ends) (s : Places) (n : Nat) :
    (ends.addTo s).contains n = true ↔ s.contains n = true ∨ ends.Reaches n := by
  induction ends generalizing s with
  | nil => simp [addTo, Reaches]
  | cons e rest ih =>
    have step : (addTo (e :: rest) s) = addTo rest (s.insert e.1.left) := rfl
    rw [step, ih]
    simp only [Places.contains_insert, Bool.or_eq_true, decide_eq_true_eq, Reaches,
      List.mem_cons, exists_eq_or_imp]
    rw [or_assoc, eq_comm (a := n) (b := e.1.left)]

theorem best_append (a b : Ends) (s : Places) :
    best (a ++ b) s = best a s ++ best b (a.addTo s) := by
  induction a generalizing s with
  | nil => rfl
  | cons e rest ih =>
    have step : (addTo (e :: rest) s) = addTo rest (s.insert e.1.left) := rfl
    rw [step, List.cons_append, best, best]
    split
    · rename_i seen
      have same : s.insert e.1.left = s := by
        apply Places.eq_of_contains
        intro n
        by_cases h : n = e.1.left
        · simp [h, seen]
        · simp [h]
      rw [ih, same]
    · rw [ih]
      rfl

theorem best_eq_nil {a : Ends} {s : Places} (h : ∀ n, a.Reaches n → s.contains n = true) :
    best a s = [] := by
  induction a with
  | nil => rfl
  | cons e rest ih =>
    rw [best, if_pos (h _ ⟨e, List.mem_cons_self, rfl⟩)]
    refine ih ?_
    rintro n ⟨x, hx, hn⟩
    exact h n ⟨x, List.mem_cons_of_mem _ hx, hn⟩

theorem addTo_eq_self {a : Ends} {s : Places} (h : ∀ n, a.Reaches n → s.contains n = true) :
    a.addTo s = s := by
  apply Places.eq_of_contains
  intro n
  rw [Bool.eq_iff_iff, contains_addTo]
  exact ⟨fun k => k.elim id (h n), .inl⟩

theorem best_best_append (a b : Ends) {t s : Places}
    (h : ∀ n, t.contains n = true → s.contains n = true) :
    best (best a t ++ b) s = best (a ++ b) s := by
  induction a generalizing t s with
  | nil => rfl
  | cons e rest ih =>
    rw [best]
    split
    · rename_i seen
      rw [List.cons_append, best, if_pos (h _ seen)]
      exact ih h
    · rw [List.cons_append, List.cons_append, best, best]
      split
      · rename_i seen
        refine ih fun n hn => ?_
        simp only [Places.contains_insert, Bool.or_eq_true, decide_eq_true_eq] at hn
        rcases hn with hn | rfl
        · exact h n hn
        · exact seen
      · congr 1
        refine ih fun n hn => ?_
        simp only [Places.contains_insert, Bool.or_eq_true, decide_eq_true_eq] at hn ⊢
        exact hn.imp (h n) id

/-- Going on from the best ways to each place is as good as going on from all of them, if how it
goes on depends on the place alone. -/
theorem best_flatMap_best {a : Ends} (f : Cursor × Marks → Ends) {t s : Places}
    (placed : ∀ e ∈ a, ∀ e' ∈ a, e.1.left = e'.1.left → ∀ n, (f e).Reaches n → (f e').Reaches n)
    (h : ∀ e ∈ a, t.contains e.1.left = true → ∀ n, (f e).Reaches n → s.contains n = true) :
    best ((best a t).flatMap f) s = best (a.flatMap f) s := by
  induction a generalizing t s with
  | nil => rfl
  | cons e rest ih =>
    have placed' : ∀ x ∈ rest, ∀ y ∈ rest, x.1.left = y.1.left →
        ∀ n, (f x).Reaches n → (f y).Reaches n :=
      fun x hx y hy => placed x (List.mem_cons_of_mem _ hx) y (List.mem_cons_of_mem _ hy)
    rw [best, List.flatMap_cons, best_append]
    split
    · rename_i seen
      have old := h e List.mem_cons_self seen
      rw [best_eq_nil old, addTo_eq_self old, List.nil_append]
      exact ih placed' fun x hx => h x (List.mem_cons_of_mem _ hx)
    · rw [List.flatMap_cons, best_append]
      congr 1
      refine ih placed' fun x hx hs n hn => ?_
      simp only [Places.contains_insert, Bool.or_eq_true, decide_eq_true_eq] at hs
      rw [contains_addTo]
      rcases hs with hs | hs
      · exact .inl (h x (List.mem_cons_of_mem _ hx) hs n hn)
      · exact .inr (placed x (List.mem_cons_of_mem _ hx) e List.mem_cons_self hs n hn)

theorem best_map (f : Marks → Marks) (a : Ends) (s : Places) :
    best (a.map fun e => (e.1, f e.2)) s = (best a s).map fun e => (e.1, f e.2) := by
  induction a generalizing s with
  | nil => rfl
  | cons e rest ih =>
    simp only [List.map_cons, best]
    split
    · exact ih s
    · rw [ih, List.map_cons]

theorem best_flatMap {α : Type} (l : List α) (f : α → Ends) (s : Places) :
    best (l.flatMap fun x => best (f x) .empty) s = best (l.flatMap f) s := by
  induction l generalizing s with
  | nil => rfl
  | cons x rest ih =>
    rw [List.flatMap_cons, List.flatMap_cons, best_best_append _ _ (by simp), best_append,
      best_append, ih]

end Ends

/-! ### Patterns that are alike -/

namespace Step

def Alike (a b : Step) : Prop := ∃ R : Marks → Marks → Prop, R .fresh .fresh ∧ Simulates R a b

theorem Alike.refl (a : Step) : a.Alike a := by
  refine ⟨Eq, rfl, ?_⟩
  rintro m _ c rfl
  exact .refl _

theorem Alike.symm {a b : Step} (h : a.Alike b) : b.Alike a := by
  obtain ⟨R, fresh, sim⟩ := h
  refine ⟨fun m n => R n m, fresh, fun m n c hmn => ?_⟩
  exact (sim n m c hmn).flip.imp fun _ _ h => ⟨h.1.symm, h.2⟩

theorem Alike.trans {a b c : Step} (h : a.Alike b) (k : b.Alike c) : a.Alike c := by
  obtain ⟨R, freshR, simR⟩ := h
  obtain ⟨S, freshS, simS⟩ := k
  refine ⟨fun l r => ∃ m, R l m ∧ S m r, ⟨.fresh, freshR, freshS⟩, ?_⟩
  rintro l r d ⟨m, hl, hr⟩
  exact Ends.Match.trans (simR l m d hl) (simS m r d hr)

def Regrouped (m n : Marks) : Prop :=
  m.left.left = n.left ∧ m.left.right = n.right.left ∧ m.right = n.right.right

theorem andThen_assoc {a b : Step} (ha : a.Forward) (hb : b.Forward) (c : Step) :
    ((a.andThen b).andThen c).Alike (a.andThen (b.andThen c)) := by
  refine ⟨Regrouped, ⟨rfl, rfl, rfl⟩, ?_⟩
  rintro m n d ⟨first, second, third⟩
  let second₁ : Cursor × Marks → Ends := fun x =>
    (b m.left.right x.1).map fun y => (y.1, .node none x.2 y.2)
  let third₁ : Cursor × Marks → Ends := fun x =>
    (c m.right x.1).map fun y => (y.1, .node none x.2 y.2)
  let third₂ : Cursor × Marks → Ends := fun y =>
    (c n.right.right y.1).map fun z => (z.1, .node none y.2 z.2)
  have ahead : ∀ e ∈ (a m.left.left d).flatMap second₁, d.Ahead e.1 := by
    intro e he
    obtain ⟨x, hx, hxe⟩ := List.mem_flatMap.mp he
    obtain ⟨y, hy, rfl⟩ := List.mem_map.mp hxe
    exact (ha _ _ x hx).trans (hb _ _ y hy)
  -- Only the place decides how the third step goes on, so what it starts from may be thinned out.
  have left : ((a.andThen b).andThen c) m d =
      Ends.best ((a m.left.left d).flatMap fun x => (second₁ x).flatMap third₁) .empty := by
    have thinned : ((a.andThen b).andThen c) m d =
        Ends.best ((Ends.best ((a m.left.left d).flatMap second₁) .empty).flatMap third₁) .empty :=
      rfl
    rw [thinned, Ends.best_flatMap_best, List.flatMap_assoc]
    · intro e he e' he' same k hk
      have placed := (ahead e he).eq_of_left_eq (ahead e' he') same
      obtain ⟨z, hz, hk⟩ := hk
      obtain ⟨y, hy, rfl⟩ := List.mem_map.mp hz
      exact ⟨_, List.mem_map.mpr ⟨y, placed ▸ hy, rfl⟩, hk⟩
    · intro e _ seen
      simp at seen
  have right : (a.andThen (b.andThen c)) n d =
      Ends.best ((a n.left d).flatMap fun x =>
        ((b n.right.left x.1).flatMap third₂).map fun z => (z.1, .node none x.2 z.2)) .empty := by
    rw [← Ends.best_flatMap]
    simp only [Ends.best_map]
    rfl
  rw [left, right, first]
  refine Ends.MatchAt.best (R := fun _ => Regrouped) ?_ _
  refine Ends.MatchAt.flatMap (R := fun _ => Eq) (Ends.Match.refl (a n.left d)) ?_
  rintro e l _ rfl
  rw [List.map_flatMap, List.flatMap_map]
  simp only [second]
  refine Ends.MatchAt.flatMap (R := fun _ => Eq) (Ends.Match.refl (b n.right.left e)) ?_
  rintro f r _ rfl
  simp only [third₁, third₂, third, List.map_map]
  refine Ends.MatchAt.map (S := fun _ => Regrouped) (f := fun s => .node none (.node none l r) s)
    (g := fun s => .node none l (.node none r s)) ?_
  exact (Ends.Match.refl (c n.right.right f)).imp fun _ _ same => ⟨same.1, rfl, rfl, same.2⟩

theorem Alike.andThen {a b a' b' : Step} (h : a.Alike a') (k : b.Alike b') :
    (a.andThen b).Alike (a'.andThen b') := by
  obtain ⟨R, freshR, simR⟩ := h
  obtain ⟨S, freshS, simS⟩ := k
  exact ⟨Sides R S, ⟨rfl, freshR, freshS⟩, simR.andThen simS⟩

theorem Alike.orElse {a b a' b' : Step} (h : a.Alike a') (k : b.Alike b') :
    (a.orElse b).Alike (a'.orElse b') := by
  obtain ⟨R, freshR, simR⟩ := h
  obtain ⟨S, freshS, simS⟩ := k
  exact ⟨Sides R S, ⟨rfl, freshR, freshS⟩, simR.orElse simS⟩

theorem Alike.times {a a' : Step} (h : a.Alike a') (n : Nat) : (a.times n).Alike (a'.times n) := by
  induction n with
  | zero => exact .refl _
  | succ n ih => exact ih.andThen h

theorem Alike.star {a a' : Step} (h : a.Alike a') (greedy : Bool) :
    (Step.star a greedy).Alike (Step.star a' greedy) := by
  obtain ⟨R, fresh, sim⟩ := h
  exact ⟨Loop R, ⟨rfl, fresh, trivial⟩, sim.star greedy⟩

theorem Alike.plus {a a' : Step} (h : a.Alike a') (greedy : Bool) :
    (Step.plus a greedy).Alike (Step.plus a' greedy) := by
  obtain ⟨R, fresh, sim⟩ := h
  exact ⟨Loop R, ⟨rfl, fresh, trivial⟩, sim.plus greedy⟩

theorem Alike.optional {a a' : Step} (h : a.Alike a') (greedy : Bool) :
    (Step.optional a greedy).Alike (Step.optional a' greedy) := by
  cases greedy
  · exact (Alike.refl stay).orElse h
  · exact h.orElse (.refl stay)

theorem Alike.upTo {a a' : Step} (h : a.Alike a') (greedy : Bool) (n : Nat) :
    (Step.upTo a greedy n).Alike (Step.upTo a' greedy n) := by
  obtain ⟨R, fresh, sim⟩ := h
  refine ⟨Nested R n, ?_, sim.upTo greedy n⟩
  induction n with
  | zero => trivial
  | succ n ih => exact ⟨rfl, fresh, ih⟩

end Step

namespace Pattern

/-- Two patterns that may stand for each other: their walks are alike, and so is what decides how
a sequence or a repetition of them is put together. -/
structure Alike (p q : Pattern) : Prop where
  empty : p = .empty ↔ q = .empty
  zeroWidth : p.zeroWidth = q.zeroWidth
  consumes : p.consumes = q.consumes
  walks : p.walk.Alike q.walk

variable {p q p' q' : Pattern}

theorem Alike.refl (p : Pattern) : p.Alike p := ⟨.rfl, rfl, rfl, .refl _⟩

theorem Alike.symm (h : p.Alike q) : q.Alike p :=
  ⟨h.empty.symm, h.zeroWidth.symm, h.consumes.symm, h.walks.symm⟩

theorem Alike.trans {r : Pattern} (h : p.Alike q) (k : q.Alike r) : p.Alike r :=
  ⟨h.empty.trans k.empty, h.zeroWidth.trans k.zeroWidth, h.consumes.trans k.consumes,
    h.walks.trans k.walks⟩

theorem Alike.matchEnd?_eq (h : p.Alike q) (c : Cursor) : p.matchEnd? c = q.matchEnd? c := by
  obtain ⟨R, fresh, sim⟩ := h.walks
  have ends := sim .fresh .fresh c fresh
  unfold matchEnd?
  cases hp : p.walk .fresh c with
  | nil =>
    rw [hp] at ends
    rw [List.forall₂_nil_left_iff.mp ends]
  | cons e rest =>
    rw [hp] at ends
    obtain ⟨f, rest', same, -, hq⟩ := List.forall₂_cons_left_iff.mp ends
    simp [hq, same.1]

theorem Alike.set {s t : CharSet} (h : ∀ c, s.mem c = t.mem c) :
    (Pattern.set s).Alike (Pattern.set t) := by
  refine ⟨by simp, rfl, rfl, ?_⟩
  have same : (Pattern.set s).walk = (Pattern.set t).walk := by
    funext m c
    simp only [walk, h]
  exact same ▸ .refl _

theorem Alike.cat (h : p.Alike p') (k : q.Alike q') : (cat p q).Alike (cat p' q') where
  empty := by simp
  zeroWidth := by simp [Pattern.zeroWidth, h.zeroWidth, k.zeroWidth]
  consumes := by simp [Pattern.consumes, h.consumes, k.consumes]
  walks := h.walks.andThen k.walks

theorem Alike.alt (h : p.Alike p') (k : q.Alike q') : (alt p q).Alike (alt p' q') where
  empty := by simp
  zeroWidth := by simp [Pattern.zeroWidth, h.zeroWidth, k.zeroWidth]
  consumes := by simp [Pattern.consumes, h.consumes, k.consumes]
  walks := h.walks.orElse k.walks

theorem Alike.rep (h : p.Alike p') (min : Nat) (max : Option Nat) (greedy : Bool) :
    (rep min max greedy p).Alike (rep min max greedy p') where
  empty := by simp
  zeroWidth := by simp [Pattern.zeroWidth, h.zeroWidth]
  consumes := by simp [Pattern.consumes, h.consumes]
  walks := by
    cases max with
    | none =>
      simp only [walk, h.consumes]
      split
      · split
        · exact h.walks.star greedy
        · exact (h.walks.plus greedy).optional greedy
      · exact (h.walks.times _).andThen (h.walks.plus greedy)
    | some max => exact (h.walks.times _).andThen (h.walks.upTo greedy _)

theorem Alike.repeated (h : p.Alike p') (min : Nat) (max : Option Nat) (greedy : Bool) :
    (repeated min max greedy p).Alike (repeated min max greedy p') := by
  simp only [Pattern.repeated, h.zeroWidth]
  generalize (if p'.zeroWidth = true then (Nat.min min 1, some (Nat.min (max.getD 1) 1))
    else (min, max)) = bounds
  split
  · exact .refl _
  · split
    · exact h
    · exact h.rep ..

theorem Alike.choice {ps qs : List Pattern} (h : List.Forall₂ Alike ps qs) :
    (choice ps).Alike (choice qs) := by
  induction h with
  | nil => exact .refl _
  | cons first rest ih =>
    cases rest with
    | nil => exact first
    | cons => exact first.alt ih

/-! ### Sequences -/

@[simp] theorem empty_append (p : Pattern) : append .empty p = p := by cases p <;> rfl

@[simp] theorem append_empty (p : Pattern) : append p .empty = p := by cases p <;> rfl

theorem append_of_ne (hp : p ≠ .empty) (hq : q ≠ .empty) : append p q = cat p q := by
  cases p <;> cases q <;> first | rfl | contradiction

theorem Alike.append (h : p.Alike p') (k : q.Alike q') :
    (append p q).Alike (append p' q') := by
  by_cases hp : p = .empty
  · rw [hp, h.empty.mp hp, empty_append, empty_append]
    exact k
  by_cases hq : q = .empty
  · rw [hq, k.empty.mp hq, append_empty, append_empty]
    exact h
  rw [append_of_ne hp hq, append_of_ne (mt h.empty.mpr hp) (mt k.empty.mpr hq)]
  exact h.cat k

theorem cat_assoc (p q r : Pattern) : (cat (cat p q) r).Alike (cat p (cat q r)) where
  empty := by simp
  zeroWidth := Bool.and_assoc ..
  consumes := Bool.or_assoc ..
  walks := Step.andThen_assoc p.forward_walk q.forward_walk r.walk

theorem append_assoc (p q r : Pattern) :
    (append (append p q) r).Alike (append p (append q r)) := by
  by_cases hp : p = .empty
  · rw [hp, empty_append, empty_append]
    exact .refl _
  by_cases hq : q = .empty
  · rw [hq, append_empty, empty_append]
    exact .refl _
  by_cases hr : r = .empty
  · rw [hr, append_empty, append_empty]
    exact .refl _
  rw [append_of_ne hp hq, append_of_ne hq hr, append_of_ne (by simp) hr,
    append_of_ne hp (by simp)]
  exact cat_assoc p q r

theorem foldl_append_alike (p : Pattern) (ps : List Pattern) :
    (ps.foldl append p).Alike (append p (sequence ps)) := by
  induction ps generalizing p with
  | nil => simpa [sequence] using Alike.refl p
  | cons q rest ih =>
    have tail : (append q (sequence rest)).Alike (sequence (q :: rest)) := by
      simp only [sequence, List.foldl_cons, empty_append]
      exact (ih q).symm
    rw [List.foldl_cons]
    exact ((ih _).trans (append_assoc p q _)).trans ((Alike.refl p).append tail)

theorem sequence_append (ps qs : List Pattern) :
    (sequence (ps ++ qs)).Alike (append (sequence ps) (sequence qs)) := by
  rw [sequence, List.foldl_append]
  exact foldl_append_alike _ _

@[simp] theorem sequence_singleton (p : Pattern) : sequence [p] = p := by
  simp [sequence]

theorem sequence_flatten {pss : List (List Pattern)} {qs : List Pattern}
    (h : List.Forall₂ (fun ps q => (sequence ps).Alike q) pss qs) :
    (sequence pss.flatten).Alike (sequence qs) := by
  induction h with
  | nil => exact .refl _
  | @cons ps q pss qs first _ ih =>
    rw [List.flatten_cons]
    have split := sequence_append [q] qs
    rw [sequence_singleton] at split
    exact ((sequence_append ps _).trans (first.append ih)).trans split.symm

end Pattern

end Ligature.Regex
