import Ligature.Proofs.WalkLaws

/-!
# Laws of matches

Where the best match of a pattern ends, by the shape of the pattern: a choice takes the first
pattern that matches, a text matches itself, and a pattern anchored at the start of the text is
found there or nowhere.
-/
namespace Ligature.Regex

def Cursor.past? (c : Cursor) : List Char → Option Cursor
  | [] => some c
  | t :: text => match c.rest with
    | [] => none
    | x :: rest => if t = x then past? ⟨some x, rest⟩ text else none

theorem Cursor.past?_eq_some {c d : Cursor} {text : List Char} (h : c.past? text = some d) :
    c.rest = text ++ d.rest := by
  induction text generalizing c with
  | nil =>
    cases h
    rfl
  | cons t text ih =>
    obtain ⟨before, _ | ⟨x, rest⟩⟩ := c
    · cases h
    · simp only [past?] at h
      split at h
      · rename_i same
        rw [same, List.cons_append, ← ih h]
      · cases h

theorem Cursor.isSome_past? {c : Cursor} {text : List Char} :
    (c.past? text).isSome = true ↔ text <+: c.rest := by
  induction text generalizing c with
  | nil => simp [past?]
  | cons t text ih =>
    obtain ⟨before, _ | ⟨x, rest⟩⟩ := c
    · simp [past?]
    · simp only [past?, List.cons_prefix_cons]
      by_cases same : t = x
      · simp [same, ih]
      · simp [same]

theorem Ends.head?_best (ends : Ends) : (ends.best .empty).head? = ends.head? := by
  cases ends with
  | nil => rfl
  | cons e rest => simp [best]

theorem CharSet.mem_ofList (cs : List Char) (c : Char) :
    (CharSet.ofList cs).mem c = decide (c ∈ cs) := by
  induction cs with
  | nil => rfl
  | cons d cs ih =>
    have step : CharSet.ofList (d :: cs) = .union (.single d) (.ofList cs) := rfl
    rw [step, mem, mem_single, ih]
    simp [eq_comm (a := d)]

namespace Pattern

@[simp] theorem matchEnd?_empty (c : Cursor) : empty.matchEnd? c = some c := rfl

@[simp] theorem matchEnd?_set (s : CharSet) (before : Option Char) (x : Char) (rest : List Char) :
    (set s).matchEnd? ⟨before, x :: rest⟩ = if s.mem x then some ⟨some x, rest⟩ else none := by
  simp only [matchEnd?, walk]
  split <;> rfl

@[simp] theorem matchEnd?_set_nil (s : CharSet) (before : Option Char) :
    (set s).matchEnd? ⟨before, []⟩ = none := rfl

theorem matchEnd?_alt (p q : Pattern) (c : Cursor) :
    (alt p q).matchEnd? c = (p.matchEnd? c).or (q.matchEnd? c) := by
  have fresh : Marks.bars .fresh c = false := rfl
  simp only [matchEnd?, walk, Step.orElse, fresh, Bool.false_eq_true, if_false, Marks.left,
    Marks.right, Ends.head?_best, List.head?_append, List.head?_map]
  cases (p.walk .fresh c).head? <;> cases (q.walk .fresh c).head? <;> rfl

theorem matchEnd?_choice (ps : List Pattern) (c : Cursor) :
    (choice ps).matchEnd? c = ps.findSome? (·.matchEnd? c) := by
  induction ps with
  | nil =>
    obtain ⟨before, _ | ⟨x, rest⟩⟩ := c <;> rfl
  | cons p ps ih =>
    cases ps with
    | nil => cases h : p.matchEnd? c <;> simp [choice, h]
    | cons q ps =>
      have step : choice (p :: q :: ps) = .alt p (choice (q :: ps)) := rfl
      rw [step, matchEnd?_alt, ih, List.findSome?_cons (a := p)]
      cases p.matchEnd? c <;> rfl

theorem matchEnd?_choice_flatMap {α : Type} (xs : List α) (ps : α → List Pattern) (c : Cursor) :
    (choice (xs.flatMap ps)).matchEnd? c = xs.findSome? fun x => (choice (ps x)).matchEnd? c := by
  simp only [matchEnd?_choice]
  induction xs with
  | nil => rfl
  | cons x xs ih =>
    rw [List.flatMap_cons, List.findSome?_append, ih, List.findSome?_cons]
    cases (ps x).findSome? (·.matchEnd? c) <;> rfl

theorem matchEnd?_cat_of_walk {p : Pattern} {c d : Cursor} {m : Marks}
    (single : p.walk .fresh c = [(d, m)]) (q : Pattern) :
    (cat p q).matchEnd? c = q.matchEnd? d := by
  simp [matchEnd?, walk, Step.andThen, Marks.left, Marks.right, single, Ends.head?_best,
    Function.comp_def]

theorem matchEnd?_cat_of_stuck {p : Pattern} {c : Cursor} (stuck : p.walk .fresh c = [])
    (q : Pattern) : (cat p q).matchEnd? c = none := by
  simp [matchEnd?, walk, Step.andThen, Marks.left, stuck, Ends.best]

theorem matchEnd?_append_look (l : Look) (p : Pattern) (c : Cursor) :
    (append (look l) p).matchEnd? c = if l.holds c then p.matchEnd? c else none := by
  by_cases blank : p = .empty
  · subst blank
    rw [append_empty]
    simp only [matchEnd?, walk]
    split <;> rfl
  · rw [append_of_ne (by simp) blank]
    split
    · rename_i holds
      have here : (look l).walk .fresh c = [(c, .fresh)] := by simp [walk, holds]
      exact matchEnd?_cat_of_walk here p
    · rename_i fails
      have stuck : (look l).walk .fresh c = [] := by simp [walk, fails]
      exact matchEnd?_cat_of_stuck stuck p

theorem matchEnd?_append_set (s : CharSet) (p : Pattern) (before : Option Char) (x : Char)
    (rest : List Char) : (append (set s) p).matchEnd? ⟨before, x :: rest⟩ =
      if s.mem x then p.matchEnd? ⟨some x, rest⟩ else none := by
  by_cases blank : p = .empty
  · subst blank
    rw [append_empty, matchEnd?_set, matchEnd?_empty]
  · rw [append_of_ne (by simp) blank]
    split
    · rename_i mem
      have here : (set s).walk .fresh ⟨before, x :: rest⟩ = [(⟨some x, rest⟩, .fresh)] := by
        simp [walk, mem]
      exact matchEnd?_cat_of_walk here p
    · rename_i miss
      have stuck : (set s).walk .fresh ⟨before, x :: rest⟩ = [] := by simp [walk, miss]
      exact matchEnd?_cat_of_stuck stuck p

theorem matchEnd?_append_set_nil (s : CharSet) (p : Pattern) (before : Option Char) :
    (append (set s) p).matchEnd? ⟨before, []⟩ = none := by
  by_cases blank : p = .empty
  · subst blank
    rw [append_empty, matchEnd?_set_nil]
  · rw [append_of_ne (by simp) blank]
    exact matchEnd?_cat_of_stuck rfl p

theorem matchEnd?_ofText (text : List Char) (c : Cursor) :
    (ofText text).matchEnd? c = c.past? text := by
  induction text generalizing c with
  | nil => rfl
  | cons t text ih =>
    have split := sequence_append [.set (.single t)] (text.map fun c => .set (.single c))
    rw [sequence_singleton] at split
    have front : (ofText (t :: text)).matchEnd? c =
        (append (.set (.single t)) (ofText text)).matchEnd? c := split.matchEnd?_eq c
    rw [front]
    obtain ⟨before, _ | ⟨x, rest⟩⟩ := c
    · rw [matchEnd?_append_set_nil]
      rfl
    · rw [matchEnd?_append_set, ih]
      simp [Cursor.past?]

/-! ### Anchored patterns -/

def Found.upTo (text : List Char) (stop : Cursor) : Found :=
  ⟨[], text.take (text.length - stop.left)⟩

def textStart : Look := .lineStart .text

theorem holds_textStart (c : Cursor) : textStart.holds c = c.before.isNone := rfl

/-- A pattern that may only match at the start of a text is found there or nowhere. -/
theorem find_anchored (p : Pattern) (text : List Char) :
    (append (look textStart) p).find text = (p.matchEnd? (.start text)).map (.upTo text) := by
  have later : ∀ x skipped rest,
      (append (look textStart) p).findFrom (x :: skipped) rest = none := by
    intro x skipped rest
    induction rest generalizing x skipped with
    | nil => simp [findFrom, matchEnd?_append_look, holds_textStart]
    | cons y rest ih => simp [findFrom, matchEnd?_append_look, holds_textStart, ih]
  unfold find
  cases text with
  | nil =>
    simp only [findFrom, matchEnd?_append_look, holds_textStart, List.head?_nil,
      Option.isNone_none, if_true, Cursor.start]
    cases p.matchEnd? ⟨none, []⟩ <;> simp [Found.upTo]
  | cons x rest =>
    simp only [findFrom, matchEnd?_append_look, holds_textStart, List.head?_nil,
      Option.isNone_none, if_true, later, Cursor.start]
    cases p.matchEnd? ⟨none, x :: rest⟩ <;> simp [Found.upTo]

end Pattern

end Ligature.Regex
