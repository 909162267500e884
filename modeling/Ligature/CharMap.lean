/-!
# Maps from characters

Association lists with ascending keys. `insert` keeps one entry per character; `get?` reads it.
-/
namespace Ligature

/-- A finite map from characters, listed in ascending order of its keys. -/
structure CharMap (α : Type) where
  toList : List (Char × α)
  ascending : toList.Pairwise fun x y => x.1 < y.1

namespace CharMap

variable {α β : Type}

instance [DecidableEq α] : DecidableEq (CharMap α) := fun a b =>
  decidable_of_iff (a.toList = b.toList) (by cases a; cases b; simp)

def empty : CharMap α := ⟨[], .nil⟩

def put (c : Char) (a : α) : List (Char × α) → List (Char × α)
  | [] => [(c, a)]
  | (d, b) :: rest =>
    if c < d then (c, a) :: (d, b) :: rest
    else if c = d then (c, a) :: rest
    else (d, b) :: put c a rest

theorem mem_put {c : Char} {a : α} {x : Char × α} {l : List (Char × α)} :
    x ∈ put c a l → x = (c, a) ∨ x ∈ l := by
  induction l with
  | nil => simp [put]
  | cons y rest ih =>
    obtain ⟨d, b⟩ := y
    simp only [put]
    split
    · simp
    · split
      · simp only [List.mem_cons]
        rintro (h | h)
        · exact .inl h
        · exact .inr (.inr h)
      · simp only [List.mem_cons]
        rintro (h | h)
        · exact .inr (.inl h)
        · exact (ih h).imp id .inr

theorem put_ascending {c : Char} {a : α} {l : List (Char × α)}
    (h : l.Pairwise fun x y => x.1 < y.1) : (put c a l).Pairwise fun x y => x.1 < y.1 := by
  induction l with
  | nil => simp [put]
  | cons y rest ih =>
    obtain ⟨d, b⟩ := y
    obtain ⟨head, tail⟩ := List.pairwise_cons.1 h
    simp only [put]
    split
    · rename_i less
      refine List.pairwise_cons.2 ⟨?_, h⟩
      simp only [List.mem_cons]
      rintro x (rfl | hx)
      · exact less
      · exact Char.lt_trans less (head x hx)
    · rename_i notLess
      split
      · rename_i same
        subst same
        exact List.pairwise_cons.2 ⟨head, tail⟩
      · rename_i differ
        refine List.pairwise_cons.2 ⟨fun x hx => ?_, ih tail⟩
        rcases mem_put hx with rfl | hx
        · rcases Std.lt_trichotomy c d with h' | h' | h'
          · exact absurd h' notLess
          · exact absurd h' differ
          · exact h'
        · exact head x hx

def insert (m : CharMap α) (c : Char) (a : α) : CharMap α :=
  ⟨put c a m.toList, put_ascending m.ascending⟩

def get? (m : CharMap α) (c : Char) : Option α := (m.toList.find? (·.1 == c)).map (·.2)

def contains (m : CharMap α) (c : Char) : Bool := m.toList.any (·.1 == c)

def size (m : CharMap α) : Nat := m.toList.length

def keys (m : CharMap α) : List Char := m.toList.map (·.1)

@[simp] theorem get?_empty (c : Char) : (empty : CharMap α).get? c = none := rfl

theorem find?_put (c : Char) (a : α) (l : List (Char × α)) (d : Char) :
    (put c a l).find? (·.1 == d) = if c = d then some (c, a) else l.find? (·.1 == d) := by
  induction l with
  | nil => by_cases h : c = d <;> simp [put, h]
  | cons y rest ih =>
    obtain ⟨e, b⟩ := y
    simp only [put]
    split
    · by_cases h : c = d <;> simp [h]
    · split
      · rename_i same
        subst same
        by_cases h : c = d <;> simp [h]
      · rename_i differ
        by_cases h : c = d
        · subst h
          have : ¬ e = c := fun h => differ h.symm
          simp [this, ih]
        · by_cases h' : e = d <;> simp [h, h', ih]

@[simp] theorem get?_insert (m : CharMap α) (c : Char) (a : α) (d : Char) :
    (m.insert c a).get? d = if c = d then some a else m.get? d := by
  simp only [get?, insert, find?_put]
  split <;> rfl

theorem contains_eq_isSome (m : CharMap α) (c : Char) : m.contains c = (m.get? c).isSome := by
  simp [contains, get?, List.isSome_find?]

theorem find?_eq_none_of_lt {c : Char} {l : List (Char × α)} (less : ∀ x ∈ l, c < x.1) :
    l.find? (·.1 == c) = none := by
  refine List.find?_eq_none.2 fun x hx same => ?_
  have above := less x hx
  rw [eq_of_beq same] at above
  exact Char.lt_irrefl c above

theorem eq_of_find? {l l' : List (Char × α)} (h : l.Pairwise fun x y => x.1 < y.1)
    (h' : l'.Pairwise fun x y => x.1 < y.1)
    (same : ∀ c, l.find? (·.1 == c) = l'.find? (·.1 == c)) : l = l' := by
  induction l generalizing l' with
  | nil =>
    cases l' with
    | nil => rfl
    | cons y rest' => simpa using same y.1
  | cons x rest ih =>
    cases l' with
    | nil => simpa using same x.1
    | cons y rest' =>
      obtain ⟨least, tail⟩ := List.pairwise_cons.1 h
      obtain ⟨least', tail'⟩ := List.pairwise_cons.1 h'
      -- Of two different first keys the smaller one would be missing on the other side.
      have keys : x.1 = y.1 := by
        rcases Std.lt_trichotomy x.1 y.1 with less | keys | less
        · have absent : (y :: rest').find? (·.1 == x.1) = none :=
            find?_eq_none_of_lt (List.forall_mem_cons.2
              ⟨less, fun z hz => Char.lt_trans less (least' z hz)⟩)
          have here := same x.1
          rw [absent] at here
          simp at here
        · exact keys
        · have absent : (x :: rest).find? (·.1 == y.1) = none :=
            find?_eq_none_of_lt (List.forall_mem_cons.2
              ⟨less, fun z hz => Char.lt_trans less (least z hz)⟩)
          have here := same y.1
          rw [absent] at here
          simp at here
      have first : x = y := by simpa [keys] using same x.1
      subst first
      refine congrArg (x :: ·) (ih tail tail' fun c => ?_)
      by_cases own : x.1 = c
      · subst own
        rw [find?_eq_none_of_lt least, find?_eq_none_of_lt least']
      · simpa [own] using same c

theorem eq_of_get? {m m' : CharMap α} (same : ∀ c, m.get? c = m'.get? c) : m = m' := by
  have entry (n : CharMap α) (c : Char) :
      n.toList.find? (·.1 == c) = (n.get? c).map (c, ·) := by
    cases found : n.toList.find? (·.1 == c) with
    | none => simp [get?, found]
    | some x =>
      have key : x.1 = c := by simpa using List.find?_some found
      subst key
      simp [get?, found]
  have lists : m.toList = m'.toList :=
    eq_of_find? m.ascending m'.ascending fun c => by rw [entry, entry, same]
  cases m
  cases m'
  cases lists
  rfl

def mapValues (m : CharMap α) (f : α → β) : CharMap β :=
  ⟨m.toList.map fun x => (x.1, f x.2), by
    simpa [List.pairwise_map] using m.ascending⟩

end CharMap

end Ligature
