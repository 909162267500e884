import Ligature.Dispatch.Matcher

/-!
# What a scan finds

A scan goes through a text once, from left to right, and takes every ligature it meets. The spans
it gives are the only ones that are ligatures where they start, lie apart and in order, and leave
no character out at which a ligature starts.
-/
namespace Ligature.Regex.Pattern

theorem length_text_findFrom {p : Pattern} {skipped rest : List Char} {found : Found}
    (h : p.findFrom skipped rest = some found) : found.text.length ≤ rest.length := by
  induction rest generalizing skipped with
  | nil =>
    obtain ⟨stop, -, rfl⟩ := Option.map_eq_some_iff.mp h
    exact Nat.le_refl 0
  | cons x rest ih =>
    simp only [findFrom] at h
    split at h
    · cases h
      exact List.length_take_le' ..
    · exact Nat.le_succ_of_le (ih h)

end Ligature.Regex.Pattern

namespace Ligature.Dispatch

open Rules (CompiledPattern Table)

def Span.Covers (s : Span) (i : Nat) : Prop := s.start ≤ i ∧ i < s.start + s.length

namespace Matcher

/-! ### Single ligatures -/

structure LigatureOf (m : Matcher) (text : List Char) (s : Span) : Prop where
  long : 2 ≤ s.length
  inside : s.start + s.length ≤ text.length
  covered : s.text = (text.drop s.start).take s.length
  matched : m.lengthAt text s.start = some s.length
  leading : ∃ c, text[s.start]? = some c ∧ m.table.contains c = true

def WithinTable (m : Matcher) : Prop :=
  ∀ c, (m.regexes.get? c).isSome = true → m.table.contains c = true

theorem isSome_compileAll {mode : Mode} {cache : RegexCache} {found : CharMap Regex}
    {entries : List (Char × CompiledPattern)} {c : Char}
    (h : ((compileAll mode cache found entries).value.1.get? c).isSome = true) :
    (found.get? c).isSome = true ∨ ∃ p, (c, p) ∈ entries := by
  induction entries generalizing cache found with
  | nil => exact .inl h
  | cons e rest ih =>
    obtain ⟨d, p⟩ := e
    cases result : cache.compile p with
    | mk outcome cache' =>
      cases outcome with
      | ok r =>
        simp only [compileAll, result] at h
        rcases ih h with old | ⟨q, hq⟩
        · rw [CharMap.get?_insert] at old
          split at old
          · rename_i same
            exact .inr ⟨p, by simp [same]⟩
          · exact .inl old
        · exact .inr ⟨q, List.mem_cons_of_mem _ hq⟩
      | error e =>
        simp only [compileAll, result, Traced.value_bind] at h
        rcases ih h with old | ⟨q, hq⟩
        · exact .inl old
        · exact .inr ⟨q, List.mem_cons_of_mem _ hq⟩

theorem withinTable_ofTable (t : Table) (cache : RegexCache) :
    (ofTable t cache).value.1.WithinTable := by
  intro c h
  rcases isSome_compileAll (h : ((compileAll ..).value.1.get? c).isSome = true) with
    none | ⟨p, hp⟩
  · simp at none
  · obtain ⟨⟨d, q⟩, hq, same⟩ := List.mem_map.mp hp
    cases same
    exact List.any_eq_true.mpr ⟨_, hq, beq_self_eq_true _⟩

theorem lengthFrom_bounds {m : Matcher} {c : Char} {rest : List Char} {n : Nat}
    (h : m.lengthFrom c rest = some n) :
    (m.regexes.get? c).isSome = true ∧ 2 ≤ n ∧ n ≤ rest.length + 1 := by
  unfold lengthFrom at h
  split at h
  · cases h
  · rename_i r regex
    split at h
    · cases h
    · rename_i found hfound
      split at h
      · cases h
      · rename_i some
        cases h
        have most : found.text.length ≤ rest.length :=
          Ligature.Regex.Pattern.length_text_findFrom hfound
        have least : 0 < found.text.length :=
          List.length_pos_iff.mpr fun none => some (by simp [none])
        exact ⟨by simp [regex], by omega, by omega⟩

theorem lengthAt_of_drop {m : Matcher} {text rest : List Char} {i : Nat} {c : Char}
    (here : text.drop i = c :: rest) : m.lengthAt text i = m.lengthFrom c rest := by
  rw [lengthAt, here]

theorem lengthAt_of_le (m : Matcher) {text : List Char} {i : Nat} (h : text.length ≤ i) :
    m.lengthAt text i = none := by
  rw [lengthAt, List.drop_eq_nil_of_le h]

theorem ligatureOf_of_lengthFrom {m : Matcher} (within : m.WithinTable) {text rest : List Char}
    {i n : Nat} {c : Char} (here : text.drop i = c :: rest) (h : m.lengthFrom c rest = some n) :
    m.LigatureOf text ⟨i, n, (c :: rest).take n⟩ := by
  obtain ⟨regex, least, most⟩ := lengthFrom_bounds h
  have left : text.length - i = rest.length + 1 := by
    rw [← List.length_drop, here, List.length_cons]
  have leading : text[i]? = some c := by
    rw [← Nat.add_zero i, ← List.getElem?_drop, here, List.getElem?_cons_zero]
  refine ⟨least, ?_, by rw [here], ?_, c, leading, within c regex⟩
  · show i + n ≤ text.length
    omega
  · rw [lengthAt_of_drop here, h]

/-! ### Scans -/

/-- Spans are what a greedy scan takes from the index `i` of a text on: ligatures, one behind the
other, and no ligature starts at a character that none of them covers. -/
structure GreedyFrom (m : Matcher) (text : List Char) (i : Nat) (spans : List Span) : Prop where
  ordered : spans.Pairwise fun a b => a.start < b.start ∧ a.start + a.length ≤ b.start
  ligatures : ∀ s ∈ spans, i ≤ s.start ∧ m.LigatureOf text s
  missed : ∀ j, i ≤ j → (∀ s ∈ spans, ¬ s.Covers j) → m.lengthAt text j = none

section Greedy

variable {m : Matcher} {text : List Char} {i : Nat} {s : Span} {spans : List Span}

theorem GreedyFrom.nil (h : text.length ≤ i) : m.GreedyFrom text i [] where
  ordered := .nil
  ligatures := by simp
  missed := fun _ less _ => m.lengthAt_of_le (Nat.le_trans h less)

theorem GreedyFrom.pass (none : m.lengthAt text i = none)
    (later : m.GreedyFrom text (i + 1) spans) : m.GreedyFrom text i spans where
  ordered := later.ordered
  ligatures := fun s hs =>
    ⟨Nat.le_of_succ_le (later.ligatures s hs).1, (later.ligatures s hs).2⟩
  missed := by
    intro j less free
    rcases Nat.eq_or_lt_of_le less with rfl | less
    · exact none
    · exact later.missed j less free

theorem GreedyFrom.take (ligature : m.LigatureOf text s)
    (later : m.GreedyFrom text (s.start + s.length) spans) :
    m.GreedyFrom text s.start (s :: spans) where
  ordered := by
    refine List.pairwise_cons.mpr ⟨fun b hb => ?_, later.ordered⟩
    have behind := (later.ligatures b hb).1
    have long := ligature.long
    exact ⟨by omega, behind⟩
  ligatures := by
    intro b hb
    rcases List.mem_cons.mp hb with rfl | hb
    · exact ⟨Nat.le_refl _, ligature⟩
    · exact ⟨Nat.le_of_add_right_le (later.ligatures b hb).1, (later.ligatures b hb).2⟩
  missed := by
    intro j less free
    obtain ⟨first, others⟩ := List.forall_mem_cons.mp free
    refine later.missed j ?_ others
    unfold Span.Covers at first
    omega

theorem greedyFrom_scanFrom (within : m.WithinTable) {rest : List Char}
    (here : text.drop i = rest) (skip : Nat) :
    m.GreedyFrom text (i + skip) (m.scanFrom i skip rest) := by
  -- Along the text; the characters still to skip are those of the ligature taken last.
  induction rest generalizing i skip with
  | nil => exact .nil (Nat.le_trans (List.drop_eq_nil_iff.mp here) (Nat.le_add_right i skip))
  | cons c rest ih =>
    have next : text.drop (i + 1) = rest := by
      rw [← List.drop_drop, here, List.drop_succ_cons, List.drop_zero]
    cases skip with
    | succ skip =>
      have later := ih next skip
      rw [Nat.add_assoc, Nat.add_comm 1 skip] at later
      exact later
    | zero =>
      simp only [scanFrom, Nat.add_zero]
      cases h : m.lengthFrom c rest with
      | none => exact .pass ((lengthAt_of_drop here).trans h) (ih next 0)
      | some n =>
        have ligature := ligatureOf_of_lengthFrom within here h
        have later := ih next (n - 1)
        have behind : i + 1 + (n - 1) = i + n := by
          have := ligature.long
          dsimp only at this
          omega
        rw [behind] at later
        exact .take ligature later

theorem GreedyFrom.tail (greedy : m.GreedyFrom text i (s :: spans)) :
    m.GreedyFrom text (s.start + s.length) spans where
  ordered := (List.pairwise_cons.mp greedy.ordered).2
  ligatures := fun b hb =>
    ⟨((List.pairwise_cons.mp greedy.ordered).1 b hb).2,
      (greedy.ligatures b (List.mem_cons_of_mem _ hb)).2⟩
  missed := by
    intro j less free
    have first := (greedy.ligatures s List.mem_cons_self).1
    refine greedy.missed j (by omega) (List.forall_mem_cons.mpr ⟨?_, free⟩)
    unfold Span.Covers
    omega

theorem GreedyFrom.start_le (greedy : m.GreedyFrom text i (s :: spans)) {j n : Nat} (less : i ≤ j)
    (matched : m.lengthAt text j = some n) : s.start ≤ j := by
  refine Nat.le_of_not_lt fun before => ?_
  have free : ∀ b ∈ s :: spans, ¬ b.Covers j := by
    refine List.forall_mem_cons.mpr ⟨fun h => absurd h.1 (Nat.not_le_of_lt before), ?_⟩
    intro b hb h
    have behind := ((List.pairwise_cons.mp greedy.ordered).1 b hb).1
    have covers := h.1
    omega
  rw [greedy.missed j less free] at matched
  cases matched

theorem GreedyFrom.eq {spans' : List Span} (greedy : m.GreedyFrom text i spans)
    (greedy' : m.GreedyFrom text i spans') : spans = spans' := by
  induction spans generalizing i spans' with
  | nil =>
    cases spans' with
    | nil => rfl
    | cons s' _ =>
      obtain ⟨less, ligature⟩ := greedy'.ligatures s' List.mem_cons_self
      have none := greedy.missed _ less (by simp)
      exact nomatch none.symm.trans ligature.matched
  | cons s spans ih =>
    obtain ⟨less, ligature⟩ := greedy.ligatures s List.mem_cons_self
    cases spans' with
    | nil =>
      have none := greedy'.missed _ less (by simp)
      exact nomatch none.symm.trans ligature.matched
    | cons s' spans' =>
      obtain ⟨less', ligature'⟩ := greedy'.ligatures s' List.mem_cons_self
      -- Neither scan may miss the first ligature of the other.
      have start : s.start = s'.start :=
        Nat.le_antisymm (greedy.start_le less' ligature'.matched)
          (greedy'.start_le less ligature.matched)
      have length : s.length = s'.length := by
        have matched := ligature.matched
        rw [start, ligature'.matched] at matched
        exact (Option.some.inj matched).symm
      have same : s = s' := by
        have covered := ligature.covered
        rw [start, length, ← ligature'.covered] at covered
        obtain ⟨_, _, _⟩ := s
        obtain ⟨_, _, _⟩ := s'
        simp_all
      subst same
      rw [ih greedy.tail greedy'.tail]

end Greedy

/-- Whatever the table and the cache that a matcher was made from, the spans of a scan are the
ligatures that a greedy pass over the text takes, and no other spans are. -/
theorem scan_eq_iff_greedy (t : Table) (cache : RegexCache) (text : List Char)
    (spans : List Span) :
    let m := (ofTable t cache).value.1
    m.scan text = spans ↔ m.GreedyFrom text 0 spans := by
  intro m
  have greedy : m.GreedyFrom text 0 (m.scan text) :=
    greedyFrom_scanFrom (withinTable_ofTable t cache) rfl 0
  constructor
  · rintro rfl
    exact greedy
  · exact greedy.eq

end Matcher

end Ligature.Dispatch
