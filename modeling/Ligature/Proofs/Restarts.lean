import Ligature.Proofs.Scanning

/-!
# Scans that start again

What a matcher finds at a character depends on nothing before it. A scan can therefore be broken
off at any place that is not inside a span and started again there: the two parts have the spans of
the whole.
-/
namespace Ligature.Dispatch

def Span.shift (k : Nat) (s : Span) : Span := { s with start := s.start + k }

def Span.Inside (s : Span) (k : Nat) : Prop := s.start < k ∧ k < s.start + s.length

instance (s : Span) (k : Nat) : Decidable (s.Inside k) :=
  inferInstanceAs (Decidable (s.start < k ∧ k < s.start + s.length))

namespace Matcher

/-! ### Places -/

theorem lengthAt_drop (m : Matcher) (text : List Char) {i k : Nat} (behind : k ≤ i) :
    m.lengthAt (text.drop k) (i - k) = m.lengthAt text i := by
  have place : k + (i - k) = i := by omega
  rw [lengthAt, lengthAt, List.drop_drop, place]

/-- Where a scan starts to count shows in the starts of its spans and nowhere else. -/
theorem scanFrom_shift (m : Matcher) (k i skip : Nat) (rest : List Char) :
    m.scanFrom (i + k) skip rest = (m.scanFrom i skip rest).map (Span.shift k) := by
  induction rest generalizing i skip with
  | nil => rfl
  | cons c rest ih =>
    have next (skip : Nat) : m.scanFrom (i + k + 1) skip rest =
        (m.scanFrom (i + 1) skip rest).map (Span.shift k) := by
      rw [← ih (i + 1) skip, Nat.add_right_comm]
    cases skip with
    | succ skip => exact next skip
    | zero =>
      simp only [scanFrom]
      cases m.lengthFrom c rest with
      | none => exact next 0
      | some n => rw [List.map_cons, ← next]; rfl

theorem start_le_of_mem_scanFrom {m : Matcher} {i skip : Nat} {rest : List Char} {s : Span}
    (mem : s ∈ m.scanFrom i skip rest) : i ≤ s.start := by
  induction rest generalizing i skip with
  | nil => cases mem
  | cons c rest ih =>
    cases skip with
    | succ skip => exact Nat.le_of_succ_le (ih mem)
    | zero =>
      simp only [scanFrom] at mem
      cases found : m.lengthFrom c rest with
      | none =>
        rw [found] at mem
        exact Nat.le_of_succ_le (ih mem)
      | some n =>
        rw [found] at mem
        rcases List.mem_cons.mp mem with rfl | later
        · exact Nat.le_refl i
        · exact Nat.le_of_succ_le (ih later)

/-! ### Scans -/

theorem filter_scanFrom {m : Matcher} {i skip k : Nat} {rest : List Char} (passed : skip ≤ k)
    (outside : ∀ s ∈ m.scanFrom i skip rest, ¬ s.Inside (i + k)) :
    (m.scanFrom i skip rest).filter (i + k ≤ ·.start) =
      m.scanFrom (i + k) 0 (rest.drop k) := by
  -- Along the text up to the place; a span before the place ends before it, so nothing of it is
  -- still to be skipped there.
  induction rest generalizing i skip k with
  | nil => rw [List.drop_nil]; rfl
  | cons c rest ih =>
    cases k with
    | zero =>
      obtain rfl : skip = 0 := Nat.le_zero.mp passed
      refine List.filter_eq_self.mpr fun s mem => ?_
      rw [decide_eq_true_eq]
      exact start_le_of_mem_scanFrom mem
    | succ k =>
      have place : i + (k + 1) = i + 1 + k := by omega
      rw [place] at outside ⊢
      rw [List.drop_succ_cons]
      cases skip with
      | succ skip => exact ih (Nat.le_of_succ_le_succ passed) outside
      | zero =>
        simp only [scanFrom] at outside ⊢
        cases found : m.lengthFrom c rest with
        | none =>
          rw [found] at outside
          exact ih (Nat.zero_le k) outside
        | some n =>
          rw [found] at outside
          obtain ⟨first, later⟩ := List.forall_mem_cons.mp outside
          have ended : n - 1 ≤ k := by
            unfold Span.Inside at first
            dsimp only at first
            omega
          have before : ¬ i + 1 + k ≤ i := by omega
          simp only [List.filter_cons, before, decide_false, Bool.false_eq_true, if_false]
          exact ih ended later

/-- At a place that is not inside a span a scan can start again: the spans from there on are those
of the rest of the text, and the ligatures are the same. -/
theorem scan_restart (m : Matcher) (text : List Char) (k : Nat)
    (outside : ∀ s ∈ m.scan text, ¬ s.Inside k) :
    (m.scan text).filter (k ≤ ·.start) = (m.scan (text.drop k)).map (Span.shift k) ∧
    ∀ i, k ≤ i → m.lengthAt text i = m.lengthAt (text.drop k) (i - k) := by
  constructor
  · have outside' : ∀ s ∈ m.scanFrom 0 0 text, ¬ s.Inside (0 + k) := by
      rw [Nat.zero_add]
      exact outside
    have rest := filter_scanFrom (Nat.zero_le k) outside'
    have shifted := m.scanFrom_shift k 0 0 (text.drop k)
    rw [Nat.zero_add] at rest shifted
    rw [scan, rest, shifted]
    rfl
  · intro i behind
    exact (m.lengthAt_drop text behind).symm

/-- Arrows, and double lines at the end of a text; the conditions see only what follows the
leading character. -/
def ruled : CharMap Rules.CompiledPattern :=
  CharMap.empty.insert '=' ⟨["^(?-u:\\B)=*>", "=$"], []⟩

theorem scan_restart_ruled :
    let m := (ofTable ⟨"any", Rules.RuleGroup.register ruled 0⟩ (.ofCapacity 1)).value.1
    let text := ['x', '=', '=', '>', 'y', '=', '=']
    (∀ s ∈ m.scan text, ¬ s.Inside 4) ∧
      m.scan (text.drop 4) = [⟨1, 2, ['=', '=']⟩] ∧
      (m.scan text).filter (4 ≤ ·.start) = (m.scan (text.drop 4)).map (Span.shift 4) ∧
      m.lengthAt text 5 = m.lengthAt (text.drop 4) 1 := by
  intro m text
  have outside : ∀ s ∈ m.scan text, ¬ s.Inside 4 := by decide +kernel
  obtain ⟨spans, lengths⟩ := scan_restart m text 4 outside
  exact ⟨outside, by decide +kernel, spans, lengths 5 (by decide)⟩

end Matcher

end Ligature.Dispatch
