import Ligature.Yaml.Printer

/-!
# Words and gaps

A text falls into words and the gaps between them. What is printed in a gap, spaces or line breaks
with the indentation behind them, is read as one gap, and the place moves behind it.
-/
namespace Ligature.Yaml

/-! ### Printed characters -/

def IsNewline (c : Char) : Prop := c = '\n' ∨ c = '\u2028' ∨ c = '\u2029'

theorem isNewline_of_isBreak {c : Char} (printed : isPrintable c = true)
    (ends : isBreak c = true) : IsNewline c := by
  simp only [isBreak, Bool.or_eq_true, beq_iff_eq] at ends
  rcases ends with (((rfl | rfl) | rfl) | rfl) | rfl
  · exact .inl rfl
  · exact absurd printed (by decide)
  · exact absurd printed (by decide)
  · exact .inr (.inl rfl)
  · exact .inr (.inr rfl)

theorem IsNewline.isBreak {c : Char} (h : IsNewline c) : isBreak c = true := by
  rcases h with rfl | rfl | rfl <;> rfl

theorem IsNewline.isBlank {c : Char} (h : IsNewline c) : isBlank c = false := by
  rcases h with rfl | rfl | rfl <;> rfl

theorem eq_space_of_isBlank {c : Char} (printed : isPrintable c = true)
    (blank : isBlank c = true) : c = ' ' := by
  simp only [isBlank, Bool.or_eq_true, beq_iff_eq] at blank
  rcases blank with rfl | rfl
  · rfl
  · exact absurd printed (by decide)

theorem isBlank_of_ne_space {c : Char} (printed : isPrintable c = true) (space : c ≠ ' ') :
    isBlank c = false := by
  cases blank : isBlank c with
  | false => rfl
  | true => exact absurd (eq_space_of_isBlank printed blank) space

theorem isAllowed_of_isPrintable {c : Char} (printed : isPrintable c = true) :
    isAllowed c = true := by
  have valid := c.valid
  simp only [isPrintable, Bool.or_eq_true, Bool.and_eq_true, beq_iff_eq, decide_eq_true_eq,
    bne_iff_ne] at printed
  simp only [isAllowed, Bool.or_eq_true, Bool.and_eq_true, beq_iff_eq, decide_eq_true_eq]
  omega

def IsInk (c : Char) : Prop := isBlank c = false ∧ isBreak c = false

theorem IsInk.ne_blank {c : Char} (h : IsInk c) : c ≠ ' ' ∧ c ≠ '\t' := by
  simpa [isBlank] using h.1

def EndsGap (cs : List Char) : Prop := ∀ c ∈ cs.head?, IsInk c

/-! ### Words -/

theorem exists_run (p : Char → Bool) (cs : List Char) : ∃ run rest, cs = run ++ rest ∧
    (∀ c ∈ run, p c = true) ∧ ∀ c ∈ rest.head?, p c = false := by
  induction cs with
  | nil => exact ⟨[], [], rfl, by simp, by simp⟩
  | cons c cs ih =>
    cases test : p c with
    | false => exact ⟨[], c :: cs, rfl, by simp, by simpa using test⟩
    | true =>
      obtain ⟨run, rest, rfl, inside, behind⟩ := ih
      exact ⟨c :: run, rest, rfl, List.forall_mem_cons.mpr ⟨test, inside⟩, behind⟩

theorem exists_spaces {gap : List Char} (some : gap ≠ []) (spaces : ∀ c ∈ gap, c = ' ') :
    ∃ n, gap = List.replicate (n + 1) ' ' := by
  have size := List.length_pos_iff.mpr some
  have replicated := List.eq_replicate_of_mem spaces
  exact ⟨gap.length - 1, by rwa [Nat.sub_add_cancel size]⟩

/-- A text is a word, or a word, a gap and a text that begins with no gap. -/
theorem words_induction (isGap : Char → Bool) {P : List Char → Prop}
    (word : ∀ w, (∀ c ∈ w, isGap c = false) → P w)
    (gap : ∀ w g rest, (∀ c ∈ w, isGap c = false) → (∀ c ∈ g, isGap c = true) → g ≠ [] →
      (∀ c ∈ rest.head?, isGap c = false) → P rest → P (w ++ (g ++ rest)))
    (cs : List Char) : P cs := by
  induction size : cs.length using Nat.strongRecOn generalizing cs with
  | ind n ih =>
    obtain ⟨w, after, rfl, inWord, behind⟩ := exists_run (!isGap ·) cs
    have inWord : ∀ c ∈ w, isGap c = false := fun c mem => by simpa using inWord c mem
    obtain ⟨g, rest, rfl, inGap, behindGap⟩ := exists_run isGap after
    by_cases empty : g = []
    · subst empty
      cases rest with
      | nil =>
        rw [List.append_nil, List.append_nil]
        exact word w inWord
      | cons c rest =>
        have isGap := behind c rfl
        have notGap := behindGap c rfl
        simp [notGap] at isGap
    · have shorter : rest.length < n := by
        have some := List.length_pos_iff.mpr empty
        simp only [List.length_append] at size
        omega
      exact gap w g rest inWord inGap empty behindGap (ih rest.length shorter rest rfl)

/-! ### Places -/

theorem Place.advance_append (cs rest : List Char) (index line column : Nat) :
    Place.advance ⟨cs ++ rest, index, line, column⟩ cs.length =
      ⟨rest, index + cs.length, line, column + cs.length⟩ := by
  simp [Place.advance]

@[simp] theorem Place.advance_cons (c : Char) (rest : List Char) (index line column : Nat) :
    Place.advance ⟨c :: rest, index, line, column⟩ 1 = ⟨rest, index + 1, line, column + 1⟩ := rfl

theorem Place.takeBreak_newline {c : Char} (h : IsNewline c) (rest : List Char)
    (index line column : Nat) :
    Place.takeBreak ⟨c :: rest, index, line, column⟩ = ([c], ⟨rest, index + 1, line + 1, 0⟩) := by
  rcases h with rfl | rfl | rfl <;> rfl

theorem length_indentation (k : Nat) : (indentation k).length = k := List.length_replicate

theorem Place.skipWhile_indentation (test : Char → Bool) (rest : List Char)
    (space : test ' ' = true) (behind : ∀ c ∈ rest.head?, test c = false)
    (k index line column : Nat) :
    Place.skipWhile ⟨indentation k ++ rest, index, line, column⟩ test =
      ⟨rest, index + k, line, column + k⟩ := by
  have none : rest.takeWhile test = [] := by
    cases rest with
    | nil => rfl
    | cons c rest => simp [behind c rfl]
  have spaces : ∀ c ∈ indentation k, test c = true := fun c mem => by
    rwa [List.eq_of_mem_replicate mem]
  have moved := Place.advance_append (indentation k) rest index line column
  rw [Place.skipWhile, Place.span, List.takeWhile_append_of_pos spaces, none, List.append_nil]
  simpa only [length_indentation] using moved

namespace Gap

variable {limit fuel index line column : Nat} {g : Gap} {rest : List Char}

theorem read_end {p : Place} (h : EndsGap p.rest) : read limit fuel g p = some (g, p) := by
  cases fuel with
  | zero => rfl
  | succ fuel =>
    cases start : p.rest with
    | nil => simp [read, start]
    | cons c cs =>
      obtain ⟨noBlank, noBreak⟩ := h c (by simp [start])
      simp [read, start, noBlank, noBreak]

theorem read_spaces {n : Nat} {blanks : List Char} (ends : EndsGap rest) (enough : n < fuel) :
    read limit fuel ⟨false, blanks, [], []⟩ ⟨List.replicate n ' ' ++ rest, index, line, column⟩ =
      some (⟨false, blanks ++ List.replicate n ' ', [], []⟩,
        ⟨rest, index + n, line, column + n⟩) := by
  induction n generalizing fuel index column blanks with
  | zero =>
    rw [List.replicate_zero, List.nil_append, List.append_nil]
    exact read_end ends
  | succ n ih =>
    obtain ⟨fuel, rfl⟩ : ∃ k, fuel = k + 1 := ⟨fuel - 1, by omega⟩
    have step : read limit (fuel + 1) ⟨false, blanks, [], []⟩
        ⟨' ' :: (List.replicate n ' ' ++ rest), index, line, column⟩ =
        read limit fuel ⟨false, blanks ++ [' '], [], []⟩
          ⟨List.replicate n ' ' ++ rest, index + 1, line, column + 1⟩ := by
      simp [read, isBlank]
    rw [List.replicate_succ, List.cons_append, step, ih (by omega), List.append_assoc,
      List.singleton_append]
    simp only [Nat.add_assoc, Nat.add_comm 1]

theorem read_indentation {n : Nat} {first later : List Char} (ends : EndsGap rest)
    (enough : n < fuel) :
    read limit fuel ⟨true, [], first, later⟩ ⟨indentation n ++ rest, index, line, column⟩ =
      some (⟨true, [], first, later⟩, ⟨rest, index + n, line, column + n⟩) := by
  induction n generalizing fuel index column with
  | zero => exact read_end ends
  | succ n ih =>
    obtain ⟨fuel, rfl⟩ : ∃ k, fuel = k + 1 := ⟨fuel - 1, by omega⟩
    have step : read limit (fuel + 1) ⟨true, [], first, later⟩
        ⟨' ' :: (indentation n ++ rest), index, line, column⟩ =
        read limit fuel ⟨true, [], first, later⟩
          ⟨indentation n ++ rest, index + 1, line, column + 1⟩ := by
      simp [read, isBlank]
    have spaces : indentation (n + 1) = ' ' :: indentation n := rfl
    rw [spaces, List.cons_append, step, ih (by omega)]
    simp only [Nat.add_assoc, Nat.add_comm 1]

theorem read_later {bs : List Char} {n : Nat} {first later : List Char}
    (breaks : ∀ c ∈ bs, IsNewline c) (ends : EndsGap rest) (enough : bs.length + n < fuel) :
    read limit fuel ⟨true, [], first, later⟩ ⟨bs ++ (indentation n ++ rest), index, line, 0⟩ =
      some (⟨true, [], first, later ++ bs⟩,
        ⟨rest, index + (bs.length + n), line + bs.length, n⟩) := by
  induction bs generalizing fuel index line later with
  | nil =>
    rw [List.nil_append, List.append_nil, read_indentation ends (by simpa using enough)]
    simp only [List.length_nil, Nat.zero_add, Nat.add_zero]
  | cons c bs ih =>
    obtain ⟨newline, breaks⟩ := List.forall_mem_cons.mp breaks
    obtain ⟨fuel, rfl⟩ : ∃ k, fuel = k + 1 := ⟨fuel - 1, by omega⟩
    have step : read limit (fuel + 1) ⟨true, [], first, later⟩
        ⟨c :: (bs ++ (indentation n ++ rest)), index, line, 0⟩ =
        read limit fuel ⟨true, [], first, later ++ [c]⟩
          ⟨bs ++ (indentation n ++ rest), index + 1, line + 1, 0⟩ := by
      simp [read, newline.isBlank, newline.isBreak, Place.takeBreak_newline newline]
    rw [List.length_cons] at enough
    rw [List.cons_append, step, ih breaks (by omega), List.append_assoc, List.singleton_append,
      List.length_cons]
    simp only [Nat.add_assoc, Nat.add_comm 1, Nat.add_left_comm]

theorem read_breaks {b : Char} {bs blanks : List Char} {n : Nat}
    (breaks : ∀ c ∈ b :: bs, IsNewline c) (ends : EndsGap rest)
    (enough : bs.length + n + 1 < fuel) :
    read limit fuel ⟨false, blanks, [], []⟩
        ⟨b :: bs ++ (indentation n ++ rest), index, line, column⟩ =
      some (⟨true, [], [b], bs⟩,
        ⟨rest, index + 1 + (bs.length + n), line + 1 + bs.length, n⟩) := by
  obtain ⟨newline, breaks⟩ := List.forall_mem_cons.mp breaks
  obtain ⟨fuel, rfl⟩ : ∃ k, fuel = k + 1 := ⟨fuel - 1, by omega⟩
  have step : read limit (fuel + 1) ⟨false, blanks, [], []⟩
      ⟨b :: (bs ++ (indentation n ++ rest)), index, line, column⟩ =
      read limit fuel ⟨true, [], [b], []⟩
        ⟨bs ++ (indentation n ++ rest), index + 1, line + 1, 0⟩ := by
    simp [read, newline.isBlank, newline.isBreak, Place.takeBreak_newline newline]
  rw [List.cons_append, step, read_later breaks ends (by omega), List.nil_append]

end Gap

end Ligature.Yaml
