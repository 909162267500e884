import Ligature.Proofs.Gaps
import Ligature.Proofs.Numerals

/-!
# Scalars read back

Every style of scalar that is printed is read as the text it was printed for, up to the place
behind it. The proofs follow the words of a text, or its lines in a literal block.
-/
namespace Ligature.Yaml

/-! ### Plain scalars -/

section Plain

theorem startsBlank_append {cs ds : List Char} (h : startsBlank ds = true) :
    startsBlank (cs ++ ds) = startsBlank cs := by
  cases cs with
  | nil => exact h
  | cons c cs => rfl

theorem plainRun_blank {inFlow : Bool} {cs : List Char} (h : startsBlank cs = true) :
    plainRun inFlow cs = some [] := by
  cases cs with
  | nil => rfl
  | cons c cs =>
    simp only [startsBlank] at h
    simp [plainRun, h]

theorem holdsIndicator_tail {c : Char} {cs : List Char} (h : holdsIndicator (c :: cs) = false) :
    holdsIndicator cs = false := by
  cases cs with
  | nil => rfl
  | cons d cs =>
    simp only [holdsIndicator, Bool.or_eq_false_iff] at h
    exact h.2

theorem holdsIndicator_right {w cs : List Char} (h : holdsIndicator (w ++ cs) = false) :
    holdsIndicator cs = false := by
  induction w with
  | nil => exact h
  | cons c w ih => exact ih (holdsIndicator_tail h)

structure StartsWord (cs : List Char) : Prop where
  comment : cs.head? ≠ some '#'
  space : cs.head? ≠ some ' '
  colon : cs.head? = some ':' → startsBlank cs.tail = false

theorem plainRun_word {w : List Char} (tail : List Char) {after : List Char}
    (ink : ∀ c ∈ w, IsInk c)
    (colon : (w ++ tail).head? = some ':' → startsBlank (w ++ tail).tail = false)
    (holds : holdsIndicator (w ++ tail) = false) (blank : startsBlank tail = true)
    (ends : startsBlank after = true) :
    plainRun false (w ++ (tail ++ after)) = some w := by
  induction w with
  | nil =>
    apply plainRun_blank
    rw [List.nil_append, startsBlank_append ends]
    exact blank
  | cons c w ih =>
    obtain ⟨⟨noBlank, noBreak⟩, ink⟩ := List.forall_mem_cons.mp ink
    have noEnd : (c == ':' && startsBlank (w ++ (tail ++ after))) = false := by
      rw [← List.append_assoc, startsBlank_append ends]
      cases isColon : c == ':' with
      | false => rfl
      | true => exact colon (by simpa using isColon)
    have colon : (w ++ tail).head? = some ':' → startsBlank (w ++ tail).tail = false := by
      intro isColon
      cases word : w ++ tail with
      | nil => simp [word] at isColon
      | cons d rest =>
        simp only [List.cons_append, word, holdsIndicator, Bool.or_eq_false_iff] at holds
        simp only [word, List.head?_cons, Option.some.injEq] at isColon
        simpa [isColon] using holds.1.1
    have read := ih ink colon (holdsIndicator_tail holds)
    simp [plainRun, noBlank, noBreak, noEnd, read]

structure PlainFrom (cs : List Char) : Prop where
  starts : StartsWord cs
  holds : holdsIndicator cs = false
  printed : ∀ c ∈ cs, isPrintable c = true
  inLine : ∀ c ∈ cs, isBreak c = false
  ends : cs.getLast? ≠ some ' '

theorem startsWord_of_holdsIndicator {cs : List Char} (h : holdsIndicator (' ' :: cs) = false)
    (space : cs.head? ≠ some ' ') : StartsWord cs := by
  cases cs with
  | nil => exact ⟨by simp, by simp, by simp⟩
  | cons c cs =>
    simp only [holdsIndicator, Bool.or_eq_false_iff] at h
    obtain ⟨⟨colon, comment⟩, -⟩ := h
    have blank : isBlank ' ' = true := rfl
    constructor
    · simpa [blank] using comment
    · exact space
    · intro isColon
      obtain rfl := Option.some.inj isColon
      simpa using colon

theorem PlainFrom.next {w : List Char} {n : Nat} {rest : List Char}
    (h : PlainFrom (w ++ (List.replicate (n + 1) ' ' ++ rest))) (space : rest.head? ≠ some ' ') :
    rest ≠ [] ∧ PlainFrom rest := by
  obtain ⟨-, holds, printed, inLine, ends⟩ := h
  have written : rest ≠ [] := by
    rintro rfl
    simp [List.getLast?_append, List.getLast?_replicate] at ends
  have last : holdsIndicator (' ' :: rest) = false := by
    rw [List.replicate_succ', List.append_assoc, ← List.append_assoc] at holds
    exact holdsIndicator_right holds
  refine ⟨written, ⟨startsWord_of_holdsIndicator last space, holdsIndicator_tail last, ?_, ?_, ?_⟩⟩
  · exact fun c mem => printed c (by simp [mem])
  · exact fun c mem => inLine c (by simp [mem])
  · intro space
    simp [List.getLast?_append, space] at ends

theorem PlainFrom.isInk {cs : List Char} (h : PlainFrom cs) {c : Char} (mem : c ∈ cs)
    (space : c ≠ ' ') : IsInk c :=
  ⟨isBlank_of_ne_space (h.printed c mem) space, h.inLine c mem⟩

/-- One word of a plain scalar, up to the gap behind it. -/
theorem readPlain_step {indent fuel : Nat} {acc w after : List Char} {g : Gap}
    {index line column : Nat} (starts : (w ++ after).head? ≠ some '#') (inside : 0 < column)
    (run : plainRun false (w ++ after) = some w) (some : w ≠ []) (more : after ≠ [])
    (blank : startsBlank after = true) :
    readPlain false indent (fuel + 1) acc g ⟨w ++ after, index, line, column⟩ =
      (Gap.read indent (after.length + 1) .none
        ⟨after, index + w.length, line, column + w.length⟩).bind fun (g', p) =>
          if p.column < indent then .some (acc ++ g.text ++ w, g'.broken, p)
          else readPlain false indent fuel (acc ++ g.text ++ w) g' p := by
  have noMarker : Place.atMarker ⟨w ++ after, index, line, column⟩ = false := by
    simp [Place.atMarker, Nat.ne_of_gt inside]
  rw [readPlain]
  simp only [noMarker, Bool.false_or, decide_eq_true_eq, starts, if_false, run,
    Place.advance_append, List.isEmpty_iff, some, blank]
  cases gap : Gap.read indent (after.length + 1) .none
    ⟨after, index + w.length, line, column + w.length⟩ <;> simp [more]

theorem readPlain_text {indent next : Nat} {rest : List Char} (ends : EndsGap rest)
    (shallow : next < indent) {cs : List Char} (plain : PlainFrom cs) (written : cs ≠ [])
    {fuel index line column : Nat} {acc : List Char} {g : Gap} (deep : indent ≤ column)
    (enough : cs.length < fuel) :
    readPlain false indent fuel acc g
        ⟨cs ++ '\n' :: (indentation next ++ rest), index, line, column⟩ =
      some (acc ++ g.text ++ cs, true,
        ⟨rest, index + cs.length + 1 + next, line + 1, next⟩) := by
  induction cs using words_induction (· == ' ')
    generalizing fuel index column acc g with
  | word w inWord =>
    -- behind the last word the next line is less deep, which ends the scalar
    obtain ⟨fuel, rfl⟩ : ∃ k, fuel = k + 1 := ⟨fuel - 1, by omega⟩
    have run : plainRun false (w ++ '\n' :: (indentation next ++ rest)) = some w := by
      have ink : ∀ c ∈ w, IsInk c := fun c mem => plain.isInk mem (by simpa using inWord c mem)
      exact plainRun_word [] ink (by simpa using plain.starts.colon)
        (by simpa using plain.holds) rfl rfl
    have starts : (w ++ '\n' :: (indentation next ++ rest)).head? ≠ some '#' := by
      obtain ⟨b, w, rfl⟩ := List.exists_cons_of_ne_nil written
      exact plain.starts.comment
    have gap := @Gap.read_breaks indent ((indentation next ++ rest).length + 1 + 1)
      (index + w.length) line (column + w.length) rest '\n' [] [] next
      (by simp [IsNewline]) ends
      (by rw [List.length_nil, List.length_append, length_indentation]; omega)
    rw [readPlain_step starts (by omega) run written (by simp) rfl]
    simp only [List.cons_append, List.nil_append] at gap
    simp only [List.length_cons, Gap.none, gap, Option.bind_some, shallow, if_true, List.length_nil]
    simp only [Nat.zero_add, Nat.add_zero, Nat.add_assoc]
  | gap w gap cs inWord inGap some behind ih =>
    obtain ⟨fuel, rfl⟩ : ∃ k, fuel = k + 1 := ⟨fuel - 1, by omega⟩
    obtain ⟨n, rfl⟩ := exists_spaces some fun c mem => by simpa using inGap c mem
    have word : w ≠ [] := by
      rintro rfl
      exact plain.starts.space rfl
    obtain ⟨more, later⟩ := plain.next fun h => by simpa using behind ' ' h
    have run : plainRun false
        (w ++ (List.replicate (n + 1) ' ' ++ (cs ++ '\n' :: (indentation next ++ rest)))) =
        .some w := by
      have ink : ∀ c ∈ w, IsInk c := fun c mem =>
        plain.isInk (List.mem_append_left _ mem) (by simpa using inWord c mem)
      rw [← List.append_assoc (List.replicate _ _)]
      exact plainRun_word _ ink plain.starts.colon plain.holds rfl rfl
    have starts : (w ++ (List.replicate (n + 1) ' ' ++
        (cs ++ '\n' :: (indentation next ++ rest)))).head? ≠ .some '#' := by
      obtain ⟨b, w, rfl⟩ := List.exists_cons_of_ne_nil word
      exact plain.starts.comment
    have inked : EndsGap (cs ++ '\n' :: (indentation next ++ rest)) := by
      obtain ⟨b, cs, rfl⟩ := List.exists_cons_of_ne_nil more
      intro c start
      obtain rfl := Option.some.inj start
      exact later.isInk List.mem_cons_self (by simpa using behind _ rfl)
    simp only [List.length_append, List.length_replicate] at enough
    rw [List.append_assoc, List.append_assoc,
      readPlain_step starts (by omega) run word (by simp) rfl, Gap.none,
      Gap.read_spaces inked (by rw [List.length_append, List.length_replicate]; omega),
      Option.bind_some]
    have deeper : ¬column + w.length + (n + 1) < indent := by omega
    simp only [deeper, if_false]
    rw [ih later more (by omega) (by omega)]
    simp [Gap.text, Nat.add_assoc]

theorem plainFrom_of_plainAllowed {cs : List Char} (h : plainAllowed cs = true) :
    PlainFrom cs := by
  simp only [plainAllowed, Bool.not_eq_true', Bool.or_eq_false_iff, beq_eq_false_iff_ne] at h
  obtain ⟨⟨⟨⟨⟨⟨-, starts⟩, holds⟩, first⟩, last⟩, inLine⟩, printed⟩ := h
  refine ⟨⟨?_, first, ?_⟩, holds, ?_, ?_, last⟩
  · intro comment
    obtain ⟨cs, rfl⟩ := List.head?_eq_some_iff.mp comment
    simp [startsIndicator] at starts
  · intro colon
    obtain ⟨cs, rfl⟩ := List.head?_eq_some_iff.mp colon
    simpa [startsIndicator] using starts
  · simpa using printed
  · simpa using inLine

theorem startsIndicator_of_plainAllowed {cs : List Char} (h : plainAllowed cs = true) :
    startsIndicator cs = false := by
  simp only [plainAllowed, Bool.not_eq_true', Bool.or_eq_false_iff] at h
  exact h.1.1.1.1.1.2

theorem holdsIndicator_eq_false {cs : List Char} (h : ∀ c ∈ cs, c ≠ ':' ∧ c ≠ '#') :
    holdsIndicator cs = false := by
  induction cs with
  | nil => rfl
  | cons a cs ih =>
    obtain ⟨-, h⟩ := List.forall_mem_cons.mp h
    cases cs with
    | nil => rfl
    | cons b cs =>
      obtain ⟨colon, comment⟩ := h b List.mem_cons_self
      simp [holdsIndicator, colon, comment, ih h]

theorem isPrintable_of_isDigit {c : Char} (digit : c.isDigit = true) : isPrintable c = true := by
  simp only [Char.isDigit, Bool.and_eq_true, decide_eq_true_eq, ge_iff_le,
    UInt32.le_iff_toNat_le] at digit
  have low : 48 ≤ c.toNat := digit.1
  have high : c.toNat ≤ 57 := digit.2
  simp only [isPrintable, Bool.or_eq_true, Bool.and_eq_true, decide_eq_true_eq]
  omega

theorem startsIndicator_of_isDigit {cs : List Char} (digits : ∀ c ∈ cs, c.isDigit = true) :
    startsIndicator cs = false := by
  cases cs with
  | nil => rfl
  | cons c cs =>
    have digit := digits c List.mem_cons_self
    have marks : ∀ d ∈ ['#', ',', '[', ']', '{', '}', '&', '*', '!', '|', '>', '\'', '"', '%', '@',
        '`', '?', ':', '-'], d.isDigit = false := by simp
    have ne {d : Char} (mem : d ∈ ['#', ',', '[', ']', '{', '}', '&', '*', '!', '|', '>', '\'', '"',
        '%', '@', '`', '?', ':', '-']) : c ≠ d := by
      rintro rfl
      rw [marks c mem] at digit
      cases digit
    simp [startsIndicator, ne]

theorem plainFrom_of_isDigit {cs : List Char} (digits : ∀ c ∈ cs, c.isDigit = true) :
    PlainFrom cs := by
  have other {c d : Char} (mem : c ∈ cs) (h : d.isDigit = false) : c ≠ d := by
    rintro rfl
    rw [digits c mem] at h
    cases h
  have head {c : Char} (h : c.isDigit = false) : cs.head? ≠ some c := fun start =>
    other (List.mem_of_head? start) h rfl
  refine ⟨⟨head rfl, head rfl, fun colon => absurd colon (head rfl)⟩, ?_, ?_, ?_, ?_⟩
  · exact holdsIndicator_eq_false fun c mem => ⟨other mem rfl, other mem rfl⟩
  · exact fun c mem => isPrintable_of_isDigit (digits c mem)
  · intro c mem
    simp [isBreak, other mem (d := '\n') rfl, other mem (d := '\r') rfl,
      other mem (d := '\x85') rfl, other mem (d := '\u2028') rfl, other mem (d := '\u2029') rfl]
  · exact fun last => other (List.mem_of_getLast? last) rfl rfl

end Plain

/-! ### Quoted scalars -/

section Quoted

variable {single : Bool}

def quoteMark (single : Bool) : Char := if single then '\'' else '"'

def EndsRun (single : Bool) (cs : List Char) : Prop :=
  startsBlank cs = true ∨ ∃ rest, cs = quoteMark single :: rest ∧ rest.head? ≠ some '\''

theorem quotedRun_end {fuel : Nat} {acc : List Char} {p : Place} (ends : EndsRun single p.rest) :
    quotedRun single (fuel + 1) acc p = some (acc.reverse, false, p) := by
  cases start : p.rest with
  | nil => simp [quotedRun, start]
  | cons c cs =>
    rcases ends with blank | ⟨rest, close, noQuote⟩
    · rw [start] at blank
      simp only [startsBlank] at blank
      simp only [quotedRun, start, blank, if_true]
    · rw [start] at close
      obtain ⟨rfl, rfl⟩ := List.cons.inj close
      cases single
      · simp [quotedRun, start, quoteMark, isBlank, isBreak]
      · simp [quotedRun, start, quoteMark, isBlank, isBreak, noQuote]

structure ReadsChar (single : Bool) (write : Char → List Char) (c : Char) : Prop where
  written : write c ≠ []
  reads : ∀ (rest acc : List Char) (fuel index line column : Nat),
    quotedRun single (fuel + 1) acc ⟨write c ++ rest, index, line, column⟩ =
      quotedRun single fuel (c :: acc)
        ⟨rest, index + (write c).length, line, column + (write c).length⟩

section Words

variable {write : Char → List Char} {w after : List Char} {fuel index line column : Nat}
  {acc : List Char}

theorem length_le_flatMap (written : ∀ c ∈ w, write c ≠ []) :
    w.length ≤ (w.flatMap write).length := by
  induction w with
  | nil => exact Nat.le_refl 0
  | cons c w ih =>
    obtain ⟨first, later⟩ := List.forall_mem_cons.mp written
    have size := List.length_pos_iff.mpr first
    have rest := ih later
    simp only [List.length_cons, List.flatMap_cons, List.length_append]
    omega

theorem quotedRun_word (reads : ∀ c ∈ w, ReadsChar single write c) (ends : EndsRun single after)
    (enough : w.length < fuel) :
    quotedRun single fuel acc ⟨w.flatMap write ++ after, index, line, column⟩ =
      some (acc.reverse ++ w, false, ⟨after, index + (w.flatMap write).length, line,
        column + (w.flatMap write).length⟩) := by
  induction w generalizing fuel index column acc with
  | nil =>
    obtain ⟨fuel, rfl⟩ : ∃ k, fuel = k + 1 := ⟨fuel - 1, by omega⟩
    simpa using quotedRun_end (p := ⟨after, index, line, column⟩) ends
  | cons c w ih =>
    obtain ⟨first, later⟩ := List.forall_mem_cons.mp reads
    obtain ⟨fuel, rfl⟩ : ∃ k, fuel = k + 1 := ⟨fuel - 1, by omega⟩
    rw [List.flatMap_cons, List.append_assoc, first.reads, ih later (by simpa using enough)]
    simp [Nat.add_assoc]

theorem readQuoted_word (reads : ∀ c ∈ w, ReadsChar single write c) (ends : EndsRun single after)
    (more : after ≠ []) (inside : 0 < column) :
    readQuoted single (fuel + 1) acc ⟨w.flatMap write ++ after, index, line, column⟩ =
      let behind : Place := ⟨after, index + (w.flatMap write).length, line,
        column + (w.flatMap write).length⟩
      if after.head? = some (quoteMark single) then some (acc ++ w, behind.advance 1)
      else (Gap.read 0 (after.length + 1) .none behind).bind fun (g, p) =>
        readQuoted single fuel (acc ++ w ++ g.text) p := by
  have noMarker : Place.atMarker ⟨w.flatMap write ++ after, index, line, column⟩ = false := by
    simp [Place.atMarker, Nat.ne_of_gt inside]
  have notEmpty : (w.flatMap write ++ after).isEmpty = false := by simp [more]
  have enough : w.length < (w.flatMap write ++ after).length + 1 := by
    have size := length_le_flatMap fun c mem => (reads c mem).written
    simp only [List.length_append]
    omega
  have run : quotedRun single ((w.flatMap write ++ after).length + 1) []
      ⟨w.flatMap write ++ after, index, line, column⟩ = _ := quotedRun_word reads ends enough
  simp only [readQuoted, noMarker, notEmpty, run, Gap.none, quoteMark]
  cases gap : Gap.read 0 (after.length + 1) ⟨false, [], [], []⟩ ⟨after,
    index + (w.flatMap write).length, line, column + (w.flatMap write).length⟩ <;> simp

theorem readQuoted_last (reads : ∀ c ∈ w, ReadsChar single write c)
    (behind : after.head? ≠ some '\'') (inside : 0 < column) :
    readQuoted single (fuel + 1) acc
        ⟨w.flatMap write ++ quoteMark single :: after, index, line, column⟩ =
      some (acc ++ w, ⟨after, index + (w.flatMap write).length + 1, line,
        column + (w.flatMap write).length + 1⟩) := by
  have close : EndsRun single (quoteMark single :: after) := .inr ⟨after, rfl, behind⟩
  rw [readQuoted_word reads close (by simp) inside]
  simp

theorem readQuoted_spaces (reads : ∀ c ∈ w, ReadsChar single write c) {n : Nat}
    (ends : EndsGap after) (inside : 0 < column) :
    readQuoted single (fuel + 1) acc
        ⟨w.flatMap write ++ (List.replicate (n + 1) ' ' ++ after), index, line, column⟩ =
      readQuoted single fuel (acc ++ w ++ List.replicate (n + 1) ' ')
        ⟨after, index + (w.flatMap write).length + (n + 1), line,
          column + (w.flatMap write).length + (n + 1)⟩ := by
  have blank : EndsRun single (List.replicate (n + 1) ' ' ++ after) := .inl rfl
  have noQuote : (List.replicate (n + 1) ' ' ++ after).head? ≠ some (quoteMark single) := by
    cases single <;> simp [List.replicate_succ, quoteMark]
  rw [readQuoted_word reads blank (by simp) inside]
  simp only [noQuote, if_false, Gap.none]
  rw [Gap.read_spaces ends (by rw [List.length_append, List.length_replicate]; omega)]
  rfl

theorem readQuoted_breaks (reads : ∀ c ∈ w, ReadsChar single write c) {b : Char} {bs : List Char}
    {n : Nat} (breaks : ∀ c ∈ b :: bs, IsNewline c) (ends : EndsGap after) (inside : 0 < column) :
    readQuoted single (fuel + 1) acc
        ⟨w.flatMap write ++ (b :: bs ++ (indentation n ++ after)), index, line, column⟩ =
      readQuoted single fuel (acc ++ w ++ Gap.text ⟨true, [], [b], bs⟩)
        ⟨after, index + (w.flatMap write).length + 1 + (bs.length + n), line + 1 + bs.length,
          n⟩ := by
  obtain ⟨newline, -⟩ := List.forall_mem_cons.mp breaks
  have blank : EndsRun single (b :: bs ++ (indentation n ++ after)) :=
    .inl (by simp [startsBlank, newline.isBreak])
  have noQuote : (b :: bs ++ (indentation n ++ after)).head? ≠ some (quoteMark single) := by
    rcases newline with rfl | rfl | rfl <;> cases single <;> simp [quoteMark]
  rw [readQuoted_word reads blank (by simp) inside]
  simp only [noQuote, if_false, Gap.none]
  have enough : bs.length + n + 1 < (b :: bs ++ (indentation n ++ after)).length + 1 := by
    simp only [List.length_append, List.length_cons, length_indentation]
    omega
  rw [Gap.read_breaks breaks ends enough]
  rfl

end Words

/-! #### Single quotes -/

def singleQuotedChar (c : Char) : List Char := if c == '\'' then ['\'', '\''] else [c]

theorem readsChar_single {c : Char} (ink : IsInk c) : ReadsChar true singleQuotedChar c := by
  obtain ⟨noBlank, noBreak⟩ := ink
  refine ⟨by unfold singleQuotedChar; split <;> simp, ?_⟩
  intro rest acc fuel index line column
  cases quote : c == '\'' with
  | true =>
    obtain rfl : c = '\'' := by simpa using quote
    simp [quotedRun, singleQuotedChar, isBlank, isBreak, Place.advance]
  | false => simp [quotedRun, singleQuotedChar, noBlank, noBreak, quote]

theorem singleQuotedBody_word {n : Nat} {w : List Char} (inLine : ∀ c ∈ w, isBreak c = false)
    (cs : List Char) :
    singleQuotedBody n false (w ++ cs) =
      w.flatMap singleQuotedChar ++ singleQuotedBody n false cs := by
  induction w with
  | nil => rfl
  | cons c w ih =>
    obtain ⟨first, later⟩ := List.forall_mem_cons.mp inLine
    simp [singleQuotedBody, first, ih later, singleQuotedChar]

theorem singleQuotedBody_spaces {n k : Nat} {cs : List Char} :
    singleQuotedBody n false (List.replicate k ' ' ++ cs) =
      List.replicate k ' ' ++ singleQuotedBody n false cs := by
  induction k with
  | zero => rfl
  | succ k ih =>
    have inLine : isBreak ' ' = false := rfl
    simp [List.replicate_succ, singleQuotedBody, inLine, ih]

theorem length_le_singleQuotedBody {n : Nat} (broken : Bool) (cs : List Char) :
    cs.length ≤ (singleQuotedBody n broken cs).length := by
  induction cs generalizing broken with
  | nil => exact Nat.zero_le _
  | cons c cs ih =>
    have later := ih true
    have inLine := ih false
    unfold singleQuotedBody
    split
    · split <;> simp <;> omega
    · split <;> split <;> simp <;> omega

theorem singleQuotedBody_later {n : Nat} {bs cs : List Char} (breaks : ∀ c ∈ bs, isBreak c = true)
    (behind : ∀ c ∈ cs.head?, isBreak c = false) :
    singleQuotedBody n true (bs ++ cs) = bs ++ (indentation n ++ singleQuotedBody n false cs) := by
  induction bs with
  | nil =>
    cases cs with
    | nil => simp [singleQuotedBody]
    | cons c cs => simp [singleQuotedBody, behind c rfl]
  | cons b bs ih =>
    obtain ⟨first, later⟩ := List.forall_mem_cons.mp breaks
    simp [singleQuotedBody, first, ih later]

/-- The gap that some line breaks are written as: the first line feed is doubled. -/
def writtenBreaks (b : Char) (bs : List Char) : List Char :=
  if b = '\n' then '\n' :: b :: bs else b :: bs

theorem singleQuotedBody_breaks {n : Nat} {b : Char} {bs cs : List Char}
    (breaks : ∀ c ∈ b :: bs, isBreak c = true) (behind : ∀ c ∈ cs.head?, isBreak c = false) :
    singleQuotedBody n false (b :: bs ++ cs) =
      writtenBreaks b bs ++ (indentation n ++ singleQuotedBody n false cs) := by
  obtain ⟨first, later⟩ := List.forall_mem_cons.mp breaks
  have rest := singleQuotedBody_later (n := n) later behind
  by_cases feed : b = '\n'
  · subst feed
    simp [singleQuotedBody, isBreak, rest, writtenBreaks]
  · simp [singleQuotedBody, first, rest, writtenBreaks, feed]

theorem anyNeighbours_right {p : Char → Char → Bool} {cs ds : List Char}
    (h : anyNeighbours p (cs ++ ds) = false) : anyNeighbours p ds = false := by
  induction cs with
  | nil => exact h
  | cons c cs ih =>
    apply ih
    cases rest : cs ++ ds with
    | nil => rfl
    | cons d ds =>
      rw [List.cons_append, rest] at h
      simp only [anyNeighbours, Bool.or_eq_false_iff] at h
      exact h.2

theorem anyNeighbours_left {p : Char → Char → Bool} {cs ds : List Char}
    (h : anyNeighbours p (cs ++ ds) = false) : anyNeighbours p cs = false := by
  induction cs with
  | nil => rfl
  | cons c cs ih =>
    cases cs with
    | nil => rfl
    | cons d cs =>
      simp only [List.cons_append, anyNeighbours, Bool.or_eq_false_iff] at h ⊢
      exact ⟨h.1, ih h.2⟩

/-- No space stands beside a line break in a text with single quotes. -/
theorem gap_uniform {gap : List Char} (blank : ∀ c ∈ gap, (isBlank c || isBreak c) = true)
    (printed : ∀ c ∈ gap, isPrintable c = true) (before : spaceThenBreak gap = false)
    (behind : breakThenSpace gap = false) :
    (∀ c ∈ gap, c = ' ') ∨ ∀ c ∈ gap, IsNewline c := by
  have kinds {c : Char} (mem : c ∈ gap) : c = ' ' ∨ IsNewline c := by
    rcases Bool.or_eq_true_iff.mp (blank c mem) with blank | ends
    · exact .inl (eq_space_of_isBlank (printed c mem) blank)
    · exact .inr (isNewline_of_isBreak (printed c mem) ends)
  induction gap with
  | nil => exact .inl (by simp)
  | cons a gap ih =>
    obtain ⟨-, blankRest⟩ := List.forall_mem_cons.mp blank
    obtain ⟨-, printedRest⟩ := List.forall_mem_cons.mp printed
    cases gap with
    | nil =>
      rcases kinds List.mem_cons_self with space | newline
      · exact .inl (by simpa using space)
      · exact .inr (by simpa using newline)
    | cons b gap =>
      simp only [spaceThenBreak, breakThenSpace, anyNeighbours, Bool.or_eq_false_iff,
        Bool.and_eq_false_iff, beq_eq_false_iff_ne] at before behind
      rcases ih blankRest printedRest before.2 behind.2
          (fun mem => kinds (List.mem_cons_of_mem _ mem)) with spaces | newlines
      · rcases kinds List.mem_cons_self with space | newline
        · exact .inl (List.forall_mem_cons.mpr ⟨space, spaces⟩)
        · have space := spaces b List.mem_cons_self
          simp [newline.isBreak, space] at behind
      · rcases kinds List.mem_cons_self with space | newline
        · have newline := newlines b List.mem_cons_self
          simp [newline.isBreak, space] at before
        · exact .inr (List.forall_mem_cons.mpr ⟨newline, newlines⟩)

theorem writtenBreaks_gap {b : Char} {bs : List Char} (breaks : ∀ c ∈ b :: bs, IsNewline c) :
    ∃ first later, writtenBreaks b bs = first :: later ∧ (∀ c ∈ first :: later, IsNewline c) ∧
      Gap.text ⟨true, [], [first], later⟩ = b :: bs := by
  by_cases feed : b = '\n'
  · refine ⟨'\n', b :: bs, by simp [writtenBreaks, feed], ?_, by simp [Gap.text]⟩
    exact List.forall_mem_cons.mpr ⟨.inl rfl, breaks⟩
  · exact ⟨b, bs, by simp [writtenBreaks, feed], breaks, by simp [Gap.text, feed]⟩

theorem endsGap_singleQuotedBody {n : Nat} {cs after : List Char} (behind : EndsGap cs) :
    EndsGap (singleQuotedBody n false cs ++ '\'' :: after) := by
  intro c start
  cases cs with
  | nil =>
    obtain rfl : '\'' = c := by simpa [singleQuotedBody] using start
    exact ⟨rfl, rfl⟩
  | cons d cs =>
    have ink := behind d rfl
    simp only [singleQuotedBody, ink.2] at start
    cases quote : d == '\'' with
    | true =>
      obtain rfl : '\'' = c := by simpa [quote] using start
      exact ⟨rfl, rfl⟩
    | false =>
      obtain rfl : d = c := by simpa [quote] using start
      exact ink

theorem readQuoted_singleQuotedBody {indent : Nat} (indented : 0 < indent) {after : List Char}
    (behind : after.head? ≠ some '\'') {cs : List Char} (printed : ∀ c ∈ cs, isPrintable c = true)
    (noSpaceBefore : spaceThenBreak cs = false) (noSpaceBehind : breakThenSpace cs = false)
    {fuel index line column : Nat} {acc : List Char} (inside : 0 < column)
    (enough : cs.length < fuel) :
    ∃ index' line' column', line ≤ line' ∧ readQuoted true fuel acc
        ⟨singleQuotedBody indent false cs ++ '\'' :: after, index, line, column⟩ =
      some (acc ++ cs, ⟨after, index', line', column'⟩) := by
  induction cs using words_induction fun c => isBlank c || isBreak c
    generalizing fuel index line column acc with
  | word w inWord =>
    obtain ⟨fuel, rfl⟩ : ∃ k, fuel = k + 1 := ⟨fuel - 1, by omega⟩
    have ink : ∀ c ∈ w, IsInk c := fun c mem => Bool.or_eq_false_iff.mp (inWord c mem)
    have body : singleQuotedBody indent false w = w.flatMap singleQuotedChar := by
      simpa [singleQuotedBody] using
        singleQuotedBody_word (n := indent) (fun c mem => (ink c mem).2) []
    have reads : ∀ c ∈ w, ReadsChar true singleQuotedChar c := fun c mem =>
      readsChar_single (ink c mem)
    rw [body]
    exact ⟨_, _, _, Nat.le_refl _, readQuoted_last reads behind inside⟩
  | gap w gap cs inWord inGap some nextInk ih =>
    obtain ⟨fuel, rfl⟩ : ∃ k, fuel = k + 1 := ⟨fuel - 1, by omega⟩
    have ink : ∀ c ∈ w, IsInk c := fun c mem => Bool.or_eq_false_iff.mp (inWord c mem)
    have printedGap : ∀ c ∈ gap, isPrintable c = true := fun c mem => printed c (by simp [mem])
    have printedRest : ∀ c ∈ cs, isPrintable c = true := fun c mem => printed c (by simp [mem])
    have reads : ∀ c ∈ w, ReadsChar true singleQuotedChar c := fun c mem =>
      readsChar_single (ink c mem)
    have ends : EndsGap (singleQuotedBody indent false cs ++ '\'' :: after) :=
      endsGap_singleQuotedBody fun c start => Bool.or_eq_false_iff.mp (nextInk c start)
    have before := anyNeighbours_right noSpaceBefore
    have behindBreak := anyNeighbours_right noSpaceBehind
    have read := @ih printedRest (anyNeighbours_right before) (anyNeighbours_right behindBreak)
    have shorter : cs.length < fuel := by
      have size := List.length_pos_iff.mpr some
      simp only [List.length_append] at enough
      omega
    have body : ∀ tail, singleQuotedBody indent false (w ++ tail) =
        w.flatMap singleQuotedChar ++ singleQuotedBody indent false tail :=
      singleQuotedBody_word fun c mem => (ink c mem).2
    -- spaces are printed as they are, and of line breaks the first may be doubled
    rcases gap_uniform inGap printedGap (anyNeighbours_left before)
        (anyNeighbours_left behindBreak) with spaces | newlines
    · obtain ⟨n, rfl⟩ := exists_spaces some spaces
      obtain ⟨index', line', column', low, read⟩ := @read fuel
        (index + (w.flatMap singleQuotedChar).length + (n + 1)) line
        (column + (w.flatMap singleQuotedChar).length + (n + 1))
        (acc ++ w ++ List.replicate (n + 1) ' ') (by omega) shorter
      refine ⟨index', line', column', low, ?_⟩
      rw [body, singleQuotedBody_spaces, List.append_assoc, List.append_assoc,
        readQuoted_spaces reads ends inside, read]
      simp
    · obtain ⟨b, bs, rfl⟩ := List.exists_cons_of_ne_nil some
      obtain ⟨first, later, written, breaks, text⟩ := writtenBreaks_gap newlines
      have broken : singleQuotedBody indent false (b :: bs ++ cs) = _ :=
        singleQuotedBody_breaks (fun c mem => (newlines c mem).isBreak) fun c start =>
          (Bool.or_eq_false_iff.mp (nextInk c start)).2
      obtain ⟨index', line', column', low, read⟩ := @read fuel
        (index + (w.flatMap singleQuotedChar).length + 1 + (later.length + indent))
        (line + 1 + later.length) indent (acc ++ w ++ (b :: bs)) indented shorter
      refine ⟨index', line', column', by omega, ?_⟩
      rw [body, broken, written, List.append_assoc, List.append_assoc, List.append_assoc,
        readQuoted_breaks reads breaks ends inside, text, read]
      simp

/-! #### Double quotes -/

structure Escapes (body : List Char) (c : Char) : Prop where
  written : body ≠ []
  inLine : body.head?.any isBreak = false
  read : ∀ rest, readEscape (body ++ rest) = some (c, body.length)

theorem escapes_letter {e c : Char} (inLine : isBreak e = false) (h : simpleEscape? e = some c) :
    Escapes [e] c := ⟨by simp, by simp [inLine], fun rest => by simp [readEscape, h]⟩

theorem escapes_hexDigits {e c : Char} {width : Nat} (inLine : isBreak e = false)
    (noLetter : simpleEscape? e = none) (wide : escapeWidth? e = some width) (some : 0 < width)
    (small : c.toNat < 16 ^ width) : Escapes (e :: hexDigits width c.toNat) c := by
  have size : (hexDigits width c.toNat).length = width := length_hexDigits some small
  refine ⟨by simp, by simp [inLine], fun rest => ?_⟩
  have digits : (hexDigits width c.toNat ++ rest).take width = hexDigits width c.toNat := by
    rw [List.take_append_of_le_length (by omega), List.take_of_length_le (by omega)]
  have hex : (hexDigits width c.toNat).all (Unicode.hexDigit? · |>.isSome) = true :=
    List.all_eq_true.mpr isSome_hexDigit?_hexDigits
  have valid : c.toNat.isValidChar := c.valid
  simp [readEscape, noLetter, wide, digits, size, hex, hexValue_hexDigits, valid]

theorem escapedChar_cases (c : Char) :
    (escapedChar c = [c] ∧ isBreak c = false ∧ c ≠ '"' ∧ c ≠ '\\' ∧ isPrintable c = true) ∨
      ∃ body, escapedChar c = '\\' :: body ∧ Escapes body c := by
  unfold escapedChar
  split
  · rename_i direct
    simp only [Bool.and_eq_true, Bool.not_eq_true', bne_iff_ne] at direct
    obtain ⟨⟨⟨printed, inLine⟩, quote⟩, backslash⟩ := direct
    exact .inl ⟨rfl, inLine, quote, backslash, printed⟩
  · refine .inr ⟨_, rfl, ?_⟩
    split
    all_goals try exact escapes_letter rfl rfl
    simp only
    split
    · exact escapes_hexDigits rfl rfl rfl (by decide) (by omega)
    · split
      · exact escapes_hexDigits rfl rfl rfl (by decide) (by omega)
      · have small : c.toNat < 16 ^ 8 := Nat.lt_of_lt_of_le c.val.toNat_lt (by decide)
        exact escapes_hexDigits rfl rfl rfl (by decide) small

theorem readsChar_double {c : Char} (space : c ≠ ' ') : ReadsChar false escapedChar c := by
  rcases escapedChar_cases c with ⟨direct, inLine, quote, backslash, printed⟩ | ⟨body, escape, h⟩
  · refine ⟨by simp [direct], ?_⟩
    intro rest acc fuel index line column
    have noBlank := isBlank_of_ne_space printed space
    simp [quotedRun, direct, noBlank, inLine, quote, backslash]
  · refine ⟨by simp [escape], ?_⟩
    intro rest acc fuel index line column
    have inLine : (body ++ rest).head?.any isBreak = false := by
      obtain ⟨e, body, rfl⟩ := List.exists_cons_of_ne_nil h.written
      exact h.inLine
    have ink : (isBlank '\\' || isBreak '\\') = false := rfl
    have close : ('\\' == '"') = false := rfl
    have behind := Place.advance_append ('\\' :: body) rest index line column
    simp only [List.cons_append, List.length_cons] at behind
    simp only [escape, List.cons_append, List.length_cons, quotedRun, ink, close, beq_self_eq_true,
      inLine, h.read, behind, Bool.false_eq_true, if_false, if_true]

theorem escapedChar_ne_nil (c : Char) : escapedChar c ≠ [] := by
  rcases escapedChar_cases c with ⟨direct, -⟩ | ⟨body, escape, -⟩
  · simp [direct]
  · simp [escape]

theorem flatMap_escapedChar_spaces (n : Nat) :
    (List.replicate n ' ').flatMap escapedChar = List.replicate n ' ' := by
  induction n with
  | zero => rfl
  | succ n ih =>
    have space : escapedChar ' ' = [' '] := by decide
    rw [List.replicate_succ, List.flatMap_cons, ih, space, List.singleton_append]

theorem endsGap_escaped {cs after : List Char} (behind : cs.head? ≠ some ' ') :
    EndsGap (cs.flatMap escapedChar ++ '"' :: after) := by
  intro c start
  cases cs with
  | nil =>
    obtain rfl : '"' = c := by simpa using start
    exact ⟨rfl, rfl⟩
  | cons d cs =>
    rcases escapedChar_cases d with ⟨direct, inLine, -, -, printed⟩ | ⟨body, escape, -⟩
    · obtain rfl : d = c := by simpa [direct] using start
      exact ⟨isBlank_of_ne_space printed (by simpa using behind), inLine⟩
    · obtain rfl : '\\' = c := by simpa [escape] using start
      exact ⟨rfl, rfl⟩

theorem readQuoted_escaped {after : List Char} (behind : after.head? ≠ some '\'') {cs : List Char}
    {fuel index line column : Nat} {acc : List Char} (inside : 0 < column)
    (enough : cs.length < fuel) :
    ∃ index' column', readQuoted false fuel acc
        ⟨cs.flatMap escapedChar ++ '"' :: after, index, line, column⟩ =
      some (acc ++ cs, ⟨after, index', line, column'⟩) := by
  induction cs using words_induction (· == ' ')
    generalizing fuel index column acc with
  | word w inWord =>
    obtain ⟨fuel, rfl⟩ : ∃ k, fuel = k + 1 := ⟨fuel - 1, by omega⟩
    exact ⟨_, _, readQuoted_last
      (fun c mem => readsChar_double (by simpa using inWord c mem)) behind inside⟩
  | gap w gap cs inWord inGap some next ih =>
    obtain ⟨fuel, rfl⟩ : ∃ k, fuel = k + 1 := ⟨fuel - 1, by omega⟩
    obtain ⟨n, rfl⟩ := exists_spaces some fun c mem => by simpa using inGap c mem
    have reads : ∀ c ∈ w, ReadsChar false escapedChar c := fun c mem =>
      readsChar_double (by simpa using inWord c mem)
    have ends : EndsGap (cs.flatMap escapedChar ++ '"' :: after) :=
      endsGap_escaped fun start => by simpa using next ' ' start
    have shorter : cs.length < fuel := by
      simp only [List.length_append, List.length_replicate] at enough
      omega
    obtain ⟨index', column', read⟩ := @ih fuel
      (index + (w.flatMap escapedChar).length + (n + 1))
      (column + (w.flatMap escapedChar).length + (n + 1))
      (acc ++ w ++ List.replicate (n + 1) ' ') (by omega) shorter
    refine ⟨index', column', ?_⟩
    rw [List.flatMap_append, List.flatMap_append, flatMap_escapedChar_spaces, List.append_assoc,
      List.append_assoc, readQuoted_spaces reads ends inside, read]
    simp

end Quoted

end Ligature.Yaml
