import Ligature.Proofs.Gaps

/-!
# Literal blocks read back

A text with lines is written as its lines behind their indentation. Empty lines at its front, its
lines, and the breaks at its end are read back one after the other; the header says what becomes of
the breaks.
-/
namespace Ligature.Yaml

variable {n next fuel widest index line column : Nat} {rest : List Char}

/-! ### Empty lines and indentation -/

theorem takeWhile_indentation (k : Nat) (tail : List Char) :
    (indentation k ++ tail).takeWhile (· == ' ') = indentation k ++ tail.takeWhile (· == ' ') := by
  apply List.takeWhile_append_of_pos
  intro c mem
  simp [List.eq_of_mem_replicate mem]

theorem readBlockBreaks_newline {b : Char} (newline : IsNewline b) {breaks tail : List Char} :
    readBlockBreaks (some n) (fuel + 1) breaks widest ⟨b :: tail, index, line, 0⟩ =
      readBlockBreaks (some n) fuel (breaks ++ [b]) widest ⟨tail, index + 1, line + 1, 0⟩ := by
  have space : (b == ' ') = false := by
    rcases newline with rfl | rfl | rfl <;> rfl
  have tab : (b == '\t') = false := by
    rcases newline with rfl | rfl | rfl <;> rfl
  simp [readBlockBreaks, space, tab, newline.isBreak, Place.takeBreak_newline newline,
    Place.advance]

theorem readBlockBreaks_newlines {bs : List Char} (newlines : ∀ c ∈ bs, IsNewline c)
    {breaks tail : List Char} :
    readBlockBreaks (some n) (bs.length + fuel) breaks widest ⟨bs ++ tail, index, line, 0⟩ =
      readBlockBreaks (some n) fuel (breaks ++ bs) widest
        ⟨tail, index + bs.length, line + bs.length, 0⟩ := by
  induction bs generalizing breaks index line with
  | nil => simp
  | cons b bs ih =>
    obtain ⟨newline, newlines⟩ := List.forall_mem_cons.mp newlines
    have size : (b :: bs).length + fuel = bs.length + fuel + 1 := by
      simp only [List.length_cons]
      omega
    rw [size, List.cons_append, readBlockBreaks_newline newline, ih newlines]
    simp [Nat.add_assoc, Nat.add_comm 1]

theorem readBlockBreaks_line {c : Char} (inLine : isBreak c = false) {breaks tail : List Char} :
    readBlockBreaks (some n) (fuel + 1) breaks widest
        ⟨indentation n ++ c :: tail, index, line, 0⟩ =
      some (breaks, max widest n, ⟨c :: tail, index + n, line, n⟩) := by
  have moved := Place.advance_append (indentation n) (c :: tail) index line 0
  simp only [length_indentation, Nat.zero_add] at moved
  simp [readBlockBreaks, takeWhile_indentation, length_indentation, moved, inLine]

theorem readBlockBreaks_end (ends : EndsGap rest) (shallow : next < n) {breaks : List Char} :
    readBlockBreaks (some n) (fuel + 1) breaks widest ⟨indentation next ++ rest, index, line, 0⟩ =
      some (breaks, max widest next, ⟨rest, index + next, line, next⟩) := by
  have moved := Place.advance_append (indentation next) rest index line 0
  simp only [length_indentation, Nat.zero_add] at moved
  have inked : rest.takeWhile (· == ' ') = [] := by
    cases rest with
    | nil => rfl
    | cons c rest => simp [(ends c rfl).ne_blank.1]
  have low : min next n = next := Nat.min_eq_left (Nat.le_of_lt shallow)
  simp only [readBlockBreaks, takeWhile_indentation, inked, List.append_nil, length_indentation,
    Nat.sub_zero, low, moved]
  cases rest with
  | nil => rfl
  | cons c rest =>
    have ink := ends c rfl
    simp [ink.ne_blank.2, ink.2]

theorem readBlockBreaks_toLine {bs : List Char} (newlines : ∀ b ∈ bs, IsNewline b) {c : Char}
    (inLine : isBreak c = false) {breaks tail : List Char} (enough : bs.length < fuel) :
    readBlockBreaks (some n) fuel breaks widest
        ⟨bs ++ (indentation n ++ c :: tail), index, line, 0⟩ =
      some (breaks ++ bs, max widest n,
        ⟨c :: tail, index + bs.length + n, line + bs.length, n⟩) := by
  obtain ⟨fuel, rfl⟩ : ∃ k, fuel = bs.length + (k + 1) := ⟨fuel - bs.length - 1, by omega⟩
  rw [readBlockBreaks_newlines newlines, readBlockBreaks_line inLine]

theorem readBlockBreaks_toEnd {bs : List Char} (newlines : ∀ b ∈ bs, IsNewline b)
    (ends : EndsGap rest) (shallow : next < n) {breaks : List Char} (enough : bs.length < fuel) :
    readBlockBreaks (some n) fuel breaks widest
        ⟨bs ++ (indentation next ++ rest), index, line, 0⟩ =
      some (breaks ++ bs, max widest next,
        ⟨rest, index + bs.length + next, line + bs.length, next⟩) := by
  obtain ⟨fuel, rfl⟩ : ∃ k, fuel = bs.length + (k + 1) := ⟨fuel - bs.length - 1, by omega⟩
  rw [readBlockBreaks_newlines newlines, readBlockBreaks_end ends shallow]

/-! ### Lines -/

theorem literalBody_word {w : List Char} (inLine : ∀ c ∈ w, isBreak c = false) (cs : List Char) :
    literalBody n false (w ++ cs) = w ++ literalBody n false cs := by
  induction w with
  | nil => rfl
  | cons c w ih =>
    obtain ⟨first, later⟩ := List.forall_mem_cons.mp inLine
    simp [literalBody, first, ih later]

theorem literalBody_later {bs : List Char} (breaks : ∀ c ∈ bs, isBreak c = true)
    (cs : List Char) :
    literalBody n true (bs ++ cs) = bs ++ literalBody n true cs := by
  induction bs with
  | nil => rfl
  | cons b bs ih =>
    obtain ⟨first, later⟩ := List.forall_mem_cons.mp breaks
    simp [literalBody, first, ih later]

theorem length_le_literalBody (broken : Bool) (cs : List Char) :
    cs.length ≤ (literalBody n broken cs).length := by
  induction cs generalizing broken with
  | nil => exact Nat.zero_le _
  | cons c cs ih =>
    have later := ih true
    have inLine := ih false
    unfold literalBody
    split
    · simpa using later
    · simp only [List.length_append, List.length_cons]
      omega

theorem literalBody_line {c : Char} {cs : List Char} (inLine : isBreak c = false) :
    literalBody n true (c :: cs) = indentation n ++ literalBody n false (c :: cs) := by
  simp [literalBody, inLine]

theorem literalBody_breaks {b : Char} {bs cs : List Char}
    (breaks : ∀ c ∈ b :: bs, isBreak c = true) :
    literalBody n false (b :: bs ++ cs) = b :: bs ++ literalBody n true cs := by
  obtain ⟨first, later⟩ := List.forall_mem_cons.mp breaks
  simp [literalBody, first, literalBody_later later]

/-- One line of a block: what comes before it goes before it, and its break is kept for later. -/
theorem readBlockLines_step {acc leading trailing w after : List Char} {b : Char} {blank : Bool}
    (written : w ≠ []) (inLine : ∀ c ∈ w, isBreak c = false) (newline : IsNewline b) :
    readBlockLines true n (fuel + 1) acc leading trailing blank
        ⟨w ++ b :: after, index, line, n⟩ =
      (readBlockBreaks (some n) (after.length + 1) [] 0
        ⟨after, index + w.length + 1, line + 1, 0⟩).bind fun (trailing', _, p) =>
          readBlockLines true n fuel (acc ++ leading ++ trailing ++ w) [b] trailing'
            ((w ++ b :: after).head?.any isBlank) p := by
  have taken : (w ++ b :: after).takeWhile (!isBreak ·) = w := by
    rw [List.takeWhile_append_of_pos fun c mem => by simp [inLine c mem]]
    simp [newline.isBreak]
  have span : Place.span ⟨w ++ b :: after, index, line, n⟩ (!isBreak ·) =
      (w, ⟨b :: after, index + w.length, line, n + w.length⟩) := by
    rw [Place.span, taken, Place.advance_append]
  simp only [readBlockLines, span, Place.takeBreak_newline newline]
  cases breaks : readBlockBreaks (some n) (after.length + 1) [] 0
    ⟨after, index + w.length + 1, line + 1, 0⟩ <;> simp [written]

/-- The lines of a block from its first line on: the breaks at their end are kept apart. -/
theorem readBlockLines_text {b : Char} {bs : List Char} (newlines : ∀ c ∈ b :: bs, IsNewline c)
    (ends : EndsGap rest) (shallow : next < n) {cs : List Char} (written : cs ≠ [])
    (printed : ∀ c ∈ cs, isPrintable c = true) (first : ∀ c ∈ cs.head?, isBreak c = false)
    (last : ∀ c ∈ cs.getLast?, isBreak c = false) {acc leading trailing : List Char} {blank : Bool}
    (enough : cs.length < fuel) :
    ∃ index' line', line < line' ∧ readBlockLines true n fuel acc leading trailing blank
        ⟨literalBody n false cs ++ (b :: bs ++ (indentation next ++ rest)), index, line, n⟩ =
      some (acc ++ leading ++ trailing ++ cs, [b], bs, ⟨rest, index', line', next⟩) := by
  obtain ⟨newline, later⟩ := List.forall_mem_cons.mp newlines
  induction cs using words_induction isBreak
    generalizing fuel index line acc leading trailing blank with
  | word w inLine =>
    -- one step reads the last line with the breaks behind it, the next one stops at the margin
    obtain ⟨fuel, rfl⟩ : ∃ k, fuel = k + 1 := ⟨fuel - 1, by omega⟩
    have body : literalBody n false w = w := by
      simpa [literalBody] using literalBody_word (n := n) inLine []
    have size := List.length_pos_iff.mpr written
    obtain ⟨fuel, rfl⟩ : ∃ k, fuel = k + 1 := ⟨fuel - 1, by omega⟩
    refine ⟨index + w.length + 1 + bs.length + next, line + 1 + bs.length, by omega, ?_⟩
    rw [body, List.cons_append, readBlockLines_step written inLine newline,
      readBlockBreaks_toEnd later ends shallow (by rw [List.length_append]; omega)]
    simp [readBlockLines, Nat.ne_of_lt shallow]
  | gap w gap cs inLine inGap some behind ih =>
    obtain ⟨fuel, rfl⟩ : ∃ k, fuel = k + 1 := ⟨fuel - 1, by omega⟩
    obtain ⟨g, gap, rfl⟩ := List.exists_cons_of_ne_nil some
    have gapLines : ∀ c ∈ g :: gap, IsNewline c := fun c mem =>
      isNewline_of_isBreak (printed c (by
        rw [List.mem_append, List.mem_append]; exact .inr (.inl mem))) (inGap c mem)
    obtain ⟨gapLine, gapLater⟩ := List.forall_mem_cons.mp gapLines
    have word : w ≠ [] := by
      rintro rfl
      have inLine := first g rfl
      rw [gapLine.isBreak] at inLine
      cases inLine
    have more : cs ≠ [] := by
      rintro rfl
      obtain ⟨c, end'⟩ : ∃ c, (g :: gap).getLast? = .some c := by simp [List.getLast?_cons]
      have inLine := last c (by simp [List.getLast?_append, end'])
      rw [inGap c (List.mem_of_getLast? end')] at inLine
      cases inLine
    have body : literalBody n false (w ++ (g :: gap ++ cs)) =
        w ++ g :: (gap ++ (indentation n ++ literalBody n false cs)) := by
      obtain ⟨c, cs, rfl⟩ := List.exists_cons_of_ne_nil more
      rw [literalBody_word inLine, literalBody_breaks inGap, literalBody_line (behind c rfl)]
      rfl
    have shorter : cs.length < fuel := by
      simp only [List.length_append, List.length_cons] at enough
      omega
    obtain ⟨index', line', low, read⟩ := @ih fuel (index + w.length + 1 + gap.length + n)
      (line + 1 + gap.length) more (fun c mem => printed c (by simp [mem])) behind
      (fun c mem => last c (by
        rw [List.getLast?_append, List.getLast?_append, Option.mem_def.mp mem]; rfl))
      (acc ++ leading ++ trailing ++ w) [g] gap
      ((w ++ g :: (gap ++ (indentation n ++ (literalBody n false cs ++
        (b :: bs ++ (indentation next ++ rest)))))).head?.any isBlank) shorter
    refine ⟨index', line', by omega, ?_⟩
    rw [body, List.append_assoc, List.cons_append, List.append_assoc, List.append_assoc,
      readBlockLines_step word inLine gapLine]
    obtain ⟨c, cs, rfl⟩ := List.exists_cons_of_ne_nil more
    have first : literalBody n false (c :: cs) = c :: literalBody n false cs := by
      simp [literalBody, behind c rfl]
    rw [first, List.cons_append] at read ⊢
    rw [readBlockBreaks_toLine gapLater (behind c rfl) (by rw [List.length_append]; omega)]
    simp only [Option.bind_some, List.nil_append, read]
    simp

/-! ### Headers -/

def hintMark (hint : Bool) : List Char := if hint then ['2'] else []

def chompMark : Chomping → List Char
  | .strip => ['-']
  | .clip => []
  | .keep => ['+']

theorem readBlockHeader_marks (hint : Bool) (chomp : Chomping) (body : List Char) :
    ∃ index', readBlockHeader
        ⟨hintMark hint ++ (chompMark chomp ++ '\n' :: body), index, line, column⟩ =
      some (chomp, if hint then some 2 else none, ⟨body, index', line + 1, 0⟩) := by
  cases hint <;> cases chomp <;> exact ⟨_, rfl⟩

def hidesIndentation (cs : List Char) : Bool := cs.head?.any fun c => c == ' ' || isBreak c

/-- What is to become of the breaks at the end of a text: one is kept anyway. -/
def chompingOf : List Char → Chomping
  | [] => .strip
  | [_] => .clip
  | _ => .keep

theorem literalHeader_keep {cs before : List Char} {b : Char} (reverse : cs.reverse = b :: before)
    (ends : isBreak b = true) (breaks : before.head?.all isBreak = true) :
    literalHeader cs = '|' :: (hintMark (hidesIndentation cs) ++ chompMark .keep) := by
  rw [literalHeader, reverse]
  simp only [ends, breaks, Bool.not_true, Bool.false_eq_true, if_false, if_true]
  rfl

theorem literalHeader_lines (front : List Char) {trail : List Char} {c : Char}
    (inLine : isBreak c = false) (breaks : ∀ b ∈ trail, isBreak b = true) :
    literalHeader (front ++ c :: trail) = '|' ::
      (hintMark (hidesIndentation (front ++ c :: trail)) ++ chompMark (chompingOf trail)) := by
  rcases trail with _ | ⟨a, _ | ⟨b, bs⟩⟩
  · simp [literalHeader, inLine, hintMark, hidesIndentation, chompMark, chompingOf]
  · have ends := breaks a List.mem_cons_self
    simp [literalHeader, inLine, ends, hintMark, hidesIndentation, chompMark, chompingOf]
  · obtain ⟨y, z, zs, reverse⟩ : ∃ y z zs, (a :: b :: bs).reverse = y :: z :: zs := by
      rcases reverse : (a :: b :: bs).reverse with _ | ⟨y, _ | ⟨z, zs⟩⟩
      · simp at reverse
      · simpa using congrArg List.length reverse
      · exact ⟨y, z, zs, rfl⟩
    have mem : ∀ x ∈ y :: z :: zs, isBreak x = true := fun x mem =>
      breaks x (List.mem_reverse.mp (reverse ▸ mem))
    have whole : (front ++ c :: a :: b :: bs).reverse = y :: z :: (zs ++ c :: front.reverse) := by
      rw [List.reverse_append, List.reverse_cons, reverse]
      simp
    exact literalHeader_keep whole (mem y (by simp)) (by simp [mem z])

/-! ### Blocks -/

theorem readBlockBreaks_visible {c : Char} (ink : IsInk c) {tail : List Char} :
    readBlockBreaks none (fuel + 1) [] 0 ⟨indentation n ++ c :: tail, index, line, 0⟩ =
      some ([], n, ⟨c :: tail, index + n, line, n⟩) := by
  have moved := Place.advance_append (indentation n) (c :: tail) index line 0
  simp only [length_indentation, Nat.zero_add] at moved
  obtain ⟨space, tab⟩ := ink.ne_blank
  simp [readBlockBreaks, takeWhile_indentation, length_indentation, moved, ink.2, space, tab]

theorem exists_lines (cs : List Char) : ∃ lead front trail, cs = lead ++ (front ++ trail) ∧
    (∀ c ∈ lead, isBreak c = true) ∧ (∀ c ∈ trail, isBreak c = true) ∧
    (∀ c ∈ front.head?, isBreak c = false) ∧ (∀ c ∈ front.getLast?, isBreak c = false) ∧
    (front = [] → trail = []) := by
  obtain ⟨lead, after, rfl, inLead, behind⟩ := exists_run isBreak cs
  obtain ⟨trail, front, reverse, inTrail, before⟩ := exists_run isBreak after.reverse
  have split : after = front.reverse ++ trail.reverse := by
    rw [← List.reverse_append, ← reverse, List.reverse_reverse]
  subst split
  refine ⟨lead, front.reverse, trail.reverse, rfl, inLead, ?_, ?_, ?_, ?_⟩
  · exact fun c mem => inTrail c (List.mem_reverse.mp mem)
  · intro c mem
    exact behind c (by rw [List.head?_append, Option.mem_def.mp mem]; rfl)
  · simpa [List.getLast?_reverse] using before
  · intro empty
    cases start : trail.reverse with
    | nil => rfl
    | cons c rest =>
      have inLine := behind c (by rw [empty, start]; rfl)
      rw [inTrail c (List.mem_reverse.mp (start ▸ List.mem_cons_self))] at inLine
      cases inLine

theorem literalBody_trail {broken : Bool} {cs bs : List Char}
    (breaks : ∀ c ∈ bs, isBreak c = true) :
    literalBody n broken (cs ++ bs) = literalBody n broken cs ++ bs := by
  induction cs generalizing broken with
  | nil =>
    cases bs with
    | nil => simp [literalBody]
    | cons b bs =>
      obtain ⟨first, later⟩ := List.forall_mem_cons.mp breaks
      have rest := literalBody_later (n := n) later []
      simp only [List.append_nil, literalBody] at rest
      simp [literalBody, first, rest]
  | cons c cs ih =>
    rw [List.cons_append]
    simp only [literalBody, ih]
    split <;> simp

theorem literalBody_concat (broken : Bool) (cs : List Char) (c : Char) :
    ∃ body, literalBody n broken (cs ++ [c]) = body ++ [c] := by
  induction cs generalizing broken with
  | nil =>
    rw [List.nil_append]
    simp only [literalBody]
    split
    · exact ⟨[], rfl⟩
    · exact ⟨_, rfl⟩
  | cons d cs ih =>
    rw [List.cons_append]
    simp only [literalBody]
    split
    · obtain ⟨body, eq⟩ := ih true
      exact ⟨d :: body, by rw [eq]; rfl⟩
    · obtain ⟨body, eq⟩ := ih false
      exact ⟨(if broken then indentation n else []) ++ d :: body, by rw [eq]; simp⟩

def closingBreaks : List Char → List Char
  | [] => ['\n']
  | bs => bs

theorem endLine_breaks (body : List Char) {bs : List Char} (some : bs ≠ [])
    (breaks : ∀ b ∈ bs, isBreak b = true) : endLine (body ++ bs) = body ++ bs := by
  have last : isBreak (bs.getLast some) = true := breaks _ (List.getLast_mem some)
  simp [endLine, List.getLast?_append, List.getLast?_eq_some_getLast some, last]

theorem endLine_trail (body : List Char) {bs : List Char} {c : Char} (inLine : isBreak c = false)
    (breaks : ∀ b ∈ bs, isBreak b = true) :
    endLine (body ++ [c] ++ bs) = body ++ [c] ++ closingBreaks bs := by
  cases bs with
  | nil => simp [endLine, inLine, closingBreaks]
  | cons b bs => exact endLine_breaks _ (by simp) breaks

theorem chomped_eq {front trail : List Char} {b : Char} {bs : List Char}
    (closing : closingBreaks trail = b :: bs) :
    (if chompingOf trail = .keep then
        (if chompingOf trail = .strip then front else front ++ [b]) ++ bs
      else if chompingOf trail = .strip then front else front ++ [b]) = front ++ trail := by
  match trail with
  | [] => simp [chompingOf]
  | [a] =>
    obtain ⟨rfl, rfl⟩ := List.cons.inj closing
    simp [chompingOf]
  | a :: c :: cs =>
    obtain ⟨rfl, rfl⟩ := List.cons.inj closing
    simp [chompingOf]

theorem literalHeader_empty {lead : List Char} (written : lead ≠ [])
    (breaks : ∀ c ∈ lead, isBreak c = true) :
    literalHeader lead = '|' :: (hintMark true ++ chompMark .keep) := by
  have hides : hidesIndentation lead = true := by
    obtain ⟨b, bs, rfl⟩ := List.exists_cons_of_ne_nil written
    simp [hidesIndentation, breaks b]
  match reverse : lead.reverse with
  | [] => exact absurd (List.reverse_eq_nil_iff.mp reverse) written
  | b :: before =>
    have mem : ∀ c ∈ b :: before, isBreak c = true := fun c mem =>
      breaks c (List.mem_reverse.mp (reverse ▸ mem))
    have kept : before.head?.all isBreak = true := by
      cases before with
      | nil => rfl
      | cons c before => exact mem c (by simp)
    rw [literalHeader_keep reverse (mem b List.mem_cons_self) kept, hides]

theorem readBlock_empty {parent : Nat} (ends : EndsGap rest) (shallow : next < parent + 2)
    {lead : List Char} (newlines : ∀ c ∈ lead, IsNewline c) :
    ∃ index' line', line < line' ∧
      readBlock true (some parent) ⟨hintMark true ++ (chompMark .keep ++
          '\n' :: (lead ++ (indentation next ++ rest))), index, line, column⟩ =
        some (lead, ⟨rest, index', line', next⟩) := by
  obtain ⟨index', header⟩ := @readBlockHeader_marks index line column true .keep
    (lead ++ (indentation next ++ rest))
  refine ⟨index' + lead.length + next, line + 1 + lead.length, by omega, ?_⟩
  simp only [readBlock, header, if_true, Option.map_some, Option.getD_some]
  rw [readBlockBreaks_toEnd newlines ends shallow (by rw [List.length_append]; omega)]
  simp [readBlockLines, Nat.ne_of_lt shallow]

variable (index line) in
/-- The empty lines at the front of a block, and how deep it is: by its hint, or as is seen. -/
theorem readBlockBreaks_front (parent : Nat) {lead : List Char} {c : Char} (tail : List Char)
    {hint : Bool} (leading : ∀ b ∈ lead, IsNewline b) (inLine : isBreak c = false)
    (shown : hint = false → lead = [] ∧ IsInk c) (enough : lead.length < fuel) :
    ∃ widest, readBlockBreaks ((if hint then some 2 else none).map fun n => parent + n) fuel [] 0
        ⟨lead ++ (indentation (parent + 2) ++ c :: tail), index, line, 0⟩ =
      some (lead, widest, ⟨c :: tail, index + lead.length + (parent + 2), line + lead.length,
        parent + 2⟩) ∧
      (((if hint then some 2 else none).map fun n => parent + n).getD
        (max widest (max (parent + 1) 1))) = parent + 2 := by
  cases hint with
  | true => exact ⟨max 0 (parent + 2), readBlockBreaks_toLine leading inLine enough, rfl⟩
  | false =>
    obtain ⟨rfl, ink⟩ := shown rfl
    obtain ⟨fuel, rfl⟩ : ∃ k, fuel = k + 1 := ⟨fuel - 1, by omega⟩
    refine ⟨parent + 2, readBlockBreaks_visible ink, ?_⟩
    simp only [Bool.false_eq_true, if_false, Option.map_none, Option.getD_none]
    omega

theorem readBlock_lines {parent : Nat} (ends : EndsGap rest) (shallow : next < parent + 2)
    {lead front : List Char} (leading : ∀ b ∈ lead, IsNewline b)
    (printed : ∀ c ∈ front, isPrintable c = true) (first : ∀ c ∈ front.head?, isBreak c = false)
    (last : ∀ c ∈ front.getLast?, isBreak c = false) (written : front ≠ []) {chomp : Chomping}
    {b : Char} {bs : List Char} (closing : ∀ c ∈ b :: bs, IsNewline c) {hint : Bool}
    (shown : hint = false → lead = [] ∧ ∀ c ∈ front.head?, IsInk c) :
    ∃ index' line', line < line' ∧
      readBlock true (some parent) ⟨hintMark hint ++ (chompMark chomp ++
          '\n' :: (lead ++ (indentation (parent + 2) ++ (literalBody (parent + 2) false front ++
            (b :: bs ++ (indentation next ++ rest)))))), index, line, column⟩ =
        some (if chomp = .keep then
            (if chomp = .strip then lead ++ front else lead ++ front ++ [b]) ++ bs
          else if chomp = .strip then lead ++ front else lead ++ front ++ [b],
          ⟨rest, index', line', next⟩) := by
  obtain ⟨c, f, rfl⟩ := List.exists_cons_of_ne_nil written
  have inLine := first c rfl
  have shown : hint = false → lead = [] ∧ IsInk c := fun visible =>
    ⟨(shown visible).1, (shown visible).2 c rfl⟩
  obtain ⟨tail, body⟩ : ∃ tail, literalBody (parent + 2) false (c :: f) ++
      (b :: bs ++ (indentation next ++ rest)) = c :: tail := by
    simp [literalBody, inLine]
  have size : (c :: f).length < (c :: tail).length + 1 := by
    have inLines := length_le_literalBody (n := parent + 2) false (c :: f)
    rw [← body, List.length_append]
    omega
  have enough : lead.length < (lead ++ (indentation (parent + 2) ++ c :: tail)).length + 1 := by
    rw [List.length_append]
    omega
  obtain ⟨index₁, header⟩ := @readBlockHeader_marks index line column hint chomp
    (lead ++ (indentation (parent + 2) ++ c :: tail))
  obtain ⟨widest, breaks, depth⟩ := readBlockBreaks_front index₁ (line + 1) parent tail
    leading inLine shown enough
  obtain ⟨index', line', low, lines⟩ := @readBlockLines_text (parent + 2) next _
    (index₁ + lead.length + (parent + 2)) (line + 1 + lead.length) rest b bs closing ends shallow
    (c :: f) written printed first last [] [] lead false size
  rw [body] at lines ⊢
  refine ⟨index', line', by omega, ?_⟩
  simp only [readBlock, header, breaks, Option.map_some, Option.getD_some, depth, lines]
  rfl

theorem hidesIndentation_append {lead front : List Char} (inLead : ∀ c ∈ lead, isBreak c = true)
    (printed : ∀ c ∈ front, isPrintable c = true)
    (shown : hidesIndentation (lead ++ front) = false) :
    lead = [] ∧ ∀ c ∈ front.head?, IsInk c := by
  cases lead with
  | cons b lead => simp [hidesIndentation, inLead b] at shown
  | nil =>
    refine ⟨rfl, fun c start => ?_⟩
    have start := Option.mem_def.mp start
    simp only [List.nil_append, hidesIndentation, start, Option.any_some, Bool.or_eq_false_iff,
      beq_eq_false_iff_ne] at shown
    exact ⟨isBlank_of_ne_space (printed c (List.mem_of_head? start)) shown.1, shown.2⟩

theorem endLine_literalBody {lead front trail : List Char} {c : Char}
    (inLead : ∀ c ∈ lead, isBreak c = true) (first : ∀ c ∈ front.head?, isBreak c = false)
    (inLine : isBreak c = false) (inTrail : ∀ c ∈ trail, isBreak c = true) :
    endLine (literalBody n true (lead ++ (front ++ [c] ++ trail))) =
      lead ++ (indentation n ++ (literalBody n false (front ++ [c]) ++ closingBreaks trail)) := by
  have indented : literalBody n true (front ++ [c]) =
      indentation n ++ literalBody n false (front ++ [c]) := by
    cases front with
    | nil => exact literalBody_line inLine
    | cons d front => exact literalBody_line (first d rfl)
  obtain ⟨body, concat⟩ := literalBody_concat (n := n) false front c
  rw [literalBody_later inLead, literalBody_trail inTrail, indented, concat]
  have ended := endLine_trail (lead ++ (indentation n ++ body)) inLine inTrail
  simpa using ended

/-- A literal block is read as the text it was printed for. -/
theorem readBlock_text {parent : Nat} (ends : EndsGap rest) (shallow : next < parent + 2)
    {cs : List Char} (written : cs ≠ []) (printed : ∀ c ∈ cs, isPrintable c = true) :
    ∃ marks, literalHeader cs = '|' :: marks ∧ ∃ index' line', line < line' ∧
      readBlock true (some parent) ⟨marks ++ '\n' :: (endLine (literalBody (parent + 2) true cs) ++
          (indentation next ++ rest)), index, line, column⟩ =
        some (cs, ⟨rest, index', line', next⟩) := by
  have newlines {bs : List Char} (inside : ∀ c ∈ bs, c ∈ cs) (breaks : ∀ c ∈ bs, isBreak c = true) :
      ∀ c ∈ bs, IsNewline c := fun c mem =>
    isNewline_of_isBreak (printed c (inside c mem)) (breaks c mem)
  obtain ⟨lead, front, trail, rfl, inLead, inTrail, first, last, whole⟩ := exists_lines cs
  have leading := newlines (by simp +contextual) inLead
  have trailing := newlines (by simp +contextual) inTrail
  rcases List.eq_nil_or_concat front with rfl | ⟨f, c, rfl⟩
  · obtain rfl := whole rfl
    simp only [List.append_nil] at written ⊢
    have body : endLine (literalBody (parent + 2) true lead) = lead := by
      have body := literalBody_later (n := parent + 2) inLead []
      simp only [List.append_nil, literalBody] at body
      rw [body]
      exact endLine_breaks [] written inLead
    obtain ⟨index', line', low, read⟩ := @readBlock_empty next index line column rest parent ends
      shallow lead leading
    refine ⟨_, literalHeader_empty written inLead, index', line', low, ?_⟩
    rw [body, List.append_assoc]
    exact read
  · rw [List.concat_eq_append] at first last printed ⊢
    have inLine : isBreak c = false := last c (by simp)
    have header := literalHeader_lines (lead ++ f) inLine inTrail
    obtain ⟨b, bs, closing⟩ : ∃ b bs, closingBreaks trail = b :: bs := by
      cases trail <;> exact ⟨_, _, rfl⟩
    have breaks : ∀ c ∈ b :: bs, IsNewline c := by
      rw [← closing]
      cases trail with
      | nil => simp [closingBreaks, IsNewline]
      | cons d trail => exact trailing
    have firstOfFront : ∀ c ∈ f.head?, isBreak c = false := fun d mem =>
      first d (by rw [List.head?_append, Option.mem_def.mp mem]; rfl)
    have shown (visible : hidesIndentation (lead ++ (f ++ [c] ++ trail)) = false) :
        lead = [] ∧ ∀ d ∈ (f ++ [c]).head?, IsInk d := by
      obtain ⟨none, ink⟩ := hidesIndentation_append inLead
        (fun d mem => printed d (List.mem_append_right _ mem)) visible
      exact ⟨none, fun d mem => ink d (by rw [List.head?_append, Option.mem_def.mp mem]; rfl)⟩
    obtain ⟨index', line', low, read⟩ := @readBlock_lines next index line column rest parent ends
      shallow lead (f ++ [c]) leading
      (fun d mem => printed d (List.mem_append_right _ (List.mem_append_left _ mem))) first last
      (by simp) (chompingOf trail) b bs breaks (hidesIndentation (lead ++ (f ++ [c] ++ trail)))
      shown
    refine ⟨_, by simpa using header, index', line', low, ?_⟩
    rw [endLine_literalBody inLead firstOfFront inLine inTrail, closing]
    rw [chomped_eq closing] at read
    simpa using read

theorem endLine_literal {cs header : List Char} (written : cs ≠ []) :
    endLine (header ++ '\n' :: literalBody n true cs) =
      header ++ '\n' :: endLine (literalBody n true cs) := by
  have size := length_le_literalBody (n := n) true cs
  have some : literalBody n true cs ≠ [] := by
    intro empty
    rw [empty] at size
    exact written (List.eq_nil_of_length_eq_zero (Nat.le_zero.mp size))
  have last : (header ++ '\n' :: literalBody n true cs).getLast? =
      (literalBody n true cs).getLast? := by
    rw [List.getLast?_append, List.getLast?_cons_of_ne_nil some,
      List.getLast?_eq_some_getLast some]
    rfl
  unfold endLine
  rw [last]
  split <;> simp

end Ligature.Yaml
