import Ligature.Proofs.Blocks
import Ligature.Proofs.Scalars
import Ligature.Proofs.Tokens

/-!
# Scalars as tokens

The scanner reads what is printed for a scalar as the one token of this scalar, and is then at the
next line.
-/
namespace Ligature.Yaml.Scanner

variable {s : Scanner} {cs rest : List Char} {index line column i next : Nat} {ts : List Token}
  {is : List Nat} {key : Bool}

theorem startsIndicator_append {after : List Char} (written : cs ≠ [])
    (blank : startsBlank after = true) (starts : startsIndicator cs = false) :
    startsIndicator (cs ++ after) = false := by
  obtain ⟨c, cs, rfl⟩ := List.exists_cons_of_ne_nil written
  simpa only [List.cons_append, startsIndicator, startsBlank_append blank] using starts

theorem noMarker_of_pos (h : 0 < s.place.column) : s.place.atMarker = false := by
  simp [Place.atMarker, Nat.ne_of_gt h]

/-- A scanner behind a scalar whose reader has gone on to the next line. -/
theorem settled_next {candidate : Option SimpleKey} (margin : StartsToken rest)
    (old : Forgettable line candidate) :
    Settled (remembering candidate ⟨rest, index, line, next⟩ ts is true) rest next
      (remaining next is) (ends next is ++ ts) :=
  ⟨index, line, settle_spaces (k := 0) margin old⟩

variable (index line ts is key) in
theorem plainScalar_between (plain : PlainFrom cs) (written : cs ≠ []) (margin : StartsToken rest)
    (shallow : next ≤ i) (deep : i < column) :
    ∃ index' candidate, Forgettable (line + 1) candidate ∧
      (between ⟨cs ++ '\n' :: (indentation next ++ rest), index, line, column⟩ ts (i :: is)
          key).plainScalar =
        some (remembering candidate ⟨rest, index', line + 1, next⟩
          (.scalar (String.ofList cs) .plain :: ts) (i :: is) true) := by
  have shallower : (i :: is).head? ≠ some column := by
    simp
    omega
  obtain ⟨candidate, starts, saved⟩ := saveKey_between
    ⟨cs ++ '\n' :: (indentation next ++ rest), index, line, column⟩ ts (i :: is) key shallower
  have read : readPlain false (i + 1) ((cs ++ '\n' :: (indentation next ++ rest)).length + 1) []
      .none ⟨cs ++ '\n' :: (indentation next ++ rest), index, line, column⟩ = _ :=
    readPlain_text margin.endsGap (by omega) plain written deep
      (by rw [List.length_append]; omega)
  refine ⟨index + cs.length + 1 + next, candidate, starts.forgettable (Nat.lt_succ_self line), ?_⟩
  rw [plainScalar, saved]
  simp only [remembering, inFlow, Option.bind_some, List.head?_cons, Option.map_some,
    Option.getD_some, List.isEmpty_nil, Bool.not_true, read]
  rfl

theorem readsValue_of_next {t : Token} {candidate : Option SimpleKey} {index' line' : Nat}
    (read : s.next = some (remembering candidate ⟨rest, index', line', next⟩ (t :: ts) is true))
    (other : t ≠ .streamEnd) (margin : StartsToken rest) (old : Forgettable line' candidate) :
    ReadsValue s 1 [t] rest next is ts :=
  ⟨_, Passes.step read (by simpa [remembering] using other), settled_next margin old⟩

theorem readsValue_of_line {t : Token} {candidate : Option SimpleKey} {index' line' column' : Nat}
    (read : s.next = some (remembering candidate
      ⟨'\n' :: (indentation next ++ rest), index', line', column'⟩ (t :: ts) is key))
    (other : t ≠ .streamEnd) (margin : StartsToken rest) (old : Forgettable (line' + 1) candidate) :
    ReadsValue s 1 [t] rest next is ts :=
  ⟨_, Passes.step read (by simpa [remembering] using other), _, _, settle_line margin old⟩

theorem readsValue_plain (plain : PlainFrom cs) (starts : startsIndicator cs = false)
    (written : cs ≠ []) (margin : StartsToken rest) (shallow : next ≤ i) (deep : i < column) :
    ReadsValue (between ⟨' ' :: (cs ++ '\n' :: (indentation next ++ rest)), index, line, column⟩ ts
      (i :: is) key) 1 [.scalar (String.ofList cs) .plain] rest next (i :: is) ts := by
  obtain ⟨index', candidate, old, read⟩ := plainScalar_between (index + 1) line ts is key plain
    written margin shallow (Nat.lt_succ_of_lt deep)
  have indicator : startsIndicator (cs ++ '\n' :: (indentation next ++ rest)) = false :=
    startsIndicator_append written rfl starts
  obtain ⟨c, cs, rfl⟩ := List.exists_cons_of_ne_nil written
  have ink : IsInk c := plain.isInk List.mem_cons_self (by simpa using plain.starts.space)
  have noMark : c ≠ '\ufeff' := by
    rintro rfl
    exact absurd (plain.printed _ List.mem_cons_self) (by decide)
  have token : StartsToken (c :: cs ++ '\n' :: (indentation next ++ rest)) :=
    startsToken_cons _ ⟨ink, by simpa using plain.starts.comment, noMark⟩
  have step : (between ⟨' ' :: (c :: cs ++ '\n' :: (indentation next ++ rest)), index, line, column⟩
      ts (i :: is) key).next = some (remembering candidate ⟨rest, index', line + 1, next⟩
        (.scalar (String.ofList (c :: cs)) .plain :: ts) (i :: is) true) := by
    rw [next_of_settle (settle_value token (by omega)) rfl,
      readToken_plain rfl (noMarker_of_pos (Nat.succ_pos _)) indicator ink, read]
  exact readsValue_of_next step (by simp) margin old

variable (ts is key) in
theorem quotedScalar_between {single : Bool} {body after : List Char} {index' line' column' : Nat}
    (read : readQuoted single ((body ++ quoteMark single :: after).length + 2) []
      ⟨body ++ quoteMark single :: after, index + 1, line, column + 1⟩ =
        some (cs, ⟨after, index', line', column'⟩))
    (le : line ≤ line') (head : is.head? ≠ some column) :
    ∃ candidate, Forgettable (line' + 1) candidate ∧
      (between ⟨quoteMark single :: (body ++ quoteMark single :: after), index, line, column⟩ ts is
          key).quotedScalar single =
        some (remembering candidate ⟨after, index', line', column'⟩
          (.scalar (String.ofList cs) (if single then .singleQuoted else .doubleQuoted) :: ts) is
          false) := by
  obtain ⟨candidate, starts, saved⟩ := saveKey_between
    ⟨quoteMark single :: (body ++ quoteMark single :: after), index, line, column⟩ ts is key head
  refine ⟨candidate, starts.forgettable (Nat.lt_succ_of_le le), ?_⟩
  rw [quotedScalar, keyToken, saved]
  simp only [remembering, Place.advance_cons, Option.bind_some, read, Option.map_some]
  rfl

theorem readToken_quote {single : Bool} (noMarker : s.place.atMarker = false) :
    s.readToken (quoteMark single) rest = s.quotedScalar single := by
  cases single <;> simp [readToken, quoteMark, noMarker]

theorem readsValue_quoted (single : Bool) {body : List Char} (shallow : i < column)
    (read : ∃ index' line' column', line ≤ line' ∧
      readQuoted single
        ((body ++ quoteMark single :: '\n' :: (indentation next ++ rest)).length + 2) []
        ⟨body ++ quoteMark single :: '\n' :: (indentation next ++ rest), index + 1 + 1, line,
          column + 1 + 1⟩ =
        some (cs, ⟨'\n' :: (indentation next ++ rest), index', line', column'⟩))
    (margin : StartsToken rest) :
    ReadsValue (between ⟨' ' :: quoteMark single :: (body ++ quoteMark single ::
        '\n' :: (indentation next ++ rest)), index, line, column⟩ ts (i :: is) key) 1
      [.scalar (String.ofList cs) (if single then .singleQuoted else .doubleQuoted)] rest next
      (i :: is) ts := by
  obtain ⟨index', line', column', le, read⟩ := read
  have shallower : (i :: is).head? ≠ some (column + 1) := by
    simp
    omega
  obtain ⟨candidate, old, token⟩ := quotedScalar_between ts (i :: is) key read le shallower
  have starts : StartsToken (quoteMark single :: (body ++ quoteMark single ::
      '\n' :: (indentation next ++ rest))) := by
    apply startsToken_cons
    cases single <;> decide
  have step : (between ⟨' ' :: quoteMark single :: (body ++ quoteMark single ::
      '\n' :: (indentation next ++ rest)), index, line, column⟩ ts (i :: is) key).next =
      some (remembering candidate ⟨'\n' :: (indentation next ++ rest), index', line', column'⟩
        (.scalar (String.ofList cs) (if single then .singleQuoted else .doubleQuoted) :: ts)
        (i :: is) false) := by
    rw [next_of_settle (settle_value starts (by omega)) rfl,
      readToken_quote (noMarker_of_pos (Nat.succ_pos _)), token]
  exact readsValue_of_line step (by simp) margin old

theorem endLine_inLine (inLine : ∀ c ∈ cs, isBreak c = false) : endLine cs = cs ++ ['\n'] := by
  cases last : cs.getLast? with
  | none => simp [endLine, last]
  | some c => simp [endLine, last, inLine c (List.mem_of_getLast? last)]

theorem endLine_concat {c : Char} (inLine : isBreak c = false) (body : List Char) :
    endLine (body ++ [c]) = body ++ [c, '\n'] := by
  simp [endLine, inLine]

theorem readsValue_singleQuoted (allowed : singleQuotesAllowed cs = true)
    (margin : StartsToken rest) (deep : i < column) :
    ReadsValue (between ⟨' ' :: (endLine (styledText (i + 2) .singleQuoted cs) ++
        (indentation next ++ rest)), index, line, column⟩ ts (i :: is) key) 1
      [.scalar (String.ofList cs) .singleQuoted] rest next (i :: is) ts := by
  simp only [singleQuotesAllowed, Bool.not_eq_true', Bool.or_eq_false_iff] at allowed
  obtain ⟨⟨behind, before⟩, printed⟩ := allowed
  have size := length_le_singleQuotedBody (n := i + 2) false cs
  have text : endLine (styledText (i + 2) .singleQuoted cs) ++ (indentation next ++ rest) = '\'' ::
      (singleQuotedBody (i + 2) false cs ++ '\'' :: '\n' :: (indentation next ++ rest)) := by
    rw [styledText, ← List.cons_append, endLine_concat rfl]
    simp
  rw [text]
  refine readsValue_quoted true deep ?_ margin
  exact readQuoted_singleQuotedBody (by omega) (by simp) (by simpa using printed) before behind
    (by omega) (by rw [List.length_append]; omega)

theorem readsValue_doubleQuoted (margin : StartsToken rest) (deep : i < column) :
    ReadsValue (between ⟨' ' :: (endLine (styledText (i + 2) .doubleQuoted cs) ++
        (indentation next ++ rest)), index, line, column⟩ ts (i :: is) key) 1
      [.scalar (String.ofList cs) .doubleQuoted] rest next (i :: is) ts := by
  have size := length_le_flatMap (w := cs) fun c _ => escapedChar_ne_nil c
  have text : endLine (styledText (i + 2) .doubleQuoted cs) ++ (indentation next ++ rest) =
      '"' :: (cs.flatMap escapedChar ++ '"' :: '\n' :: (indentation next ++ rest)) := by
    rw [styledText, ← List.cons_append, endLine_concat rfl]
    simp
  rw [text]
  refine readsValue_quoted false deep ?_ margin
  obtain ⟨index', column', read⟩ := @readQuoted_escaped ('\n' :: (indentation next ++ rest))
    (by simp) cs ((cs.flatMap escapedChar ++ '"' :: '\n' :: (indentation next ++ rest)).length + 2)
    (index + 1 + 1) line (column + 1 + 1) [] (by omega)
    (by rw [List.length_append]; omega)
  exact ⟨index', line, column', Nat.le_refl _, read⟩

theorem readsValue_literal (written : cs ≠ []) (printed : ∀ c ∈ cs, isPrintable c = true)
    (margin : StartsToken rest) (shallow : next ≤ i) (deep : i < column) :
    ReadsValue (between ⟨' ' :: (endLine (styledText (i + 2) .literal cs) ++
        (indentation next ++ rest)), index, line, column⟩ ts (i :: is) key) 1
      [.scalar (String.ofList cs) .literal] rest next (i :: is) ts := by
  obtain ⟨marks, header, index', line', -, read⟩ := @readBlock_text next (index + 1 + 1) line
    (column + 1 + 1) rest i margin.endsGap (by omega) cs written printed
  have text : endLine (styledText (i + 2) .literal cs) ++ (indentation next ++ rest) =
      '|' :: (marks ++ '\n' :: (endLine (literalBody (i + 2) true cs) ++
        (indentation next ++ rest))) := by
    rw [styledText, endLine_literal written, header]
    simp
  have starts : ∀ after, StartsToken ('|' :: after) := fun after =>
    startsToken_cons after (by decide)
  have noMarker := noMarker_of_pos (s := between ⟨'|' :: (marks ++ '\n' ::
    (endLine (literalBody (i + 2) true cs) ++ (indentation next ++ rest))), index + 1, line,
    column + 1⟩ ts (i :: is) key) (Nat.succ_pos _)
  have block : ∀ (s : Scanner) after, s.outer = [] → s.place.atMarker = false →
      s.readToken '|' after = s.blockScalar true := by
    intro s after noFlow noMarker
    simp [readToken, noMarker, inFlow, noFlow]
  have step : (between ⟨' ' :: '|' :: (marks ++ '\n' :: (endLine (literalBody (i + 2) true cs) ++
      (indentation next ++ rest))), index, line, column⟩ ts (i :: is) key).next =
      some (between ⟨rest, index', line', next⟩ (.scalar (String.ofList cs) .literal :: ts)
        (i :: is) true) := by
    rw [next_of_settle (settle_value (starts _) (by omega)) rfl, block _ _ rfl noMarker]
    simp only [blockScalar, dropKey, remembering, Option.any_none, Bool.false_eq_true, if_false,
      Option.bind_some, List.head?_cons, Place.advance_cons, read, Option.map_some]
    rfl
  rw [text]
  exact readsValue_of_next step (by simp) margin (by simp [Forgettable])

theorem readsValue_quoteStyle (margin : StartsToken rest) (deep : i < column) :
    ReadsValue (between ⟨' ' :: (endLine (styledText (i + 2) (quoteStyle cs) cs) ++
        (indentation next ++ rest)), index, line, column⟩ ts (i :: is) key) 1
      [.scalar (String.ofList cs) (quoteStyle cs)] rest next (i :: is) ts := by
  unfold quoteStyle
  split
  · rename_i allowed
    exact readsValue_singleQuoted allowed margin deep
  · exact readsValue_doubleQuoted margin deep

theorem readsValue_textStyle (margin : StartsToken rest) (shallow : next ≤ i) (deep : i < column) :
    ReadsValue (between ⟨' ' :: (endLine (styledText (i + 2) (textStyle cs) cs) ++
        (indentation next ++ rest)), index, line, column⟩ ts (i :: is) key) 1
      [.scalar (String.ofList cs) (textStyle cs)] rest next (i :: is) ts := by
  unfold textStyle
  split
  · rename_i feed
    split
    · rename_i allowed
      have written : cs ≠ [] := by
        rintro rfl
        cases feed
      simp only [literalAllowed, Bool.not_eq_true', Bool.or_eq_false_iff] at allowed
      exact readsValue_literal written (by simpa using allowed.2) margin shallow deep
    · exact readsValue_doubleQuoted margin deep
  · split
    · rename_i allowed
      obtain ⟨notOther, allowed⟩ := Bool.and_eq_true_iff.mp allowed
      have written : cs ≠ [] := by
        rintro rfl
        exact absurd notOther (by decide)
      have plain := plainFrom_of_plainAllowed allowed
      rw [styledText, endLine_inLine plain.inLine, List.append_assoc]
      exact readsValue_plain plain (startsIndicator_of_plainAllowed allowed) written margin shallow
        deep
    · exact readsValue_quoteStyle margin deep

/-! ### Empty collections -/

def inside (candidate : Option SimpleKey) (p : Place) (ts : List Token) (is : List Nat) : Scanner :=
  ⟨p, ts, ts.length, is, true, none, [candidate]⟩

theorem settle_inside {c : Char} {candidate : Option SimpleKey} {index' : Nat}
    (starts : StartsToken (c :: rest)) (old : StartsAt index line candidate)
    (near : index' ≤ index + 1024) :
    settle (inside candidate ⟨c :: rest, index', line, column⟩ ts is) =
      some (inside candidate ⟨c :: rest, index', line, column⟩ ts is) := by
  have skipped : skipToToken ((c :: rest).length + 1)
      (inside candidate ⟨c :: rest, index', line, column⟩ ts is) =
      inside candidate ⟨c :: rest, index', line, column⟩ ts is :=
    skipToToken_spaces (k := 0) starts rfl
  have kept : dropStale (inside candidate ⟨c :: rest, index', line, column⟩ ts is) =
      some (inside candidate ⟨c :: rest, index', line, column⟩ ts is) := by
    cases candidate with
    | none => rfl
    | some k =>
      obtain ⟨free, here, at'⟩ := old k rfl
      simp [dropStale, inside, free, alive, here, at', near]
  rw [settle]
  have rest' : (inside candidate ⟨c :: rest, index', line, column⟩ ts is).place.rest = c :: rest :=
    rfl
  rw [rest', skipped, kept, Option.map_some]
  rfl

theorem openFlow_between {c : Char} {t : Token} (head : is.head? ≠ some column) :
    ∃ candidate, StartsAt index line candidate ∧
      (between ⟨c :: rest, index, line, column⟩ ts is key).openFlow t =
        some (inside candidate ⟨rest, index + 1, line, column + 1⟩ (t :: ts) is) := by
  obtain ⟨candidate, starts, saved⟩ := saveKey_between ⟨c :: rest, index, line, column⟩ ts is key
    head
  refine ⟨candidate, starts, ?_⟩
  rw [openFlow, saved]
  rfl

theorem closeFlow_inside {c : Char} {t : Token} {candidate : Option SimpleKey} :
    (inside candidate ⟨c :: rest, index, line, column⟩ ts is).closeFlow t =
      some (remembering candidate ⟨rest, index + 1, line, column + 1⟩ (t :: ts) is false) := rfl

theorem readsValue_empty (first last : Char) {start finish : Token}
    (opens : ∀ (s : Scanner) rest, s.place.atMarker = false →
      s.readToken first rest = s.openFlow start)
    (closes : ∀ (s : Scanner) rest, s.place.atMarker = false →
      s.readToken last rest = s.closeFlow finish)
    (inkFirst : ∀ rest, StartsToken (first :: rest)) (inkLast : ∀ rest, StartsToken (last :: rest))
    (other : start ≠ .streamEnd ∧ finish ≠ .streamEnd) (margin : StartsToken rest)
    (deep : i < column) :
    ReadsValue (between ⟨' ' :: first :: last :: '\n' :: (indentation next ++ rest), index, line,
      column⟩ ts (i :: is) key) 2 [start, finish] rest next (i :: is) ts := by
  obtain ⟨candidate, starts, opened⟩ : ∃ candidate, StartsAt (index + 1) line candidate ∧
      (between ⟨first :: last :: '\n' :: (indentation next ++ rest), index + 1, line, column + 1⟩ ts
        (i :: is) key).openFlow start = some (inside candidate
          ⟨last :: '\n' :: (indentation next ++ rest), index + 2, line, column + 2⟩ (start :: ts)
          (i :: is)) :=
    openFlow_between (by simp; omega)
  have step : (between ⟨' ' :: first :: last :: '\n' :: (indentation next ++ rest), index, line,
      column⟩ ts (i :: is) key).next = some (inside candidate
        ⟨last :: '\n' :: (indentation next ++ rest), index + 2, line, column + 2⟩ (start :: ts)
        (i :: is)) := by
    rw [next_of_settle (settle_value (inkFirst _) (by omega)) rfl,
      opens _ _ (noMarker_of_pos (Nat.succ_pos _)), opened]
  have close : (inside candidate ⟨last :: '\n' :: (indentation next ++ rest), index + 2, line,
      column + 2⟩ (start :: ts) (i :: is)).next = some (remembering candidate
        ⟨'\n' :: (indentation next ++ rest), index + 3, line, column + 3⟩ (finish :: start :: ts)
        (i :: is) false) := by
    rw [next_of_settle (settle_inside (inkLast _) starts (by omega)) rfl,
      closes _ _ (noMarker_of_pos (Nat.succ_pos _)), closeFlow_inside]
  have passed := (Passes.step step (by simpa [inside] using other.1)).trans
    (Passes.step close (by simpa [remembering] using other.2))
  exact ⟨_, passed, _, _, settle_line margin (starts.forgettable (Nat.lt_succ_self _))⟩

theorem readsValue_emptySequence (margin : StartsToken rest) (deep : i < column) :
    ReadsValue (between ⟨" []\n".toList ++ (indentation next ++ rest), index, line, column⟩ ts
      (i :: is) key) 2 [.flowSequenceStart, .flowSequenceEnd] rest next (i :: is) ts := by
  refine readsValue_empty '[' ']' ?_ ?_ ?_ ?_ (by decide) margin deep
  · exact fun s rest noMarker => by simp [readToken, noMarker]
  · exact fun s rest noMarker => by simp [readToken, noMarker]
  · exact fun rest => startsToken_cons rest (by decide)
  · exact fun rest => startsToken_cons rest (by decide)

theorem readsValue_emptyMapping (margin : StartsToken rest) (deep : i < column) :
    ReadsValue (between ⟨" \x7b\x7d\n".toList ++ (indentation next ++ rest), index, line, column⟩ ts
      (i :: is) key) 2 [.flowMappingStart, .flowMappingEnd] rest next (i :: is) ts := by
  refine readsValue_empty '\x7b' '\x7d' ?_ ?_ ?_ ?_ (by decide) margin deep
  · exact fun s rest noMarker => by simp [readToken, noMarker]
  · exact fun s rest noMarker => by simp [readToken, noMarker]
  · exact fun rest => startsToken_cons rest (by decide)
  · exact fun rest => startsToken_cons rest (by decide)

end Ligature.Yaml.Scanner
