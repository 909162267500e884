import Ligature.Yaml.Token
import Ligature.Proofs.Gaps

/-!
# Steps of the scanner

What one token does to a scanner of block collections, and what is skipped before it. Between two
tokens such a scanner has no open flow collection and no key to remember.
-/
namespace Ligature.Yaml.Scanner

/-! ### Passing over text -/

def Passes (n : Nat) (s t : Scanner) : Prop :=
  ∃ k ≤ n, ∀ fuel, run (fuel + k) s = run fuel t

variable {s t u : Scanner} {n m : Nat}

theorem Passes.trans (h : Passes n s t) (later : Passes m t u) : Passes (n + m) s u := by
  obtain ⟨k, few, run⟩ := h
  obtain ⟨l, fewLater, runLater⟩ := later
  refine ⟨l + k, by omega, fun fuel => ?_⟩
  rw [← Nat.add_assoc, run, runLater]

theorem Passes.mono (h : Passes n s t) (le : n ≤ m) : Passes m s t := by
  obtain ⟨k, few, run⟩ := h
  exact ⟨k, Nat.le_trans few le, run⟩

theorem run_succ (fuel : Nat) (s : Scanner) : run (fuel + 1) s = match s.next with
    | none => none
    | some s => match s.tokens with
      | .streamEnd :: _ => some s.tokens.reverse
      | _ => run fuel s := rfl

theorem Passes.step (h : s.next = some t) (goesOn : t.tokens.head? ≠ some .streamEnd) :
    Passes 1 s t := by
  refine ⟨1, Nat.le_refl 1, fun fuel => ?_⟩
  rw [run_succ, h]
  simp only
  split
  · rename_i last
    simp [last] at goesOn
  · rfl

/-! ### Before a token -/

def remembering (candidate : Option SimpleKey) (p : Place) (ts : List Token) (is : List Nat)
    (key : Bool) : Scanner :=
  ⟨p, ts, ts.length, is, key, candidate, []⟩

abbrev between (p : Place) (ts : List Token) (is : List Nat) (key : Bool) : Scanner :=
  remembering none p ts is key

def ends (column : Nat) (is : List Nat) : List Token :=
  (is.takeWhile (column < ·)).map fun _ => .blockEnd

def remaining (column : Nat) (is : List Nat) : List Nat := is.dropWhile (column < ·)

def IsInside (column : Nat) (is : List Nat) : Prop := ∀ i ∈ is.head?, i ≤ column

theorem isInside_cons {column i : Nat} {is : List Nat} (h : i ≤ column) :
    IsInside column (i :: is) := by
  intro j start
  obtain rfl := Option.some.inj start
  exact h

theorem IsInside.ends {column : Nat} {is : List Nat} (h : IsInside column is) :
    ends column is = [] := by
  cases is with
  | nil => rfl
  | cons i is => simp [Scanner.ends, Nat.not_lt.mpr (h i rfl)]

theorem IsInside.remaining {column : Nat} {is : List Nat} (h : IsInside column is) :
    remaining column is = is := by
  cases is with
  | nil => rfl
  | cons i is => simp [Scanner.remaining, Nat.not_lt.mpr (h i rfl)]

theorem remaining_cons {column i : Nat} {is : List Nat} (h : column < i) :
    remaining column (i :: is) = remaining column is := by
  simp [remaining, h]

theorem ends_cons {column i : Nat} {is : List Nat} (h : column < i) :
    ends column (i :: is) = ends column is ++ [.blockEnd] := by
  have comm (l : List Nat) : Token.blockEnd :: l.map (fun _ => Token.blockEnd) =
      l.map (fun _ => Token.blockEnd) ++ [.blockEnd] := by
    induction l with
    | nil => rfl
    | cons a l ih => rw [List.map_cons, List.cons_append, ← ih]
  have left : (i :: is).takeWhile (column < ·) = i :: is.takeWhile (column < ·) := by simp [h]
  rw [ends, left, List.map_cons, comm, ends]

def settle (s : Scanner) : Option Scanner :=
  (skipToToken (s.place.rest.length + 1) s).dropStale.map fun s =>
    s.closeBlocks (some s.place.column)

theorem next_of_settle {c : Char} {rest : List Char} (h : s.settle = some t)
    (start : t.place.rest = c :: rest) : s.next = t.readToken c rest := by
  unfold settle at h
  obtain ⟨u, read, rfl⟩ := Option.map_eq_some_iff.mp h
  simp only [next, read, Option.bind_some, start]

theorem next_of_settle_end (h : s.settle = some t) (start : t.place.rest = []) :
    s.next = (t.closeBlocks none).dropKey.map (·.push .streamEnd) := by
  unfold settle at h
  obtain ⟨u, read, rfl⟩ := Option.map_eq_some_iff.mp h
  simp only [next, read, Option.bind_some, start]

def StartsToken (cs : List Char) : Prop :=
  ∀ c ∈ cs.head?, IsInk c ∧ c ≠ '#' ∧ c ≠ '\ufeff'

theorem startsToken_cons {c : Char} (rest : List Char)
    (h : (isBlank c = false ∧ isBreak c = false) ∧ c ≠ '#' ∧ c ≠ '\ufeff') :
    StartsToken (c :: rest) := by
  intro d start
  obtain rfl := Option.some.inj start
  exact h

theorem StartsToken.endsGap {cs : List Char} (h : StartsToken cs) : EndsGap cs :=
  fun c start => (h c start).1

section Settling

variable {cs : List Char} {index line column : Nat} {ts : List Token} {is : List Nat}
  {candidate : Option SimpleKey}

theorem skipToToken_spaces {fuel k : Nat} (starts : StartsToken cs)
    (here : s.place = ⟨indentation k ++ cs, index, line, column⟩) :
    skipToToken (fuel + 1) s = { s with place := ⟨cs, index + k, line, column + k⟩ } := by
  have noMark : (indentation k ++ cs).head? ≠ some '\ufeff' := by
    cases k with
    | zero => exact fun mark => (starts _ mark).2.2 rfl
    | succ k => simp [indentation, List.replicate_succ]
  have skipped := Place.skipWhile_indentation
    (fun c => c == ' ' || ((s.inFlow || !s.keyAllowed) && c == '\t')) cs (by simp)
    (fun c start => by simp [(starts c start).1.ne_blank]) k index line column
  have noComment : cs.head? ≠ some '#' := fun comment => (starts _ comment).2.1 rfl
  have inLine : (!cs.isEmpty && startsBreak cs) = false := by
    cases cs with
    | nil => rfl
    | cons c cs => simp [startsBreak, (starts c rfl).1.2]
  simp only [skipToToken, here, beq_eq_false_iff_ne.mpr noMark, Bool.and_false, Bool.false_eq_true,
    if_false, skipped, noComment, inLine]

theorem skipToToken_line {fuel k : Nat} (starts : StartsToken cs) (block : s.outer = [])
    (here : s.place = ⟨'\n' :: (indentation k ++ cs), index, line, column⟩) :
    skipToToken (fuel + 2) s =
      { s with place := ⟨cs, index + 1 + k, line + 1, k⟩, keyAllowed := true } := by
  have noFlow : s.inFlow = false := by simp [inFlow, block]
  let below := { s with
    place := ⟨indentation k ++ cs, index + 1, line + 1, 0⟩
    keyAllowed := true }
  have step : skipToToken (fuel + 2) s = skipToToken (fuel + 1) below := by
    have skipped : ∀ test, test '\n' = false →
        Place.skipWhile ⟨'\n' :: (indentation k ++ cs), index, line, column⟩ test =
          ⟨'\n' :: (indentation k ++ cs), index, line, column⟩ := by
      intro test stop
      simp [Place.skipWhile, Place.span, stop, Place.advance]
    rw [skipToToken]
    simp [below, here, skipped, startsBreak, isBreak, noFlow, Place.skipBreak, Place.takeBreak]
  have there : below.place = ⟨indentation k ++ cs, index + 1, line + 1, 0⟩ := rfl
  rw [step, skipToToken_spaces starts there, Nat.zero_add]

theorem closeBlocks_remembering (p : Place) (key : Bool) :
    (remembering candidate p ts is key).closeBlocks (some column) =
      remembering candidate p (ends column is ++ ts) (remaining column is) key := by
  have left : is.drop (is.takeWhile (column < ·)).length = remaining column is := by
    have split : (is.takeWhile (column < ·) ++ is.dropWhile (column < ·)).drop
        (is.takeWhile (column < ·)).length = is.dropWhile (column < ·) := List.drop_left
    rwa [List.takeWhile_append_dropWhile] at split
  have count : ts.length + (is.takeWhile (column < ·)).length = (ends column is ++ ts).length := by
    rw [List.length_append, ends, List.length_map, Nat.add_comm]
  simp [remembering, closeBlocks, inFlow, left, count, ends]

def Forgettable (line : Nat) (candidate : Option SimpleKey) : Prop :=
  ∀ k ∈ candidate, k.required = false ∧ k.line < line

theorem dropStale_between (p : Place) (ts : List Token) (is : List Nat) (key : Bool)
    (old : Forgettable p.line candidate) :
    dropStale (remembering candidate p ts is key) = some (between p ts is key) := by
  cases candidate with
  | none => rfl
  | some k =>
    obtain ⟨free, before⟩ := old k rfl
    have dead : alive p k = false := by simp [alive, Nat.ne_of_lt before]
    simp [dropStale, remembering, free, dead]

theorem settle_spaces {k : Nat} {key : Bool} (starts : StartsToken cs)
    (old : Forgettable line candidate) :
    settle (remembering candidate ⟨indentation k ++ cs, index, line, column⟩ ts is key) =
      some (between ⟨cs, index + k, line, column + k⟩ (ends (column + k) is ++ ts)
        (remaining (column + k) is) key) := by
  have forgotten := dropStale_between ⟨cs, index + k, line, column + k⟩ ts is key old
  have skipped : skipToToken ((indentation k ++ cs).length + 1)
      (remembering candidate ⟨indentation k ++ cs, index, line, column⟩ ts is key) = _ :=
    skipToToken_spaces starts rfl
  rw [settle]
  simp only [remembering] at *
  rw [skipped, forgotten, Option.map_some]
  exact congrArg some (closeBlocks_remembering _ key)

theorem settle_line {k : Nat} {key : Bool} (starts : StartsToken cs)
    (old : Forgettable (line + 1) candidate) :
    settle (remembering candidate ⟨'\n' :: (indentation k ++ cs), index, line, column⟩ ts is key) =
      some (between ⟨cs, index + 1 + k, line + 1, k⟩ (ends k is ++ ts) (remaining k is) true) := by
  have forgotten := dropStale_between ⟨cs, index + 1 + k, line + 1, k⟩ ts is true old
  have skipped : skipToToken ((indentation k ++ cs).length + 2)
      (remembering candidate ⟨'\n' :: (indentation k ++ cs), index, line, column⟩ ts is key) = _ :=
    skipToToken_line starts rfl rfl
  rw [settle]
  simp only [remembering, List.length_cons] at *
  rw [skipped, forgotten, Option.map_some]
  exact congrArg some (closeBlocks_remembering _ true)

def Settled (s : Scanner) (cs : List Char) (column : Nat) (is : List Nat) (ts : List Token) :
    Prop :=
  ∃ index line, s.settle = some (between ⟨cs, index, line, column⟩ ts is true)

/-- The scanner reads the tokens of a value with at most `n` steps, up to the start of `rest` in the
column `next`. -/
def ReadsValue (s : Scanner) (n : Nat) (value : List Token) (rest : List Char) (next : Nat)
    (is : List Nat) (ts : List Token) : Prop :=
  ∃ t, Passes n s t ∧
    Settled t rest next (remaining next is) (ends next is ++ (value.reverse ++ ts))

theorem settle_value {i : Nat} {key : Bool} (starts : StartsToken cs) (deep : i ≤ column) :
    settle (between ⟨' ' :: cs, index, line, column⟩ ts (i :: is) key) =
      some (between ⟨cs, index + 1, line, column + 1⟩ ts (i :: is) key) := by
  have settled : settle (between ⟨indentation 1 ++ cs, index, line, column⟩ ts (i :: is) key) = _ :=
    settle_spaces starts (by simp [Forgettable])
  have within : IsInside (column + 1) (i :: is) := isInside_cons (by omega)
  rwa [within.ends, within.remaining] at settled

end Settling

/-! ### Collections -/

section Collections

variable {cs rest : List Char} {index line column : Nat} {ts : List Token} {is : List Nat}

def openIndents (column : Nat) (is : List Nat) : List Nat :=
  if is.head?.all (· < column) then column :: is else is

def openTokens (column : Nat) (is : List Nat) (t : Token) (ts : List Token) : List Token :=
  if is.head?.all (· < column) then t :: ts else ts

theorem openIndents_same (column : Nat) (is : List Nat) :
    openIndents column (column :: is) = column :: is := by simp [openIndents]

theorem openTokens_same (column : Nat) (is : List Nat) (t : Token) (ts : List Token) :
    openTokens column (column :: is) t ts = ts := by simp [openTokens]

theorem openIndents_deeper {i : Nat} (deep : i < column) :
    openIndents column (i :: is) = column :: i :: is := by simp [openIndents, deep]

theorem openTokens_deeper {i : Nat} (deep : i < column) (t : Token) :
    openTokens column (i :: is) t ts = t :: ts := by simp [openTokens, deep]

theorem isInside_of_openIndents {is' : List Nat} (h : openIndents column is = column :: is') :
    IsInside column is := by
  intro i start
  unfold openIndents at h
  split at h
  · rename_i deep
    rw [Option.mem_def.mp start] at deep
    exact Nat.le_of_lt (by simpa using deep)
  · rw [h] at start
    exact Nat.le_of_eq (Option.some.inj start).symm

theorem openBlock_between (p : Place) (ts : List Token) (is : List Nat) (key : Bool) (t : Token) :
    (between p ts is key).openBlock p.column ts.length t =
      between p (openTokens p.column is t ts) (openIndents p.column is) key := by
  have deep : (between p ts is key).deeper p.column = is.head?.all (· < p.column) := rfl
  have noFlow : (between p ts is key).inFlow = false := rfl
  simp only [openBlock, noFlow, deep, Bool.false_or]
  by_cases opens : is.head?.all (· < p.column) = true
  · simp [opens, openTokens, openIndents, insertAt, remembering]
  · simp [opens, openTokens, openIndents]

theorem startsMarker_dash (blank : startsBlank rest = true) :
    startsMarker ('-' :: rest) = false := by
  unfold startsMarker
  split
  · rename_i eq
    obtain ⟨-, rfl⟩ := List.cons.inj eq
    cases blank
  · rename_i eq
    cases (List.cons.inj eq).1
  · rfl

theorem readToken_dash (noMarker : s.place.atMarker = false) (blank : startsBlank rest = true) :
    s.readToken '-' rest = s.blockEntry := by
  simp [readToken, noMarker, blank]

theorem blockEntry_between :
    (between ⟨'-' :: rest, index, line, column⟩ ts is true).blockEntry =
      some (between ⟨rest, index + 1, line, column + 1⟩
        (.blockEntry :: openTokens column is .blockSequenceStart ts) (openIndents column is)
        true) := by
  have opened := openBlock_between ⟨'-' :: rest, index, line, column⟩ ts is true .blockSequenceStart
  have allowed : (!(between ⟨'-' :: rest, index, line, column⟩ ts is true).inFlow &&
      !(between ⟨'-' :: rest, index, line, column⟩ ts is true).keyAllowed) = false := rfl
  have here : (between ⟨'-' :: rest, index, line, column⟩ ts is true).place.column = column := rfl
  have count : (between ⟨'-' :: rest, index, line, column⟩ ts is true).count = ts.length := rfl
  rw [blockEntry, allowed, here, count, opened]
  rfl

theorem Settled.dash (h : Settled s ('-' :: rest) column is ts) (blank : startsBlank rest = true) :
    ∃ index line, s.next = some (between ⟨rest, index, line, column + 1⟩
      (.blockEntry :: openTokens column is .blockSequenceStart ts) (openIndents column is)
      true) := by
  obtain ⟨index, line, settled⟩ := h
  have noMarker : Place.atMarker ⟨'-' :: rest, index, line, column⟩ = false := by
    simp [Place.atMarker, startsMarker_dash blank]
  refine ⟨index + 1, line, ?_⟩
  rw [next_of_settle settled rfl, readToken_dash noMarker blank, blockEntry_between]

/-- What is remembered of a key that may start at a place and need not. -/
def StartsAt (index line : Nat) (candidate : Option SimpleKey) : Prop :=
  ∀ k ∈ candidate, k.required = false ∧ k.line = line ∧ k.index = index

theorem StartsAt.forgettable {candidate : Option SimpleKey} {later : Nat}
    (h : StartsAt index line candidate) (lt : line < later) : Forgettable later candidate := by
  intro k mem
  obtain ⟨free, here, -⟩ := h k mem
  exact ⟨free, by omega⟩

theorem saveKey_between (p : Place) (ts : List Token) (is : List Nat) (key : Bool)
    (head : is.head? ≠ some p.column) :
    ∃ candidate, StartsAt p.index p.line candidate ∧
      saveKey (between p ts is key) = some (remembering candidate p ts is key) := by
  cases key with
  | false => exact ⟨none, by simp [StartsAt], rfl⟩
  | true =>
    refine ⟨some ⟨false, ts.length, p.index, p.line, p.column⟩, by simp [StartsAt], ?_⟩
    simp [saveKey, dropKey, remembering, inFlow, head]

theorem readToken_plain {c : Char} (block : s.outer = []) (noMarker : s.place.atMarker = false)
    (starts : startsIndicator (c :: rest) = false) (ink : IsInk c) :
    s.readToken c rest = s.plainScalar := by
  have noFlow : s.inFlow = false := by simp [inFlow, block]
  obtain ⟨other, marks⟩ := Bool.or_eq_false_iff.mp starts
  have other := of_decide_eq_false other
  have ne {d : Char} (mem : d ∈ ['#', ',', '[', ']', '{', '}', '&', '*', '!', '|', '>', '\'', '"',
      '%', '@', '`']) : c ≠ d := fun eq => other (eq ▸ mem)
  have blank {d : Char} (mark : d = '?' ∨ d = ':' ∨ d = '-') :
      (c == d && startsBlank rest) = false := by
    by_cases eq : c = d
    · rcases mark with rfl | rfl | rfl <;> simpa [eq] using marks
    · simp [eq]
  have percent : (s.place.column == 0 && c == '%') = false := by simp [ne]
  have plain : startsPlain false c rest = true := by
    by_cases mark : c = '?' ∨ c = ':' ∨ c = '-'
    · have inked : startsBlank rest = false := by
        rcases mark with rfl | rfl | rfl <;> simpa using marks
      have noBlank : rest.head?.any isBlank = false := by
        cases rest with
        | nil => rfl
        | cons d rest => exact (Bool.or_eq_false_iff.mp inked).1
      rcases mark with rfl | rfl | rfl <;> simp [startsPlain, inked, noBlank]
    · simp only [not_or] at mark
      simp [startsPlain, isIndicator, ne, mark, ink.1, ink.2]
  simp only [readToken, percent, noMarker, Bool.false_eq_true, if_false]
  split
  all_goals try exact absurd rfl (ne (by decide))
  simp [blank, plain, noFlow, ne]

end Collections

end Ligature.Yaml.Scanner
