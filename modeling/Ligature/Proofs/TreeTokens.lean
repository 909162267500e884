import Ligature.Proofs.PrintedText
import Ligature.Proofs.ScalarTokens

/-!
# Trees as tokens

The tokens that a tree is written as, and that the scanner reads these from the printed tree. A
sequence of a mapping is as deep as the mapping, so that its items have no marks of their own.
-/
namespace Ligature.Yaml

namespace Tree

mutual

def tokens (inMapping : Bool) : Tree → List Token
  | .null => [.scalar "null" .plain]
  | .number n => [.scalar (String.ofList (Nat.toDigits 10 n)) .plain]
  | .text s => [.scalar s (textStyle s.toList)]
  | .quoted s => [.scalar s (quoteStyle s.toList)]
  | .sequence [] => [.flowSequenceStart, .flowSequenceEnd]
  | .sequence (item :: items) =>
    if inMapping then itemTokens (item :: items)
    else .blockSequenceStart :: itemTokens (item :: items) ++ [.blockEnd]
  | .mapping [] => [.flowMappingStart, .flowMappingEnd]
  | .mapping (entry :: entries) =>
    .blockMappingStart :: entryTokens (entry :: entries) ++ [.blockEnd]

def itemTokens : List Tree → List Token
  | [] => []
  | t :: rest => .blockEntry :: t.tokens false ++ itemTokens rest

def entryTokens : List (String × Tree) → List Token
  | [] => []
  | (key, t) :: rest => .key :: .scalar key .plain :: .value :: t.tokens true ++ entryTokens rest

end

end Tree

namespace Scanner

variable {s : Scanner} {cs rest : List Char} {index line column i next : Nat} {ts : List Token}
  {is : List Nat}

/-! ### Keys -/

def IsKeyChar (c : Char) : Prop := c.isLower = true ∨ c = '_'

theorem IsKeyChar.ne {c d : Char} (h : IsKeyChar c) (lower : d.isLower = false) (other : d ≠ '_') :
    c ≠ d := by
  rintro rfl
  rcases h with low | rfl
  · rw [low] at lower
    cases lower
  · exact other rfl

theorem IsKeyChar.isInk {c : Char} (h : IsKeyChar c) : IsInk c := by
  constructor
  · simp [isBlank, h.ne (d := ' ') rfl (by decide), h.ne (d := '\t') rfl (by decide)]
  · simp [isBreak, h.ne (d := '\n') rfl (by decide), h.ne (d := '\r') rfl (by decide),
      h.ne (d := '\x85') rfl (by decide), h.ne (d := '\u2028') rfl (by decide),
      h.ne (d := '\u2029') rfl (by decide)]

theorem plainRun_name {key : List Char} (name : ∀ c ∈ key, IsKeyChar c)
    (blank : startsBlank rest = true) : plainRun false (key ++ ':' :: rest) = some key := by
  induction key with
  | nil => simp [plainRun, isBlank, isBreak, blank]
  | cons c key ih =>
    obtain ⟨first, later⟩ := List.forall_mem_cons.mp name
    have ink := first.isInk
    simp [plainRun, ink.1, ink.2, first.ne (d := ':') rfl (by decide), ih later]

theorem startsMarker_name {c : Char} (name : IsKeyChar c) : startsMarker (c :: rest) = false := by
  unfold startsMarker
  split
  · rename_i eq
    exact absurd (List.cons.inj eq).1 (name.ne rfl (by decide))
  · rename_i eq
    exact absurd (List.cons.inj eq).1 (name.ne rfl (by decide))
  · rfl

theorem startsIndicator_name {c : Char} (name : IsKeyChar c) :
    startsIndicator (c :: rest) = false := by
  have other : c ∉ ['#', ',', '[', ']', '{', '}', '&', '*', '!', '|', '>', '\'', '"', '%', '@',
      '`'] := by
    intro mem
    have marks : ∀ d ∈ ['#', ',', '[', ']', '{', '}', '&', '*', '!', '|', '>', '\'', '"', '%', '@',
        '`'], d.isLower = false ∧ d ≠ '_' := by simp
    obtain ⟨lower, under⟩ := marks c mem
    exact name.ne lower under rfl
  simp [startsIndicator, other, name.ne (d := '?') rfl (by decide),
    name.ne (d := ':') rfl (by decide), name.ne (d := '-') rfl (by decide)]

theorem plainScalar_name {key : List Char} (name : ∀ c ∈ key, IsKeyChar c) (written : key ≠ [])
    (blank : startsBlank rest = true) :
    ∃ k : SimpleKey, k.tokens = ts.length ∧ k.column = column ∧ k.line = line ∧ k.index = index ∧
      (between ⟨key ++ ':' :: rest, index, line, column⟩ ts is true).plainScalar =
        some (remembering (some k) ⟨':' :: rest, index + key.length, line, column + key.length⟩
          (.scalar (String.ofList key) .plain :: ts) is false) := by
  refine ⟨⟨is.head? == some column, ts.length, index, line, column⟩, rfl, rfl, rfl, rfl, ?_⟩
  have noMarker : Place.atMarker ⟨key ++ ':' :: rest, index, line, column⟩ = false := by
    obtain ⟨c, key, rfl⟩ := List.exists_cons_of_ne_nil written
    simp [Place.atMarker, startsMarker_name (name c List.mem_cons_self)]
  have noComment : (key ++ ':' :: rest).head? ≠ some '#' := by
    obtain ⟨c, key, rfl⟩ := List.exists_cons_of_ne_nil written
    simpa using (name c List.mem_cons_self).ne rfl (by decide)
  have run := plainRun_name name blank
  have behind := Place.advance_append key (':' :: rest) index line column
  have inked : startsBlank (':' :: rest) = false := rfl
  have notEmpty : key.isEmpty = false := by simpa using written
  have read (limit fuel : Nat) :
      readPlain false limit (fuel + 1) [] .none ⟨key ++ ':' :: rest, index, line, column⟩ =
        some (key, false, ⟨':' :: rest, index + key.length, line, column + key.length⟩) := by
    simp only [readPlain, noMarker, Bool.false_or, decide_eq_true_eq, noComment, if_false, run,
      behind, inked, notEmpty]
    simp [Gap.text, Gap.none]
  have free : (between ⟨key ++ ':' :: rest, index, line, column⟩ ts is true).saveKey =
      some (remembering (some ⟨is.head? == some column, ts.length, index, line, column⟩)
        ⟨key ++ ':' :: rest, index, line, column⟩ ts is true) := by
    simp [saveKey, dropKey, remembering, inFlow]
  rw [plainScalar, free]
  simp only [remembering, inFlow, Option.bind_some, List.isEmpty_nil, Bool.not_true, read,
    Option.map_some]
  rfl

theorem settle_alive {c : Char} {k : SimpleKey} {key : Bool} (starts : StartsToken (c :: rest))
    (alive' : alive ⟨c :: rest, index, line, column⟩ k = true)
    (within : IsInside column is) :
    settle (remembering (some k) ⟨c :: rest, index, line, column⟩ ts is key) =
      some (remembering (some k) ⟨c :: rest, index, line, column⟩ ts is key) := by
  have skipped : skipToToken ((c :: rest).length + 1)
      (remembering (some k) ⟨c :: rest, index, line, column⟩ ts is key) =
      remembering (some k) ⟨c :: rest, index, line, column⟩ ts is key :=
    skipToToken_spaces (k := 0) starts rfl
  have kept : dropStale (remembering (some k) ⟨c :: rest, index, line, column⟩ ts is key) =
      some (remembering (some k) ⟨c :: rest, index, line, column⟩ ts is key) := by
    simp [dropStale, remembering, alive']
  have closed : closeBlocks (remembering (some k) ⟨c :: rest, index, line, column⟩ ts is key)
      (some column) = remembering (some k) ⟨c :: rest, index, line, column⟩ ts is key := by
    rw [closeBlocks_remembering, within.ends, within.remaining, List.nil_append]
  have start : (remembering (some k) ⟨c :: rest, index, line, column⟩ ts is key).place.rest =
      c :: rest := rfl
  rw [settle, start, skipped, kept, Option.map_some]
  exact congrArg some closed

theorem insertAt_key {candidate : Option SimpleKey} {p : Place} {text : Token} :
    (remembering candidate p (text :: ts) is false).insertAt ts.length .key =
      remembering candidate p (text :: .key :: ts) is false := by
  have later : ts.length + 1 - ts.length = 1 := by omega
  simp [insertAt, remembering, later]

theorem openBlock_key {candidate : Option SimpleKey} {p : Place} {text : Token} :
    (remembering candidate p (text :: .key :: ts) is false).openBlock column ts.length
        .blockMappingStart =
      remembering candidate p (text :: .key :: openTokens column is .blockMappingStart ts)
        (openIndents column is) false := by
  have deep : (remembering candidate p (text :: .key :: ts) is false).deeper column =
      is.head?.all (· < column) := rfl
  have noFlow : (remembering candidate p (text :: .key :: ts) is false).inFlow = false := rfl
  have later : ts.length + 1 + 1 - ts.length = 2 := by omega
  simp only [openBlock, noFlow, deep, Bool.false_or]
  by_cases opens : is.head?.all (· < column) = true
  · simp [opens, openTokens, openIndents, insertAt, remembering, later]
  · simp [opens, openTokens, openIndents]

/-- A colon behind the text of a key: the marks of the key go before this text. -/
theorem mappingValue_remembering {k : SimpleKey} {text : Token} {start : Nat}
    (tokens : k.tokens = ts.length) (here : k.column = start) :
    (remembering (some k) ⟨':' :: rest, index, line, column⟩ (text :: ts) is false).mappingValue =
      some (between ⟨rest, index + 1, line, column + 1⟩
        (.value :: text :: .key :: openTokens start is .blockMappingStart ts) (openIndents start is)
        false) := by
  have remembered : (remembering (some k) ⟨':' :: rest, index, line, column⟩ (text :: ts) is
      false).candidate = some k := rfl
  rw [mappingValue, remembered]
  simp only [tokens, here, insertAt_key, openBlock_key]
  rfl

theorem readToken_colon (noMarker : s.place.atMarker = false) (blank : startsBlank rest = true) :
    s.readToken ':' rest = s.mappingValue := by
  simp [readToken, noMarker, blank]

theorem Settled.key {key : List Char} (h : Settled s (key ++ ':' :: rest) column is ts)
    (name : ∀ c ∈ key, IsKeyChar c) (written : key ≠ []) (short : key.length ≤ 1024)
    (blank : startsBlank rest = true) (within : IsInside column is) :
    ∃ index line column', column < column' ∧ Passes 2 s (between ⟨rest, index, line, column'⟩
      (.value :: .scalar (String.ofList key) .plain :: .key ::
        openTokens column is .blockMappingStart ts) (openIndents column is) false) := by
  obtain ⟨index, line, settled⟩ := h
  obtain ⟨k, tokens, start, here, at', read⟩ := @plainScalar_name rest index line column ts is key
    name written blank
  refine ⟨index + key.length + 1, line, column + key.length + 1, by omega, ?_⟩
  have first : s.next = some (remembering (some k) ⟨':' :: rest, index + key.length, line,
      column + key.length⟩ (.scalar (String.ofList key) .plain :: ts) is false) := by
    obtain ⟨c, key, rfl⟩ := List.exists_cons_of_ne_nil written
    have first := name c List.mem_cons_self
    have noMarker : Place.atMarker ⟨c :: key ++ ':' :: rest, index, line, column⟩ = false := by
      simp [Place.atMarker, startsMarker_name first]
    rw [next_of_settle settled rfl, readToken_plain rfl noMarker (startsIndicator_name first)
      first.isInk, read]
  have live : alive ⟨':' :: rest, index + key.length, line, column + key.length⟩ k = true := by
    simp only [alive, here, at', beq_self_eq_true, Bool.true_and, decide_eq_true_eq]
    omega
  have deeper : IsInside (column + key.length) is := fun i start =>
    Nat.le_trans (within i start) (Nat.le_add_right _ _)
  have size := List.length_pos_iff.mpr written
  have second : (remembering (some k) ⟨':' :: rest, index + key.length, line,
      column + key.length⟩ (.scalar (String.ofList key) .plain :: ts) is false).next =
      some (between ⟨rest, index + key.length + 1, line, column + key.length + 1⟩
        (.value :: .scalar (String.ofList key) .plain :: .key ::
          openTokens column is .blockMappingStart ts) (openIndents column is) false) := by
    rw [next_of_settle (settle_alive (startsToken_cons rest (by decide)) live deeper) rfl,
      readToken_colon (noMarker_of_pos (by simp [remembering]; omega)) blank,
      mappingValue_remembering tokens start]
  exact (Passes.step first (by simp [remembering])).trans
    (Passes.step second (by simp [remembering]))

/-! ### Trees -/

theorem ReadsValue.mono {n m : Nat} {value : List Token} (h : ReadsValue s n value rest next is ts)
    (le : n ≤ m) : ReadsValue s m value rest next is ts := by
  obtain ⟨t, passes, settled⟩ := h
  exact ⟨t, passes.mono le, settled⟩

theorem startsToken_printItems (indent : Nat) {items : List Tree} (some : items ≠ [])
    (after : List Char) : StartsToken (Tree.printItems indent false items ++ after) := by
  obtain ⟨item, items, rfl⟩ := List.exists_cons_of_ne_nil some
  exact startsToken_cons _ (by decide)

theorem name_ne_nil {key : String} (name : IsName key) : key.toList ≠ [] := by
  intro empty
  have kind := name.1
  rw [empty] at kind
  cases kind

theorem startsToken_printEntries (indent : Nat) {entries : List (String × Tree)}
    (some : entries ≠ []) (fit : Tree.EntriesFit entries) (after : List Char) :
    StartsToken (Tree.printEntries indent false entries ++ after) := by
  obtain ⟨⟨key, t⟩, entries, rfl⟩ := List.exists_cons_of_ne_nil some
  obtain ⟨name, -, -⟩ := fit
  obtain ⟨c, cs, start⟩ := List.exists_cons_of_ne_nil (name_ne_nil name)
  have first : IsKeyChar c := name.2.1 c (start ▸ List.mem_cons_self)
  simp only [Tree.printEntries, start]
  exact startsToken_cons _ ⟨first.isInk, first.ne rfl (by decide), first.ne (by decide) (by decide)⟩

theorem ReadsValue.after {t : Scanner} {n m : Nat} {front value : List Token}
    (passes : Passes n s t) (h : ReadsValue t m value rest next is (front.reverse ++ ts)) :
    ReadsValue s (n + m) (front ++ value) rest next is ts := by
  obtain ⟨u, later, settled⟩ := h
  refine ⟨u, passes.trans later, ?_⟩
  rwa [List.reverse_append, List.append_assoc]

theorem ReadsValue.append {n m : Nat} {part later : List Token} {after : List Char}
    (h : ReadsValue s n part after column (column :: is) ts)
    (rest' : ∀ t, Settled t after column (column :: is) (part.reverse ++ ts) →
      ReadsValue t m later rest next (column :: is) (part.reverse ++ ts)) :
    ReadsValue s (n + m) (part ++ later) rest next (column :: is) ts := by
  obtain ⟨t, passes, settled⟩ := h
  have within : IsInside column (column :: is) := isInside_cons (Nat.le_refl _)
  rw [within.ends, within.remaining, List.nil_append] at settled
  exact (rest' t settled).after passes

/-- A collection with marks of its own is closed with the collections around it. -/
theorem ReadsValue.collection {n : Nat} {start : Token} {parts : List Token}
    (h : ReadsValue s n parts rest next (column :: is) (start :: ts)) (left : next < column) :
    ReadsValue s n (start :: parts ++ [.blockEnd]) rest next is ts := by
  obtain ⟨t, passes, settled⟩ := h
  rw [ends_cons left, remaining_cons left] at settled
  refine ⟨t, passes, ?_⟩
  simpa using settled

variable (index line column ts is) in
theorem settled_line (key : Bool) (starts : StartsToken cs) (within : IsInside next is) :
    Settled (between ⟨'\n' :: (indentation next ++ cs), index, line, column⟩ ts is key) cs next is
      ts := by
  have settled : settle (between ⟨'\n' :: (indentation next ++ cs), index, line, column⟩ ts is
      key) = _ := settle_line starts (by simp [Forgettable])
  rw [within.ends, within.remaining] at settled
  exact ⟨_, _, settled⟩

variable (index line ts is) in
theorem settled_value (starts : StartsToken cs) (deep : i ≤ column) :
    Settled (between ⟨' ' :: cs, index, line, column⟩ ts (i :: is) true) cs (column + 1) (i :: is)
      ts := ⟨_, _, settle_value starts deep⟩

theorem readsValue_number {key : Bool} (n : Nat) (margin : StartsToken rest) (shallow : next ≤ i)
    (deep : i < column) :
    ReadsValue (between ⟨' ' :: Nat.toDigits 10 n ++ ['\n'] ++ (indentation next ++ rest), index,
      line, column⟩ ts (i :: is) key) 1 [.scalar (String.ofList (Nat.toDigits 10 n)) .plain]
      rest next (i :: is) ts := by
  have digits : ∀ c ∈ Nat.toDigits 10 n, c.isDigit = true := fun c => isDigit_of_mem_decimal
  have written : Nat.toDigits 10 n ≠ [] := Nat.toDigits_ne_nil
  have starts : startsIndicator (Nat.toDigits 10 n) = false :=
    startsIndicator_of_isDigit digits
  have text : ' ' :: Nat.toDigits 10 n ++ ['\n'] ++ (indentation next ++ rest) =
      ' ' :: (Nat.toDigits 10 n ++ '\n' :: (indentation next ++ rest)) := by simp
  rw [text]
  exact readsValue_plain (plainFrom_of_isDigit digits) starts written margin shallow deep

mutual

/-- A value is read behind its mark, and with the next token the collections that this has left are
closed. -/
theorem readsValue_tree : (t : Tree) → (inMapping : Bool) → (i next index line column : Nat) →
    (is : List Nat) → (ts : List Token) → (rest : List Char) → t.Fits → StartsToken rest →
    next ≤ i → i < column → (inMapping = false → column = i + 1) →
    ReadsValue (between ⟨t.printValue i inMapping ++ (indentation next ++ rest), index, line,
      column⟩ ts (i :: is) !inMapping) (t.printValue i inMapping).length (t.tokens inMapping) rest
      next (i :: is) ts
  | .null, inMapping, i, next, index, line, column, is, ts, rest, _, margin, shallow, deep, _ => by
    have plain : plainAllowed "null".toList = true := by decide
    exact (readsValue_plain (plainFrom_of_plainAllowed plain)
      (startsIndicator_of_plainAllowed plain) (by decide) margin shallow deep).mono
        (by simp [Tree.printValue])
  | .number n, inMapping, i, next, index, line, column, is, ts, rest, _, margin, shallow, deep, _ =>
    (readsValue_number n margin shallow deep).mono (by simp [Tree.printValue])
  | .text s, inMapping, i, next, index, line, column, is, ts, rest, _, margin, shallow, deep, _ =>
    by
    have tokens : (Tree.text s).tokens inMapping =
        [.scalar (String.ofList s.toList) (textStyle s.toList)] := by
      rw [String.ofList_toList, Tree.tokens]
    rw [tokens]
    exact (readsValue_textStyle margin shallow deep).mono (by simp [Tree.printValue])
  | .quoted s, inMapping, i, next, index, line, column, is, ts, rest, _, margin, _, deep, _ => by
    have tokens : (Tree.quoted s).tokens inMapping =
        [.scalar (String.ofList s.toList) (quoteStyle s.toList)] := by
      rw [String.ofList_toList, Tree.tokens]
    rw [tokens]
    exact (readsValue_quoteStyle margin deep).mono (by simp [Tree.printValue])
  | .sequence [], inMapping, i, next, index, line, column, is, ts, rest, _, margin, _, deep, _ =>
    (readsValue_emptySequence margin deep).mono (by simp [Tree.printValue])
  | .sequence (item :: items), true, i, next, index, line, column, is, ts, rest, fits, margin,
      shallow, deep, _ => by
    have written := List.cons_ne_nil item items
    have text : (Tree.sequence (item :: items)).printValue i true ++ (indentation next ++ rest) =
        '\n' :: (indentation i ++ (Tree.printItems i false (item :: items) ++
          (indentation next ++ rest))) := by
      simp [Tree.printValue, printItems_pad i written]
    have starts := startsToken_printItems i written (indentation next ++ rest)
    rw [text]
    have settled := settled_line index line column ts (i :: is) false starts
      (isInside_cons (Nat.le_refl i))
    have read := readsItems (item :: items) i next (i :: is) is ts rest written fits margin shallow
      (openIndents_same i is) _ settled
    rw [openTokens_same] at read
    exact read.mono (by simp [Tree.printValue, printItems_pad i written]; omega)
  | .sequence (item :: items), false, i, next, index, line, column, is, ts, rest, fits, margin,
      shallow, deep, here => by
    obtain rfl := here rfl
    have written := List.cons_ne_nil item items
    have starts := startsToken_printItems (i + 2) written (indentation next ++ rest)
    have settled := settled_value index line ts is starts (Nat.le_of_lt deep)
    have read := readsItems (item :: items) (i + 2) next (i :: is) (i :: is) ts rest written fits
      margin (by omega) (openIndents_deeper (by omega)) _ settled
    rw [openTokens_deeper (by omega)] at read
    exact (read.collection (by omega)).mono (by simp [Tree.printValue])
  | .mapping [], inMapping, i, next, index, line, column, is, ts, rest, _, margin, _, deep, _ =>
    (readsValue_emptyMapping margin deep).mono (by simp [Tree.printValue])
  | .mapping (entry :: entries), true, i, next, index, line, column, is, ts, rest, fits, margin,
      shallow, deep, _ => by
    have written := List.cons_ne_nil entry entries
    have text : (Tree.mapping (entry :: entries)).printValue i true ++ (indentation next ++ rest) =
        '\n' :: (indentation (i + 2) ++ (Tree.printEntries (i + 2) false (entry :: entries) ++
          (indentation next ++ rest))) := by
      simp [Tree.printValue, printEntries_pad (i + 2) written]
    have starts := startsToken_printEntries (i + 2) written fits (indentation next ++ rest)
    rw [text]
    have settled := settled_line index line column ts (i :: is) false starts
      (isInside_cons (Nat.le_add_right i 2))
    have read := readsEntries (entry :: entries) (i + 2) next (i :: is) (i :: is) ts rest written
      fits margin (by omega) (openIndents_deeper (by omega)) _ settled
    rw [openTokens_deeper (by omega)] at read
    exact (read.collection (by omega)).mono (by
      simp [Tree.printValue, printEntries_pad (i + 2) written]; omega)
  | .mapping (entry :: entries), false, i, next, index, line, column, is, ts, rest, fits, margin,
      shallow, deep, here => by
    obtain rfl := here rfl
    have written := List.cons_ne_nil entry entries
    have starts := startsToken_printEntries (i + 2) written fits (indentation next ++ rest)
    have settled := settled_value index line ts is starts (Nat.le_of_lt deep)
    have read := readsEntries (entry :: entries) (i + 2) next (i :: is) (i :: is) ts rest written
      fits margin (by omega) (openIndents_deeper (by omega)) _ settled
    rw [openTokens_deeper (by omega)] at read
    exact (read.collection (by omega)).mono (by simp [Tree.printValue])

theorem readsItems : (items : List Tree) → (column next : Nat) → (is is' : List Nat) →
    (ts : List Token) → (rest : List Char) → items ≠ [] → Tree.AllFit items → StartsToken rest →
    next ≤ column → openIndents column is = column :: is' → (s : Scanner) →
    Settled s (Tree.printItems column false items ++ (indentation next ++ rest)) column is ts →
    ReadsValue s (Tree.printItems column false items).length (Tree.itemTokens items) rest next
      (column :: is') (openTokens column is .blockSequenceStart ts)
  | [], _, _, _, _, _, _, written, _, _, _, _, _, _ => absurd rfl written
  | item :: items, column, next, is, is', ts, rest, _, fits, margin, shallow, opens, s,
      settled => by
    -- the first item ends where the next one starts, or where the sequence ends
    have first (next : Nat) (rest : List Char) (margin : StartsToken rest) (shallow : next ≤ column)
        (settled : Settled s ('-' :: (item.printValue column false ++ (indentation next ++ rest)))
          column is ts) :
        ReadsValue s (1 + (item.printValue column false).length)
          ([.blockEntry] ++ item.tokens false) rest next (column :: is')
          (openTokens column is .blockSequenceStart ts) := by
      obtain ⟨index, line, dashed⟩ := settled.dash (startsBlank_printValue item column false _)
      rw [opens] at dashed
      have value := readsValue_tree item false column next index line (column + 1) is'
        (.blockEntry :: openTokens column is .blockSequenceStart ts) rest fits.1 margin shallow
        (by omega) fun _ => rfl
      exact value.after (Passes.step dashed (by simp [remembering]))
    by_cases more : items = []
    · subst more
      have text : Tree.printItems column false [item] ++ (indentation next ++ rest) =
          '-' :: (item.printValue column false ++ (indentation next ++ rest)) := by
        simp [Tree.printItems]
      rw [text] at settled
      have read := first next rest margin shallow settled
      simpa [Tree.printItems, Tree.itemTokens, Nat.add_comm] using read
    · have text : Tree.printItems column false (item :: items) ++ (indentation next ++ rest) =
          '-' :: (item.printValue column false ++ (indentation column ++
            (Tree.printItems column false items ++ (indentation next ++ rest)))) := by
        simp [Tree.printItems, printItems_pad column more]
      rw [text] at settled
      have read := first column _ (startsToken_printItems column more _) (Nat.le_refl _) settled
      have whole := read.append fun t settled => by
        have later := readsItems items column next (column :: is') is' _ rest more fits.2 margin
          shallow (openIndents_same column is') t settled
        rwa [openTokens_same] at later
      have tokens : Tree.itemTokens (item :: items) =
          [.blockEntry] ++ item.tokens false ++ Tree.itemTokens items := rfl
      rw [tokens]
      exact whole.mono (by simp [Tree.printItems, printItems_pad column more]; omega)

theorem readsEntries : (entries : List (String × Tree)) → (column next : Nat) →
    (is is' : List Nat) → (ts : List Token) → (rest : List Char) → entries ≠ [] →
    Tree.EntriesFit entries → StartsToken rest → next ≤ column →
    openIndents column is = column :: is' → (s : Scanner) →
    Settled s (Tree.printEntries column false entries ++ (indentation next ++ rest)) column is ts →
    ReadsValue s (Tree.printEntries column false entries).length (Tree.entryTokens entries) rest
      next (column :: is') (openTokens column is .blockMappingStart ts)
  | [], _, _, _, _, _, _, written, _, _, _, _, _, _ => absurd rfl written
  | (key, t) :: entries, column, next, is, is', ts, rest, _, fits, margin, shallow, opens, s,
      settled => by
    have within : IsInside column is := isInside_of_openIndents opens
    obtain ⟨name, tFits, entriesFit⟩ := fits
    have size := List.length_pos_iff.mpr (name_ne_nil name)
    -- the first value ends where the next key starts, or where the mapping ends
    have first (next : Nat) (rest : List Char) (margin : StartsToken rest) (shallow : next ≤ column)
        (settled : Settled s (key.toList ++ ':' :: (t.printValue column true ++
          (indentation next ++ rest))) column is ts) :
        ReadsValue s (2 + (t.printValue column true).length)
          ([.key, .scalar key .plain, .value] ++ t.tokens true) rest next (column :: is')
          (openTokens column is .blockMappingStart ts) := by
      obtain ⟨index, line, column', deep, passes⟩ := settled.key name.2.1 (name_ne_nil name)
        name.2.2 (startsBlank_printValue t column true _) within
      rw [opens, String.ofList_toList] at passes
      have value := readsValue_tree t true column next index line column' is'
        (.value :: .scalar key .plain :: .key :: openTokens column is .blockMappingStart ts) rest
        tFits margin shallow deep (by simp)
      exact value.after passes
    by_cases more : entries = []
    · subst more
      have text : Tree.printEntries column false [(key, t)] ++ (indentation next ++ rest) =
          key.toList ++ ':' :: (t.printValue column true ++ (indentation next ++ rest)) := by
        simp [Tree.printEntries]
      rw [text] at settled
      have read := first next rest margin shallow settled
      have tokens : Tree.entryTokens [(key, t)] =
          [.key, .scalar key .plain, .value] ++ t.tokens true := by
        simp [Tree.entryTokens]
      rw [tokens]
      exact read.mono (by simp [Tree.printEntries]; omega)
    · have text :
          Tree.printEntries column false ((key, t) :: entries) ++ (indentation next ++ rest) =
          key.toList ++ ':' :: (t.printValue column true ++ (indentation column ++
            (Tree.printEntries column false entries ++ (indentation next ++ rest)))) := by
        simp [Tree.printEntries, printEntries_pad column more]
      rw [text] at settled
      have read := first column _ (startsToken_printEntries column more entriesFit _)
        (Nat.le_refl _) settled
      have whole := read.append fun u settled => by
        have later := readsEntries entries column next (column :: is') is' _ rest more entriesFit
          margin shallow (openIndents_same column is') u settled
        rwa [openTokens_same] at later
      have tokens : Tree.entryTokens ((key, t) :: entries) =
          [.key, .scalar key .plain, .value] ++ t.tokens true ++ Tree.entryTokens entries := rfl
      rw [tokens]
      exact whole.mono (by simp [Tree.printEntries, printEntries_pad column more]; omega)

end

end Scanner

end Ligature.Yaml
