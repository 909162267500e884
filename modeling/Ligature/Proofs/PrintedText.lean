import Ligature.Proofs.Scalars
import Ligature.Proofs.YamlTrees

/-!
# Printed text

How the parts of a printed tree begin, and that nothing is printed that may not stand in a YAML
text: what is not printable is behind an escape.
-/
namespace Ligature.Yaml

/-! ### Starts of lines -/

theorem startsBlank_printValue (t : Tree) (indent : Nat) (inMapping : Bool) (after : List Char) :
    startsBlank (t.printValue indent inMapping ++ after) = true := by
  cases t with
  | null | number | text | quoted => rfl
  | sequence items => cases items <;> cases inMapping <;> rfl
  | mapping entries => cases entries <;> cases inMapping <;> rfl

theorem printItems_pad (indent : Nat) {items : List Tree} (some : items ≠ []) :
    Tree.printItems indent true items =
      indentation indent ++ Tree.printItems indent false items := by
  obtain ⟨item, items, rfl⟩ := List.exists_cons_of_ne_nil some
  simp [Tree.printItems]

theorem printEntries_pad (indent : Nat) {entries : List (String × Tree)} (some : entries ≠ []) :
    Tree.printEntries indent true entries =
      indentation indent ++ Tree.printEntries indent false entries := by
  obtain ⟨⟨key, t⟩, entries, rfl⟩ := List.exists_cons_of_ne_nil some
  simp [Tree.printEntries]

/-! ### Allowed characters -/

def AllAllowed (cs : List Char) : Prop := ∀ c ∈ cs, isAllowed c = true

section Parts

variable {cs ds : List Char}

@[simp] theorem allAllowed_nil : AllAllowed [] := by simp [AllAllowed]

@[simp] theorem allAllowed_cons {c : Char} :
    AllAllowed (c :: cs) ↔ isAllowed c = true ∧ AllAllowed cs := List.forall_mem_cons

@[simp] theorem allAllowed_append : AllAllowed (cs ++ ds) ↔ AllAllowed cs ∧ AllAllowed ds :=
  List.forall_mem_append

@[simp] theorem allAllowed_indentation (n : Nat) : AllAllowed (indentation n) := by
  intro c mem
  rw [List.eq_of_mem_replicate mem]
  rfl

theorem allAllowed_of_isPrintable (printed : ∀ c ∈ cs, isPrintable c = true) : AllAllowed cs :=
  fun c mem => isAllowed_of_isPrintable (printed c mem)

theorem allAllowed_endLine (h : AllAllowed cs) : AllAllowed (endLine cs) := by
  have feed : isAllowed '\n' = true := rfl
  unfold endLine
  split <;> simp [h, feed]

end Parts

/-! ### Scalars -/

section Scalars

variable {n : Nat} {cs : List Char}

theorem allAllowed_singleQuotedBody (broken : Bool) (h : AllAllowed cs) :
    AllAllowed (singleQuotedBody n broken cs) := by
  have feed : isAllowed '\n' = true := rfl
  have quote : isAllowed '\'' = true := rfl
  induction cs generalizing broken with
  | nil => cases broken <;> simp [singleQuotedBody]
  | cons c cs ih =>
    obtain ⟨first, later⟩ := allAllowed_cons.mp h
    have rest := fun broken => ih broken later
    unfold singleQuotedBody
    split
    · split <;> simp [feed, first, rest]
    · split <;> split <;> simp [quote, first, rest]

theorem allAllowed_literalBody (broken : Bool) (h : AllAllowed cs) :
    AllAllowed (literalBody n broken cs) := by
  induction cs generalizing broken with
  | nil => simp [literalBody]
  | cons c cs ih =>
    obtain ⟨first, later⟩ := allAllowed_cons.mp h
    have rest := fun broken => ih broken later
    unfold literalBody
    split
    · simp [first, rest]
    · split <;> simp [first, rest]

theorem allAllowed_literalHeader (cs : List Char) : AllAllowed (literalHeader cs) := by
  have bar : isAllowed '|' = true := rfl
  have two : isAllowed '2' = true := rfl
  have strip : isAllowed '-' = true := rfl
  have keep : isAllowed '+' = true := rfl
  unfold literalHeader
  simp only [List.cons_append, allAllowed_cons, allAllowed_append, bar, true_and]
  constructor
  · split <;> simp [two]
  · split
    · simp [strip]
    · split
      · simp [strip]
      · split <;> simp [keep]

theorem isAllowed_of_hexDigit? {c : Char} (digit : (Unicode.hexDigit? c).isSome = true) :
    isAllowed c = true := by
  have range {a b : Char} (low : 0x20 ≤ a.toNat) (high : b.toNat ≤ 0x7E) (h : a ≤ c ∧ c ≤ b) :
      isAllowed c = true := by
    have above : a.toNat ≤ c.toNat := UInt32.le_iff_toNat_le.mp h.1
    have below : c.toNat ≤ b.toNat := UInt32.le_iff_toNat_le.mp h.2
    simp only [isAllowed, Bool.or_eq_true, Bool.and_eq_true, decide_eq_true_eq]
    omega
  unfold Unicode.hexDigit? at digit
  split at digit
  · exact range (a := '0') (b := '9') (by decide) (by decide) ‹_›
  · split at digit
    · exact range (a := 'A') (b := 'F') (by decide) (by decide) ‹_›
    · split at digit
      · exact range (a := 'a') (b := 'f') (by decide) (by decide) ‹_›
      · cases digit

theorem allAllowed_hexDigits (width n : Nat) : AllAllowed (hexDigits width n) :=
  fun c mem => isAllowed_of_hexDigit? (isSome_hexDigit?_hexDigits c mem)

theorem allAllowed_escapedChar (c : Char) : AllAllowed (escapedChar c) := by
  unfold escapedChar
  split
  · rename_i direct
    simp only [Bool.and_eq_true] at direct
    simpa using isAllowed_of_isPrintable direct.1.1.1
  · have backslash : isAllowed '\\' = true := rfl
    rw [allAllowed_cons]
    refine ⟨backslash, ?_⟩
    split
    all_goals try exact allAllowed_cons.mpr ⟨rfl, allAllowed_nil⟩
    simp only
    split
    · exact allAllowed_cons.mpr ⟨rfl, allAllowed_hexDigits 2 _⟩
    · split
      · exact allAllowed_cons.mpr ⟨rfl, allAllowed_hexDigits 4 _⟩
      · exact allAllowed_cons.mpr ⟨rfl, allAllowed_hexDigits 8 _⟩

theorem allAllowed_doubleQuoted (cs : List Char) : AllAllowed (styledText n .doubleQuoted cs) := by
  have quote : isAllowed '"' = true := rfl
  have escapes : AllAllowed (cs.flatMap escapedChar) := by
    intro c mem
    obtain ⟨d, -, inside⟩ := List.mem_flatMap.mp mem
    exact allAllowed_escapedChar d c inside
  simp [styledText, quote, escapes]

theorem allAllowed_quoteStyle (cs : List Char) : AllAllowed (styledText n (quoteStyle cs) cs) := by
  unfold quoteStyle
  split
  · rename_i allowed
    simp only [singleQuotesAllowed, Bool.not_eq_true', Bool.or_eq_false_iff] at allowed
    have quote : isAllowed '\'' = true := rfl
    have body := allAllowed_singleQuotedBody (n := n) false
      (allAllowed_of_isPrintable (by simpa using allowed.2))
    simp [styledText, quote, body]
  · exact allAllowed_doubleQuoted cs

theorem allAllowed_textStyle (cs : List Char) : AllAllowed (styledText n (textStyle cs) cs) := by
  unfold textStyle
  split
  · split
    · rename_i allowed
      simp only [literalAllowed, Bool.not_eq_true', Bool.or_eq_false_iff] at allowed
      have feed : isAllowed '\n' = true := rfl
      have body := allAllowed_literalBody (n := n) true
        (allAllowed_of_isPrintable (by simpa using allowed.2))
      simp [styledText, allAllowed_literalHeader, feed, body]
    · exact allAllowed_doubleQuoted cs
  · split
    · rename_i allowed
      have plain := plainFrom_of_plainAllowed (Bool.and_eq_true_iff.mp allowed).2
      exact allAllowed_of_isPrintable plain.printed
    · exact allAllowed_quoteStyle cs

end Scalars

/-! ### Trees -/

theorem isAllowed_of_isKeyChar {c : Char} (name : c.isLower = true ∨ c = '_') :
    isAllowed c = true := by
  rcases name with low | rfl
  · have range : (decide (c.val ≥ 97) && decide (c.val ≤ 122)) = true := low
    simp only [Bool.and_eq_true, decide_eq_true_eq, ge_iff_le, UInt32.le_iff_toNat_le] at range
    have above : 97 ≤ c.toNat := range.1
    have below : c.toNat ≤ 122 := range.2
    simp only [isAllowed, Bool.or_eq_true, Bool.and_eq_true, decide_eq_true_eq]
    omega
  · rfl

theorem allAllowed_digits (n : Nat) : AllAllowed (Nat.toDigits 10 n) :=
  allAllowed_of_isPrintable fun _ mem => isPrintable_of_isDigit (isDigit_of_mem_decimal mem)

mutual

theorem allAllowed_printValue : (t : Tree) → (indent : Nat) → (inMapping : Bool) → t.Fits →
    AllAllowed (t.printValue indent inMapping)
  | .null, _, _, _ => by simp [Tree.printValue, isAllowed]
  | .number n, _, _, _ => by simp [Tree.printValue, isAllowed, allAllowed_digits]
  | .text s, indent, _, _ => by
    have body := allAllowed_endLine (allAllowed_textStyle (n := indent + 2) s.toList)
    simp [Tree.printValue, isAllowed, body]
  | .quoted s, indent, _, _ => by
    have body := allAllowed_endLine (allAllowed_quoteStyle (n := indent + 2) s.toList)
    simp [Tree.printValue, isAllowed, body]
  | .sequence [], _, _, _ => by simp [Tree.printValue, isAllowed]
  | .sequence (item :: items), indent, true, fits => by
    have items := allAllowed_printItems (item :: items) indent true fits
    simp [Tree.printValue, isAllowed, items]
  | .sequence (item :: items), indent, false, fits => by
    have items := allAllowed_printItems (item :: items) (indent + 2) false fits
    simp [Tree.printValue, isAllowed, items]
  | .mapping [], _, _, _ => by simp [Tree.printValue, isAllowed]
  | .mapping (entry :: entries), indent, inMapping, fits => by
    have entries := fun pad => allAllowed_printEntries (entry :: entries) (indent + 2) pad fits
    cases inMapping <;> simp [Tree.printValue, isAllowed, entries]

theorem allAllowed_printItems : (items : List Tree) → (indent : Nat) → (pad : Bool) →
    Tree.AllFit items → AllAllowed (Tree.printItems indent pad items)
  | [], _, _, _ => by simp [Tree.printItems]
  | item :: items, indent, pad, fits => by
    have dash : isAllowed '-' = true := rfl
    have first := allAllowed_printValue item indent false fits.1
    have later := allAllowed_printItems items indent true fits.2
    cases pad <;> simp [Tree.printItems, dash, first, later]

theorem allAllowed_printEntries : (entries : List (String × Tree)) → (indent : Nat) → (pad : Bool) →
    Tree.EntriesFit entries → AllAllowed (Tree.printEntries indent pad entries)
  | [], _, _, _ => by simp [Tree.printEntries]
  | (key, t) :: entries, indent, pad, fits => by
    have colon : isAllowed ':' = true := rfl
    have name : AllAllowed key.toList := fun c mem => isAllowed_of_isKeyChar (fits.1.2.1 c mem)
    have first := allAllowed_printValue t indent true fits.2.1
    have later := allAllowed_printEntries entries indent true fits.2.2
    cases pad <;> simp [Tree.printEntries, colon, name, first, later]

end

end Ligature.Yaml
