import Mathlib.Algebra.Group.Nat.Defs
import Ligature.Yaml.Plain
import Ligature.Yaml.Printer

/-!
# Numbers in YAML texts

A number that is printed in decimal is read back as that number, and the code of a character that
is printed in hexadecimal as that code.
-/
namespace Ligature.Yaml

/-! ### Decimal numbers -/

theorem hexDigit?_of_isDigit {c : Char} (digit : c.isDigit = true) :
    Unicode.hexDigit? c = some (c.toNat - '0'.toNat) ∧ c.toNat - '0'.toNat < 10 := by
  simp only [Char.isDigit, Bool.and_eq_true, decide_eq_true_eq, ge_iff_le] at digit
  constructor
  · exact if_pos digit
  · have high : c.toNat ≤ '9'.toNat := UInt32.le_iff_toNat_le.mp digit.2
    simp only [Char.reduceToNat] at high ⊢
    omega

theorem foldlM_digits {ds : List Char} (digits : ∀ c ∈ ds, c.isDigit = true) (init : Nat) :
    ds.foldlM (fun n c => match Unicode.hexDigit? c with
      | some d => if d < 10 then some (10 * n + d) else none
      | none => none) init = some (Nat.ofDigitChars 10 ds init) := by
  induction ds generalizing init with
  | nil => simp
  | cons d ds ih =>
    obtain ⟨value, small⟩ := hexDigit?_of_isDigit (digits d List.mem_cons_self)
    rw [List.foldlM_cons, Nat.ofDigitChars_cons, value]
    simp only [small, if_true, Option.bind_eq_bind, Option.bind_some]
    exact ih (fun c hc => digits c (List.mem_cons_of_mem _ hc)) _

theorem ofDigitChars_lt {ds : List Char} (digits : ∀ c ∈ ds, c.isDigit = true) (init : Nat) :
    Nat.ofDigitChars 10 ds init < (init + 1) * 10 ^ ds.length := by
  induction ds generalizing init with
  | nil => simp
  | cons d ds ih =>
    obtain ⟨first, later⟩ := List.forall_mem_cons.mp digits
    have small := (hexDigit?_of_isDigit first).2
    have rest := ih later (10 * init + (d.toNat - '0'.toNat))
    rw [Nat.ofDigitChars_cons]
    refine Nat.lt_of_lt_of_le rest ?_
    rw [List.length_cons, Nat.pow_succ', ← Nat.mul_assoc]
    exact Nat.mul_le_mul_right _ (by omega)

section Decimal

variable (n : Nat)

theorem isDigit_of_mem_decimal {n : Nat} {c : Char} (mem : c ∈ Nat.toDigits 10 n) :
    c.isDigit = true :=
  Nat.isDigit_of_mem_toDigits (by omega) (by omega) mem

theorem digits?_decimal : digits? 10 (Nat.toDigits 10 n) = some n := by
  rw [digits?, if_neg (by simp)]
  have value := foldlM_digits (fun c (mem : c ∈ Nat.toDigits 10 n) => isDigit_of_mem_decimal mem) 0
  rw [Nat.ofDigitChars_ten_toDigits] at value
  exact value

theorem decimal_eq_zero_cons {ds : List Char} (h : Nat.toDigits 10 n = '0' :: ds) : ds = [] := by
  by_cases none : ds = []
  · exact none
  exfalso
  have value : Nat.ofDigitChars 10 ds 0 = n := by
    have all := Nat.ofDigitChars_ten_toDigits (n := n)
    rwa [h, Nat.ofDigitChars_cons] at all
  have digits : ∀ c ∈ ds, c.isDigit = true := by
    intro c hc
    exact isDigit_of_mem_decimal (n := n) (h ▸ List.mem_cons_of_mem _ hc)
  have small : n < 10 ^ ds.length := by
    simpa [value] using ofDigitChars_lt digits 0
  -- the digits behind the zero are enough for the number, so it would have been printed shorter
  have short := (Nat.length_toDigits_le_iff (by omega) (List.length_pos_iff.mpr none)).mpr small
  rw [h, List.length_cons] at short
  omega

theorem isZeroPadded_decimal : isZeroPadded (Nat.toDigits 10 n) = false := by
  have digits : ∀ c ∈ Nat.toDigits 10 n, c.isDigit = true := fun c => isDigit_of_mem_decimal
  cases h : Nat.toDigits 10 n with
  | nil => rfl
  | cons d ds =>
    have notSign : d ≠ '-' ∧ d ≠ '+' := by
      have digit := digits d (h ▸ List.mem_cons_self)
      constructor
      · rintro rfl
        exact absurd digit (by decide)
      · rintro rfl
        exact absurd digit (by decide)
    by_cases zero : d = '0'
    · subst zero
      obtain rfl := decimal_eq_zero_cons n h
      rfl
    · unfold isZeroPadded
      split
      · rename_i sign
        exact absurd (List.cons.inj sign).1 notSign.1
      · rename_i sign
        exact absurd (List.cons.inj sign).1 notSign.2
      · simp only
        split
        · rename_i first
          exact absurd (List.cons.inj first).1 zero
        · rfl

theorem splitBase_decimal : splitBase (Nat.toDigits 10 n) = (10, Nat.toDigits 10 n) := by
  have digits : ∀ c ∈ Nat.toDigits 10 n, c.isDigit = true := fun c => isDigit_of_mem_decimal
  unfold splitBase
  split
  · rename_i h
    exact absurd (digits 'x' (by simp [h])) (by decide)
  · rename_i h
    exact absurd (digits 'o' (by simp [h])) (by decide)
  · rename_i h
    exact absurd (digits 'b' (by simp [h])) (by decide)
  · rfl

theorem unsigned?_decimal : unsigned? (Nat.toDigits 10 n) = some n := by
  have noSign : ∀ r, Nat.toDigits 10 n ≠ '+' :: r := by
    intro r h
    exact absurd (isDigit_of_mem_decimal (n := n) (h ▸ List.mem_cons_self)) (by decide)
  unfold unsigned?
  split
  · rename_i r h
    exact absurd h (noSign r)
  · simp only [splitBase_decimal, isZeroPadded_decimal]
    simpa using digits?_decimal n

theorem plainKind_decimal (small : n < UInt64.size) :
    plainKind (Nat.toDigits 10 n) = .unsigned n := by
  have digits : ∀ c ∈ Nat.toDigits 10 n, c.isDigit = true := fun c => isDigit_of_mem_decimal
  have notWord {c : Char} {cs : List Char} (letter : c.isDigit = false) :
      Nat.toDigits 10 n ≠ c :: cs := by
    intro h
    rw [digits c (h ▸ List.mem_cons_self)] at letter
    cases letter
  have notNull : isNull (Nat.toDigits 10 n) = false := by
    simp only [isNull, decide_eq_false_iff_not, List.mem_cons, List.not_mem_nil, or_false, not_or]
    exact ⟨notWord rfl, notWord rfl, notWord rfl, notWord rfl⟩
  have notBool : bool? (Nat.toDigits 10 n) = none := by
    rw [bool?, if_neg, if_neg]
    · simp only [List.mem_cons, List.not_mem_nil, or_false, not_or]
      exact ⟨notWord rfl, notWord rfl, notWord rfl⟩
    · simp only [List.mem_cons, List.not_mem_nil, or_false, not_or]
      exact ⟨notWord rfl, notWord rfl, notWord rfl⟩
  have kind : integerKind? (Nat.toDigits 10 n) = some (.unsigned n) := by
    simp [integerKind?, unsigned?_decimal, small]
  simp [plainKind, notNull, notBool, kind]

end Decimal

/-! ### Hexadecimal codes -/

theorem hexDigit?_toUpper_digitChar : ∀ d < 16,
    Unicode.hexDigit? (Nat.digitChar d).toUpper = some d := by decide

theorem hexValue_append_digit (cs : List Char) {d : Nat} (small : d < 16) :
    Unicode.hexValue (cs ++ [(Nat.digitChar d).toUpper]) = 16 * Unicode.hexValue cs + d := by
  simp [Unicode.hexValue, hexDigit?_toUpper_digitChar d small]

theorem hexValue_upper (n : Nat) :
    Unicode.hexValue ((Nat.toDigits 16 n).map Char.toUpper) = n := by
  induction n using Nat.strongRecOn with
  | ind n ih =>
    rw [Nat.toDigits_eq_if (by omega)]
    split
    · rename_i small
      simpa [Unicode.hexValue] using hexValue_append_digit [] small
    · rw [List.map_append, List.map_singleton, hexValue_append_digit _ (Nat.mod_lt _ (by omega)),
        ih _ (by omega), Nat.div_add_mod]

theorem isSome_hexDigit?_upper (n : Nat) :
    ∀ c ∈ (Nat.toDigits 16 n).map Char.toUpper, (Unicode.hexDigit? c).isSome = true := by
  induction n using Nat.strongRecOn with
  | ind n ih =>
    rw [Nat.toDigits_eq_if (by omega)]
    split
    · rename_i small
      simp [hexDigit?_toUpper_digitChar n small]
    · intro c mem
      rw [List.map_append, List.mem_append] at mem
      rcases mem with front | last
      · exact ih _ (by omega) c front
      · obtain rfl := List.mem_singleton.mp last
        rw [hexDigit?_toUpper_digitChar _ (Nat.mod_lt _ (by omega))]
        rfl

theorem hexValue_hexDigits (width n : Nat) : Unicode.hexValue (hexDigits width n) = n := by
  have zeros : ∀ k, Unicode.hexValue (List.replicate k '0') = 0 := by
    intro k
    induction k with
    | zero => rfl
    | succ k ih =>
      rw [List.replicate_succ']
      have zero := hexValue_append_digit (List.replicate k '0') (d := 0) (by omega)
      rwa [ih] at zero
  have value := hexValue_upper n
  unfold Unicode.hexValue at zeros value
  rw [hexDigits, Unicode.hexValue, List.foldl_append, zeros, value]

theorem length_hexDigits {width n : Nat} (some : 0 < width) (small : n < 16 ^ width) :
    (hexDigits width n).length = width := by
  have short := (Nat.length_toDigits_le_iff (by omega) some).mpr small
  simp only [hexDigits, List.length_append, List.length_replicate, List.length_map]
  omega

theorem isSome_hexDigit?_hexDigits {width n : Nat} :
    ∀ c ∈ hexDigits width n, (Unicode.hexDigit? c).isSome = true := by
  intro c mem
  rcases List.mem_append.mp mem with zero | digit
  · obtain rfl := List.eq_of_mem_replicate zero
    rfl
  · exact isSome_hexDigit?_upper n c digit

end Ligature.Yaml
