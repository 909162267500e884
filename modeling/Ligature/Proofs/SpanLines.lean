import Ligature.Dispatch.Report
import Ligature.Proofs.Numerals
import Ligature.Proofs.Scanning

/-!
# What printed spans tell

The text of a span is printed as it is, so a line break, a tab or a digit in a printed list may
belong to a text as well as end it. The length in front of a text says where the text stops. So a
list of spans is read off its lines in one way only, as long as every span has a text of its
length, and the spans of a scan have.
-/
namespace Ligature.Dispatch

def Span.Measured (s : Span) : Prop := s.text.length = s.length

/-! ### Lines -/

theorem takeWhile_decimal (n : Nat) {c : Char} (mark : c.isDigit = false) (rest : List Char) :
    (Nat.toDigits 10 n ++ c :: rest).takeWhile Char.isDigit = Nat.toDigits 10 n := by
  rw [List.takeWhile_append_of_pos fun _ => Yaml.isDigit_of_mem_decimal,
    List.takeWhile_cons_of_neg (by simp [mark]), List.append_nil]

theorem decimal_inj {m n : Nat} (same : Nat.toDigits 10 m = Nat.toDigits 10 n) : m = n :=
  calc m = Nat.ofDigitChars 10 (Nat.toDigits 10 m) 0 := Nat.ofDigitChars_ten_toDigits.symm
    _ = Nat.ofDigitChars 10 (Nat.toDigits 10 n) 0 := by rw [same]
    _ = n := Nat.ofDigitChars_ten_toDigits

/-- A number is printed with digits only, so it ends where another character stands. -/
theorem decimal_append_cancel {m n : Nat} {c : Char} {a b : List Char} (mark : c.isDigit = false)
    (same : Nat.toDigits 10 m ++ c :: a = Nat.toDigits 10 n ++ c :: b) : m = n ∧ a = b := by
  have digits : Nat.toDigits 10 m = Nat.toDigits 10 n := by
    rw [← takeWhile_decimal m mark a, same, takeWhile_decimal n mark b]
  rw [digits] at same
  exact ⟨decimal_inj digits, (List.cons.inj (List.append_cancel_left same)).2⟩

namespace Span

variable {s s' : Span}

theorem line_append (s : Span) (rest : List Char) :
    s.line ++ rest =
      Nat.toDigits 10 s.start ++ '+' :: (Nat.toDigits 10 s.length ++ '\t' ::
        (s.text ++ '\n' :: rest)) := by
  simp [line]

theorem line_ne_nil (s : Span) : s.line ≠ [] := by simp [line]

theorem line_append_cancel {a b : List Char} (measured : s.Measured) (measured' : s'.Measured)
    (same : s.line ++ a = s'.line ++ b) : s = s' ∧ a = b := by
  rw [line_append, line_append] at same
  obtain ⟨start, same⟩ := decimal_append_cancel (by decide) same
  obtain ⟨length, same⟩ := decimal_append_cancel (by decide) same
  have size : s.text.length = s'.text.length := by rw [measured, measured', length]
  obtain ⟨text, rest⟩ := List.append_inj same size
  cases s
  cases s'
  cases start
  cases length
  cases text
  exact ⟨rfl, (List.cons.inj rest).2⟩

end Span

/-! ### Lists of lines -/

theorem eq_of_formatSpans_eq {spans spans' : List Span} (measured : ∀ s ∈ spans, s.Measured)
    (measured' : ∀ s ∈ spans', s.Measured) (same : formatSpans spans = formatSpans spans') :
    spans = spans' := by
  induction spans generalizing spans' with
  | nil =>
    cases spans' with
    | nil => rfl
    | cons s' _ => exact absurd (List.append_eq_nil_iff.mp same.symm).1 s'.line_ne_nil
  | cons s spans ih =>
    cases spans' with
    | nil => exact absurd (List.append_eq_nil_iff.mp same).1 s.line_ne_nil
    | cons s' spans' =>
      obtain ⟨first, later⟩ := List.forall_mem_cons.mp measured
      obtain ⟨first', later'⟩ := List.forall_mem_cons.mp measured'
      obtain ⟨rfl, rest⟩ := Span.line_append_cancel first first' same
      rw [ih later later' rest]

/-- Without their lengths, two spans may look like one whose text has a line break in it. -/
example :
    formatSpans [⟨0, 9, ['a']⟩, ⟨1, 9, ['b']⟩] = formatSpans [⟨0, 9, "a\n1+9\tb".toList⟩] := by
  decide

namespace Matcher

theorem measured_of_mem_scanFrom {m : Matcher} {start skip : Nat} {text : List Char} {s : Span}
    (mem : s ∈ m.scanFrom start skip text) : s.Measured := by
  induction text generalizing start skip with
  | nil => cases mem
  | cons c rest ih =>
    cases skip with
    | succ skip => exact ih mem
    | zero =>
      simp only [scanFrom] at mem
      cases found : m.lengthFrom c rest with
      | none =>
        rw [found] at mem
        exact ih mem
      | some n =>
        rw [found] at mem
        rcases List.mem_cons.mp mem with rfl | later
        · have inside : n ≤ (c :: rest).length := (lengthFrom_bounds found).2.2
          exact List.length_take_of_le inside
        · exact ih later

/-- Scans that are printed alike found the same ligatures, whatever characters the ligatures have
and whichever texts and matchers they come from. -/
theorem formatSpans_scan_inj (m m' : Matcher) (text text' : List Char) :
    formatSpans (m.scan text) = formatSpans (m'.scan text') ↔ m.scan text = m'.scan text' := by
  constructor
  · exact eq_of_formatSpans_eq (fun _ => measured_of_mem_scanFrom)
      (fun _ => measured_of_mem_scanFrom)
  · exact congrArg formatSpans

end Matcher

end Ligature.Dispatch
