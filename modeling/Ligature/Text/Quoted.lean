import Ligature.Unicode.Classes

/-!
# Texts in double quotes
-/
namespace Ligature.Text

/-- A character as it is shown between double quotes. Quotes, backslashes, and characters that
cannot be seen on their own are escaped. -/
def shownChar (c : Char) : List Char :=
  match c with
  | '\x00' => ['\\', '0']
  | '\t' => ['\\', 't']
  | '\r' => ['\\', 'r']
  | '\n' => ['\\', 'n']
  | '\\' | '"' | '\'' => ['\\', c]
  | c =>
    if Unicode.Property.graphemeExtend.contains c || !Unicode.isPrintable c then
      '\\' :: 'u' :: '{' :: Nat.toDigits 16 c.toNat ++ ['}']
    else [c]

def quoted (cs : List Char) : String := String.ofList ('"' :: cs.flatMap shownChar ++ ['"'])

end Ligature.Text
