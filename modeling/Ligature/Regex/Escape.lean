import Ligature.Regex.Token

/-!
# Escaped text

Text in the form in which a regex matches just that text.
-/
namespace Ligature.Regex

def escapeChar (c : Char) : List Char := if isMeta c then ['\\', c] else [c]

def escape (cs : List Char) : List Char := cs.flatMap escapeChar

@[simp] theorem escape_nil : escape [] = [] := rfl

@[simp] theorem escape_cons (c : Char) (cs : List Char) :
    escape (c :: cs) = escapeChar c ++ escape cs := rfl

@[simp] theorem escape_append (a b : List Char) : escape (a ++ b) = escape a ++ escape b := by
  simp [escape]

end Ligature.Regex
