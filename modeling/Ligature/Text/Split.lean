/-!
# Pieces of a text
-/
namespace Ligature.Text

/-- The pieces of a text between its separators `sep`; there is always one more than separators. -/
def splitOn (sep : Char) : List Char → List (List Char)
  | [] => [[]]
  | c :: r =>
    if c = sep then [] :: splitOn sep r
    else match splitOn sep r with
      | [] => [[c]]
      | piece :: rest => (c :: piece) :: rest

end Ligature.Text
