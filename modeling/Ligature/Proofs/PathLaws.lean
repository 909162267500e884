import Ligature.Files.Disk

/-!
# Paths with a further name

The names of a path, its directory and its last name, when the path was put together from a
directory and a name.
-/
namespace Ligature

namespace Text

theorem exists_splitOn (sep : Char) (cs : List Char) :
    ∃ piece rest, splitOn sep cs = piece :: rest := by
  induction cs with
  | nil => exact ⟨[], [], rfl⟩
  | cons c cs ih =>
    obtain ⟨piece, rest, split⟩ := ih
    rw [splitOn, split]
    split
    · exact ⟨_, _, rfl⟩
    · exact ⟨_, _, rfl⟩

theorem splitOn_cons_of_ne {sep c : Char} (other : c ≠ sep) {cs piece : List Char}
    {rest : List (List Char)} (split : splitOn sep cs = piece :: rest) :
    splitOn sep (c :: cs) = (c :: piece) :: rest := by
  rw [splitOn, if_neg other, split]

theorem splitOn_append (sep : Char) (a b : List Char) :
    splitOn sep (a ++ sep :: b) = splitOn sep a ++ splitOn sep b := by
  induction a with
  | nil => simp [splitOn]
  | cons c a ih =>
    by_cases same : c = sep
    · simp [splitOn, same, ih]
    · obtain ⟨piece, rest, split⟩ := exists_splitOn sep a
      rw [split, List.cons_append] at ih
      rw [List.cons_append, splitOn_cons_of_ne same ih, splitOn_cons_of_ne same split,
        List.cons_append]

theorem splitOn_of_not_mem {sep : Char} {cs : List Char} (none : sep ∉ cs) :
    splitOn sep cs = [cs] := by
  induction cs with
  | nil => rfl
  | cons c cs ih =>
    have other : c ≠ sep := Ne.symm (List.ne_of_not_mem_cons none)
    exact splitOn_cons_of_ne other (ih (List.not_mem_of_not_mem_cons none))

end Text

namespace Files.Path

variable {p : Path} {name : String}

structure IsName (name : String) : Prop where
  some : name.toList ≠ []
  whole : '/' ∉ name.toList
  notHere : name ≠ "."
  notUp : name ≠ ".."
  short : name.utf8ByteSize ≤ Disk.nameLimit

/-! ### Names -/

theorem names_append (a b : List Char) :
    names ⟨a ++ '/' :: b⟩ = names ⟨a⟩ ++ names ⟨b⟩ := by
  simp only [names, Text.splitOn_append, List.filter_append, List.map_append]

end Files.Path

end Ligature
