import Ligature.Proofs.SavedFiles

/-!
# Disks without links

Where there are no links, directories that a way needs can be made twice: the second time nothing is
left to do, or it fails as the first time, as long as the way does not lead up again from a directory
that was missing.
-/
namespace Ligature.Files.Disk

variable {d d' d₁ : Disk} {n : Nat} {l k : Location} {name : String} {names front : List String}
  {e : FileError} {number : Nat} {p : Path}

/-- From a directory of a way that is there on, it does not lead up again. -/
def Straight (d : Disk) (names : List String) : Prop :=
  ∃ front back, names = front ++ back ∧ d.isDirectory front = true ∧ ".." ∉ back

namespace Straight

theorem append (h : d.Straight names) {back : List String} (plain : ".." ∉ back) :
    d.Straight (names ++ back) := by
  obtain ⟨front, middle, rfl, there, plain'⟩ := h
  refine ⟨front, middle ++ back, List.append_assoc .., there, ?_⟩
  rw [List.mem_append]
  rintro (up | up)
  · exact plain' up
  · exact plain up

theorem dropLast (h : d.Straight (names ++ [name]))
    (missing : d.isDirectory (names ++ [name]) = false) :
    d.Straight names ∧ name ≠ ".." := by
  obtain ⟨front, back, split, there, plain⟩ := h
  rcases List.eq_nil_or_concat back with rfl | ⟨back, x, rfl⟩
  · rw [List.append_nil] at split
    rw [split, there] at missing
    cases missing
  · rw [List.concat_eq_append, ← List.append_assoc] at split
    obtain ⟨rfl, rfl⟩ := List.append_singleton_inj.mp split
    rw [List.concat_eq_append, List.mem_append, List.mem_singleton] at plain
    obtain ⟨plain, notUp⟩ := not_or.mp plain
    exact ⟨⟨front, back, rfl, there, plain⟩, Ne.symm notUp⟩

end Straight

end Ligature.Files.Disk
