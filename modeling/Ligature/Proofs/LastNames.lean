import Ligature.Proofs.PathLaws

/-!
# Paths taken apart

A path is the text before its last name, the last name, and dots and slashes that lead nowhere
else. With another extension only the last name is another one, and never the same as before if the
extension holds a dot.
-/
namespace Ligature.Files.Path

variable {p : Path} {front name extension : List Char}

/-! ### Dots and slashes at the end -/

@[simp] theorem names_nil : names ⟨[]⟩ = [] := rfl

theorem names_slash (cs : List Char) : names ⟨cs ++ ['/']⟩ = names ⟨cs⟩ := by
  rw [names_append, names_nil, List.append_nil]

theorem names_text (some : name ≠ []) (whole : '/' ∉ name) :
    names ⟨name⟩ = [String.ofList name] := by
  simp [names, Text.splitOn_of_not_mem whole, some]

theorem names_dropTrail (cs : List Char) :
    ∃ n, names ⟨cs.reverse⟩ = names ⟨(dropTrail cs).reverse⟩ ++ List.replicate n "." := by
  fun_induction dropTrail cs with
  | case1 r ih =>
    obtain ⟨n, names⟩ := ih
    refine ⟨n, ?_⟩
    rw [List.reverse_cons, names_slash, names]
  | case2 r ih =>
    obtain ⟨n, names⟩ := ih
    refine ⟨n + 1, ?_⟩
    rw [List.reverse_cons, List.reverse_cons, List.append_assoc, List.singleton_append,
      names_append, names, List.append_assoc, List.replicate_succ']
    rfl
  | case3 cs => exact ⟨0, by simp⟩

theorem dropTrail_ne_slash (cs r : List Char) : dropTrail cs ≠ '/' :: r := by
  fun_induction dropTrail cs with
  | case1 r ih => exact ih
  | case2 r ih => exact ih
  | case3 cs slash dot =>
    rintro rfl
    exact slash r rfl

/-! ### The last name -/

theorem append_of_splitLast (split : p.splitLast = (front, name)) :
    front ++ name = (dropTrail p.chars.reverse).reverse := by
  cases split
  rw [← List.reverse_append, List.takeWhile_append_dropWhile]

theorem not_mem_of_splitLast (split : p.splitLast = (front, name)) : '/' ∉ name := by
  cases split
  intro mem
  have differ := List.all_eq_true.mp List.all_takeWhile '/' (List.mem_reverse.mp mem)
  simp at differ

theorem front_of_splitLast (split : p.splitLast = (front, name)) :
    front = [] ∨ ∃ cs, front = cs ++ ['/'] := by
  cases split
  cases rest : (dropTrail p.chars.reverse).dropWhile (· ≠ '/') with
  | nil => exact .inl rfl
  | cons c cs =>
    have stopped := List.head?_dropWhile_not (· ≠ '/') (dropTrail p.chars.reverse)
    rw [rest] at stopped
    obtain rfl : c = '/' := by simpa using stopped
    exact .inr ⟨cs.reverse, List.reverse_cons⟩

theorem names_front_append (split : p.splitLast = (front, name)) (cs : List Char) :
    names ⟨front ++ cs⟩ = names ⟨front⟩ ++ names ⟨cs⟩ := by
  rcases front_of_splitLast split with rfl | ⟨before, rfl⟩
  · rfl
  · rw [List.append_assoc, List.singleton_append, names_append, names_slash]

theorem names_of_splitLast (split : p.splitLast = (front, name)) :
    ∃ n, p.names = names ⟨front⟩ ++ names ⟨name⟩ ++ List.replicate n "." := by
  obtain ⟨n, names⟩ := names_dropTrail p.chars.reverse
  refine ⟨n, ?_⟩
  rw [List.reverse_reverse, ← append_of_splitLast split, names_front_append split] at names
  exact names

theorem names_of_fileName? (split : p.splitLast = (front, name)) (file : p.fileName? = some name) :
    ∃ n, p.names = names ⟨front⟩ ++ String.ofList name :: List.replicate n "." := by
  obtain ⟨n, names⟩ := names_of_splitLast split
  have some : name ≠ [] := by
    rintro rfl
    simp [fileName?, split] at file
  refine ⟨n, ?_⟩
  rw [names, names_text some (not_mem_of_splitLast split), List.append_assoc,
    List.singleton_append]

theorem exists_splitLast (file : p.fileName? = some name) :
    ∃ front, p.splitLast = (front, name) := by
  unfold fileName? at file
  dsimp only at file
  split at file
  · cases file
  · cases file
    exact ⟨_, rfl⟩

theorem ofList_ne_of_fileName? (file : p.fileName? = some name) :
    String.ofList name ≠ "." ∧ String.ofList name ≠ ".." := by
  unfold fileName? at file
  dsimp only at file
  split at file
  · cases file
  · rename_i dots
    cases file
    obtain ⟨-, notHere, notUp⟩ := not_or.mp dots |>.imp_right not_or.mp
    rw [Ne, Ne, ← String.toList_inj, ← String.toList_inj, String.toList_ofList]
    exact ⟨notHere, notUp⟩

theorem splitLast_of_nameless (split : p.splitLast = (front, name))
    (nameless : p.fileName? = none) :
    name = [] ∧ front = [] ∨ name = ['.'] ∨ name = ['.', '.'] := by
  simp only [fileName?, split] at nameless
  split at nameless
  · rename_i dots
    rcases dots with rfl | dots
    · -- The text before a last name without characters has no slash to end behind.
      refine .inl ⟨rfl, ?_⟩
      have whole := append_of_splitLast split
      rw [List.append_nil] at whole
      rcases front_of_splitLast split with none | ⟨cs, slash⟩
      · exact none
      · rw [slash, ← List.reverse_inj, List.reverse_reverse, List.reverse_append] at whole
        exact absurd whole.symm (dropTrail_ne_slash _ _)
    · exact .inr dots
  · cases nameless

/-- A path that does not name a file leads nowhere, or up, or stays where it is. -/
theorem getLast?_names_of_nameless (nameless : p.fileName? = none) {x : String}
    (last : p.names.getLast? = some x) : x = "." ∨ x = ".." := by
  obtain ⟨⟨front, name⟩, split⟩ : ∃ parts, p.splitLast = parts := ⟨_, rfl⟩
  obtain ⟨n, names⟩ := names_of_splitLast split
  rw [names] at last
  cases n with
  | succ n =>
    rw [List.replicate_succ', ← List.append_assoc, List.getLast?_concat] at last
    exact .inl (Option.some.inj last).symm
  | zero =>
    rw [List.replicate_zero, List.append_nil] at last
    rcases splitLast_of_nameless split nameless with ⟨rfl, rfl⟩ | rfl | rfl
    · cases last
    · rw [show Path.names ⟨['.']⟩ = ["."] from rfl, List.getLast?_concat] at last
      exact .inl (Option.some.inj last).symm
    · rw [show Path.names ⟨['.', '.']⟩ = [".."] from rfl, List.getLast?_concat] at last
      exact .inr (Option.some.inj last).symm

/-! ### Another extension -/

theorem isPrefix_stem (name : List Char) : stem name <+: name := by
  unfold stem
  dsimp only
  split
  · exact List.prefix_rfl
  · rw [← List.reverse_suffix, List.reverse_reverse]
    exact (List.tail_suffix _).trans (List.dropWhile_suffix _)

theorem stem_append_ne (name : List Char) (dotted : '.' ∈ extension) :
    stem name ++ '.' :: extension ≠ name := by
  intro same
  unfold stem at same
  dsimp only at same
  split at same
  · have longer := congrArg List.length same
    simp at longer
  · -- The extension that is exchanged is what stands behind the last dot.
    rename_i two
    have parts := List.takeWhile_append_dropWhile (p := (· ≠ '.')) (l := name.reverse)
    have stopped := List.head?_dropWhile_not (· ≠ '.') name.reverse
    cases rest : name.reverse.dropWhile (· ≠ '.') with
    | nil =>
      rw [rest] at two
      exact absurd (Nat.zero_le 1) two
    | cons c cs =>
      rw [rest] at same parts stopped
      obtain rfl : c = '.' := by simpa using stopped
      rw [← List.reverse_inj, ← parts, List.tail_cons, List.reverse_append, List.reverse_cons,
        List.reverse_reverse, List.append_assoc, List.singleton_append] at same
      have old := List.append_cancel_right same
      have whole := List.all_eq_true.mp (List.all_takeWhile (p := (· ≠ '.')) (l := name.reverse))
        '.' (old ▸ List.mem_reverse.mpr dotted)
      simp at whole

theorem names_withExtension (split : p.splitLast = (front, name)) (file : p.fileName? = some name)
    (extension : String) (whole : '/' ∉ extension.toList) :
    (p.withExtension extension).names =
      names ⟨front⟩ ++ [String.ofList (stem name ++ '.' :: extension.toList)] := by
  have whole' : '/' ∉ stem name ++ '.' :: extension.toList := by
    intro mem
    rcases List.mem_append.mp mem with inStem | behind
    · exact not_mem_of_splitLast split ((isPrefix_stem name).mem inStem)
    · rcases List.mem_cons.mp behind with slash | inExtension
      · cases slash
      · exact whole inExtension
  rw [withExtension, file]
  simp only [split, List.append_assoc]
  rw [names_front_append split, names_text (by simp) whole']

end Ligature.Files.Path
