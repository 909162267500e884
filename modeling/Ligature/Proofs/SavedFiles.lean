import Ligature.Config.Store
import Ligature.Proofs.DiskLaws
import Ligature.Proofs.LastNames

/-!
# Files and their drafts

A text is saved by way of a draft, a file in the same directory that is then moved to the path. Where
neither is a link and the draft has no other name, the text is at the path alone behind this, and
nothing else has changed.
-/
namespace Ligature.Files.Disk

variable {d d' d₁ : Disk} {l k m : Location} {p q : Path} {number : Nat} {name : List Char}
  {content : Option String} {text : String}

/-! ### Paths of files -/

theorem exists_locate_of_find {e : Entry} (found : d.find p = .ok e) :
    ∃ k, d.locate p = .ok k ∧ d.get? k = some e ∧ (p.endsInSlash = true → e = .directory) := by
  obtain ⟨k, located, entry⟩ := Regex.bind_eq_ok.mp found
  refine ⟨k, located, ?_⟩
  cases there : d.get? k with
  | none => simp [there] at entry
  | some x =>
    simp only [there] at entry
    split at entry
    · cases entry
    · rename_i allowed
      cases entry
      refine ⟨rfl, fun slash => ?_⟩
      by_cases same : e = .directory
      · exact same
      · exact absurd ⟨slash, same⟩ allowed

theorem find_of_locate {e : Entry} (located : d.locate p = .ok k) (there : d.get? k = some e)
    (allowed : p.endsInSlash = true → e = .directory) : d.find p = .ok e := by
  refine Regex.bind_eq_ok.mpr ⟨k, located, ?_⟩
  simp only [there]
  rw [if_neg]
  rintro ⟨slash, file⟩
  exact file (allowed slash)

theorem readText_of_locate (located : d.locate p = .ok k)
    (there : d.get? k = some (.file number (some text))) (open' : p.endsInSlash = false) :
    d.readText p = .ok text := by
  have found := find_of_locate located there (by simp [open'])
  exact Regex.bind_eq_ok.mpr ⟨_, found, rfl⟩

theorem contains_eq_false (located : d.locate p = .ok k) (absent : d.get? k = none) :
    d.contains p = false := by
  rw [← Bool.not_eq_true, contains, Regex.isOk_iff]
  rintro ⟨e, found⟩
  obtain ⟨j, located', there, -⟩ := exists_locate_of_find found
  cases located.symm.trans located'
  cases absent.symm.trans there

theorem locateFile_eq_ok_iff : d.locateFile p = .ok k ↔
    d.locate p = .ok k ∧ d.get? k ≠ some .directory ∧ p.endsInSlash = false := by
  constructor
  · intro free
    obtain ⟨k', located, allowed⟩ := Regex.bind_eq_ok.mp free
    split at allowed
    · cases allowed
    · rename_i file
      cases allowed
      obtain ⟨noDirectory, open'⟩ := not_or.mp file
      exact ⟨located, noDirectory, by simpa using open'⟩
  · rintro ⟨located, noDirectory, open'⟩
    refine Regex.bind_eq_ok.mpr ⟨k, located, ?_⟩
    rw [if_neg]
    rintro (directory | slash)
    · exact noDirectory directory
    · rw [open'] at slash
      cases slash

theorem locateTarget_eq_ok_iff : d.locateTarget p = .ok k ↔
    d.locateName p = .ok k ∧ (∃ x, p.names.getLast? = some x ∧ x ≠ "." ∧ x ≠ "..") ∧
      p.endsInSlash = false ∧ d.get? k ≠ some .directory := by
  have dots : (p.names.getLast?.all fun name => name = "." ∨ name = "..") = false ↔
      ∃ x, p.names.getLast? = some x ∧ x ≠ "." ∧ x ≠ ".." := by
    cases p.names.getLast? <;> simp
  constructor
  · intro target
    obtain ⟨k', named, allowed⟩ := Regex.bind_eq_ok.mp target
    split at allowed
    · cases allowed
    · rename_i noDots
      split at allowed
      · cases allowed
      · rename_i open'
        split at allowed
        · cases allowed
        · rename_i free
          cases allowed
          exact ⟨named, dots.mp (by simpa using noDots), by simpa using open', free⟩
  · rintro ⟨named, noDots, open', free⟩
    refine Regex.bind_eq_ok.mpr ⟨k, named, ?_⟩
    rw [dots.mpr noDots, open', if_neg Bool.false_ne_true, if_neg Bool.false_ne_true, if_neg free]

theorem rename_eq_ok_iff : d.rename q p = .ok d' ↔
    ∃ l i k, d.locateName q = .ok l ∧ d.item? l = some i ∧ i ≠ .directory ∧
      q.endsInSlash = false ∧ d.locateTarget p = .ok k ∧
      d' = if i.isFile ∧ d.item? k = some i then d else (d.erase l).put k i := by
  constructor
  · intro renamed
    obtain ⟨l, named, moved⟩ := Regex.bind_eq_ok.mp renamed
    split at moved
    · cases moved
    · cases moved
    · rename_i i noDirectory item
      split at moved
      · cases moved
      · rename_i open'
        obtain ⟨k, target, same⟩ := Regex.bind_eq_ok.mp moved
        cases same
        exact ⟨l, i, k, named, item, noDirectory, by simpa using open', target, rfl⟩
  · rintro ⟨l, i, k, named, item, noDirectory, open', target, rfl⟩
    refine Regex.bind_eq_ok.mpr ⟨l, named, ?_⟩
    cases i with
    | directory => exact absurd rfl noDirectory
    | file number =>
      simp only [item, open', Bool.false_eq_true, if_false]
      exact Regex.bind_eq_ok.mpr ⟨k, target, rfl⟩
    | link target' =>
      simp only [item, open', Bool.false_eq_true, if_false]
      exact Regex.bind_eq_ok.mpr ⟨k, target, rfl⟩

/-! ### Files on disks with their directories -/

/-- A way that ends with a step up, or with no step at all, ends in a directory. -/
theorem directory_of_dots {names : List String} (rooted : d.Rooted)
    (dots : ∀ x, names.getLast? = some x → x = "." ∨ x = "..")
    (way : d.Leads linkLimit [] names k) : d.get? k = some .directory := by
  rcases List.eq_nil_or_concat names with rfl | ⟨names, x, rfl⟩
  · cases way
    rfl
  · rw [List.concat_eq_append] at way dots
    obtain ⟨j, k', -, stepped, same⟩ := way.concat
    have there := directory_of_step stepped
    have directory : d.get? k' = some .directory := by
      rcases dots x List.getLast?_concat with rfl | rfl
      · rw [step_here there] at stepped
        cases stepped
        exact there
      · rw [step_up there] at stepped
        cases stepped
        cases j with
        | nil => rfl
        | cons y j => exact rooted y j _ there
    rw [same (noLink_of_directory directory), directory]

theorem directory_of_nameless (rooted : d.Rooted) (nameless : p.fileName? = none)
    (located : d.locate p = .ok k) : d.get? k = some .directory := by
  apply directory_of_dots rooted
  · intro x last
    exact Path.getLast?_names_of_nameless nameless last
  · exact (locate_eq_ok_iff.mp located).2.2

theorem filled_of_locateFile (rooted : d.Rooted) (place : d.locateFile p = .ok k)
    (content : Option String) : ∃ number, Filled d (d.fill k content) k number content := by
  obtain ⟨located, free, -⟩ := locateFile_eq_ok_iff.mp place
  exact filled_fill free ((locate_eq_ok_iff.mp located).2.2.noLink rooted rfl) content

theorem Filled.locateTarget_iff (filled : Filled d d' m number content) :
    d'.locateTarget p = .ok k ↔ d.locateTarget p = .ok k := by
  rw [locateTarget_eq_ok_iff, locateTarget_eq_ok_iff, Ne, filled.directory_iff]
  constructor
  · rintro ⟨named, rest⟩
    exact ⟨filled.keepsWays_back.locateName named, rest⟩
  · rintro ⟨named, rest⟩
    exact ⟨filled.keepsWays.locateName named, rest⟩

theorem rooted_fill (rooted : d.Rooted) (place : d.locateFile p = .ok k)
    (content : Option String) : (d.fill k content).Rooted := by
  obtain ⟨located, free, -⟩ := locateFile_eq_ok_iff.mp place
  obtain ⟨number, filled⟩ := filled_of_locateFile rooted place content
  exact filled.rooted rooted ((locate_eq_ok_iff.mp located).2.2.parent rooted rfl free)

theorem rooted_rename (rooted : d.Rooted) (renamed : d.rename q p = .ok d') : d'.Rooted := by
  obtain ⟨l, i, k, named, item, noDirectory, -, target, rfl⟩ := rename_eq_ok_iff.mp renamed
  split
  · exact rooted
  · obtain ⟨named', ⟨x, last, notHere, notUp⟩, -, free⟩ := locateTarget_eq_ok_iff.mp target
    have moved : d.get? l ≠ some .directory := by
      rw [get?, item]
      cases i with
      | directory => exact absurd rfl noDirectory
      | file number => simp [entry]
      | link target => simp [entry]
    obtain ⟨-, -, ⟨none, -⟩ | ⟨front, name, names, way⟩⟩ := locateName_eq_ok_iff.mp named'
    · rw [none] at last
      cases last
    · obtain ⟨j, -, stepped⟩ := walkTo_eq_ok_iff.mp way
      have parent := directory_of_step stepped
      obtain rfl := step_free rooted stepped free
      -- What is taken away is no directory, so the directory of the target stays.
      have kept : j ≠ l := by
        rintro rfl
        exact moved parent
      refine rooted_put (rooted_erase rooted moved) ?_ ?_ _
      · rw [get?_erase_of_ne kept, parent]
      · by_cases same : name :: j = l
        · rw [← same, get?_erase_self (List.cons_ne_nil _ _)]
          exact (Option.some_ne_none _).symm
        · rwa [get?_erase_of_ne same]

theorem rooted_makeDirectories (rooted : d.Rooted) (p : Path) : (d.makeDirectories p).2.Rooted := by
  unfold makeDirectories
  cases p.check with
  | error e => exact rooted
  | ok _ => exact rooted_makeDirectoriesTo rooted _

theorem onlyMade_makeDirectories (d : Disk) (p : Path) : d.OnlyMade (d.makeDirectories p).2 := by
  unfold makeDirectories
  cases p.check with
  | error e => exact .refl d
  | ok _ => exact onlyMade_makeDirectoriesTo d _

theorem limit_makeDirectories (d : Disk) (p : Path) :
    (d.makeDirectories p).2.limit = d.limit := by
  unfold makeDirectories
  cases p.check with
  | error e => rfl
  | ok _ => exact limit_makeDirectoriesTo d _

theorem makeDirectories_of_changed (changed : (d.makeDirectories p).2.get? k ≠ d.get? k) :
    ∃ front, front <+: p.names ∧ (d.makeDirectories p).2.Leads linkLimit [] front k := by
  unfold makeDirectories at changed ⊢
  cases checked : p.check with
  | error e =>
    rw [checked] at changed
    exact absurd rfl changed
  | ok _ =>
    rw [checked] at changed
    obtain ⟨front, early, way⟩ := way_of_changed changed
    exact ⟨front, List.reverse_reverse p.names ▸ early, way⟩

/-! ### Drafts -/

structure Beside (d : Disk) (p : Path) (name : List Char) (l m : Location) : Prop where
  way : ∃ front n, p.names = front ++ String.ofList name :: List.replicate n "." ∧
    d.Leads linkLimit [] front l
  directory : d.get? l = some .directory
  draft : ∃ x, m = x :: l ∧ x ≠ String.ofList name

theorem beside_of_locateName (file : p.fileName? = some name)
    (named : d.locateName (Config.draft p) = .ok m) : ∃ l, d.Beside p name l m := by
  obtain ⟨front, split⟩ := Path.exists_splitLast file
  obtain ⟨n, names⟩ := Path.names_of_fileName? split file
  have names' := Path.names_withExtension split file "yaml.tmp" (by decide)
  obtain ⟨-, -, ⟨none, -⟩ | ⟨front', x, last, way⟩⟩ := locateName_eq_ok_iff.mp named
  · rw [Config.draft, names'] at none
    simp at none
  · rw [Config.draft, names'] at last
    obtain ⟨rfl, rfl⟩ := List.append_singleton_inj.mp last
    obtain ⟨l, way, stepped⟩ := walkTo_eq_ok_iff.mp way
    have letter : 'y' ∈ (String.ofList (Path.stem name ++ '.' :: "yaml.tmp".toList)).toList := by
      simp
    refine ⟨l, ⟨_, n, names, way⟩, directory_of_step stepped, _, step_plain ?_ ?_ stepped, ?_⟩
    · intro here
      rw [here] at letter
      simp at letter
    · intro up
      rw [up] at letter
      simp at letter
    · intro same
      exact Path.stem_append_ne name (by decide) (String.ofList_inj.mp same)

namespace Beside

theorem apart (h : d.Beside p name l m) (names : List String) :
    names ++ String.ofList name :: l ≠ m := by
  obtain ⟨x, rfl, other⟩ := h.draft
  intro same
  cases names with
  | nil => exact other (List.cons.inj same).1.symm
  | cons y names =>
    have length := congrArg List.length same
    simp at length
    omega

variable (h : d.Beside p name l m) (file : p.fileName? = some name)
include h file

theorem locate (noLink : d.NoLink (String.ofList name :: l)) (located : d.locate p = .ok k) :
    k = String.ofList name :: l := by
  obtain ⟨front, n, names, way⟩ := h.way
  obtain ⟨-, -, whole⟩ := locate_eq_ok_iff.mp located
  obtain ⟨notHere, notUp⟩ := Path.ofList_ne_of_fileName? file
  rw [names, List.append_cons] at whole
  obtain ⟨j, n', before, dots⟩ := whole.append
  obtain ⟨l', k', way', stepped, same⟩ := before.concat
  cases way.unique way'
  obtain rfl := step_plain notHere notUp stepped
  obtain rfl := same noLink
  exact dots.stay noLink

theorem target (target : d.locateTarget p = .ok k) : k = String.ofList name :: l := by
  obtain ⟨front, n, names, way⟩ := h.way
  obtain ⟨named, ⟨x, last, notHere', -⟩, -, -⟩ := locateTarget_eq_ok_iff.mp target
  obtain ⟨notHere, notUp⟩ := Path.ofList_ne_of_fileName? file
  cases n with
  | succ n =>
    -- Such a path ends with a dot, and nothing can be moved there.
    rw [names, List.replicate_succ', ← List.cons_append, ← List.append_assoc,
      List.getLast?_concat] at last
    exact absurd (Option.some.inj last).symm notHere'
  | zero =>
    obtain ⟨-, -, ⟨none, -⟩ | ⟨front', x', names', way'⟩⟩ := locateName_eq_ok_iff.mp named
    · rw [none] at last
      cases last
    · obtain ⟨rfl, rfl⟩ := List.append_singleton_inj.mp (names.symm.trans names')
      obtain ⟨l', way', stepped⟩ := walkTo_eq_ok_iff.mp way'
      cases way.unique way'
      exact step_plain notHere notUp stepped

end Beside

structure Moved (text : String) (before behind : Disk) (source target : Location) : Prop where
  entry : ∃ number, behind.get? target = some (.file number (some text))
  gone : behind.get? source = none
  same : ∀ k, k ≠ target → k ≠ source → behind.get? k = before.get? k
  keeps : before.KeepsWays behind

theorem moved_of_rename (filled : Filled d d₁ m number (some text))
    (single : ∀ j old, d.get? j = some (.file number old) → j = m)
    (source : d.locateName q = .ok m) (target : d.locateTarget p = .ok k) (noLink : d.NoLink k)
    (apart : k ≠ m) (renamed : d₁.rename q p = .ok d') : Moved text d d' m k := by
  obtain ⟨named', -, -, free⟩ := locateTarget_eq_ok_iff.mp target
  obtain ⟨m', i, k', source', item, -, -, target', rfl⟩ := rename_eq_ok_iff.mp renamed
  obtain ⟨named, -, -, -⟩ := locateTarget_eq_ok_iff.mp target'
  cases (filled.keepsWays.locateName source).symm.trans source'
  cases (filled.keepsWays.locateName named').symm.trans named
  obtain rfl : i = .file number :=
    Option.some.inj (item.symm.trans (item?_eq_file filled.entry))
  have others {j : Location} (other : j ≠ m) : d₁.get? j = d.get? j := by
    by_cases same : d₁.get? j = d.get? j
    · exact same
    · obtain ⟨old, there⟩ := filled.of_changed_ne same other
      exact absurd (single j old there) other
  have different : ¬ (Item.isFile (.file number) ∧ d₁.item? k = some (.file number)) := by
    rintro ⟨-, item'⟩
    have there : d₁.get? k = some (d₁.entry (.file number)) := by rw [get?, item', Option.map_some]
    rw [others apart] at there
    exact apart (single k _ there)
  rw [if_neg different]
  have moved : d₁.entry (.file number) = .file number (some text) := by
    have there := filled.entry
    rw [get?, item, Option.map_some] at there
    exact Option.some.inj there
  have same : ∀ j, j ≠ k → j ≠ m →
      ((d₁.erase m).put k (.file number)).get? j = d.get? j := by
    intro j notTarget notSource
    rw [get?_put_of_ne notTarget, get?_erase_of_ne notSource, others notSource]
  have entry : ((d₁.erase m).put k (.file number)).get? k =
      some (.file number (some text)) := by
    rw [get?_put_self (ne_nil_of_free free), ← moved]
    rfl
  have gone : ((d₁.erase m).put k (.file number)).get? m = none := by
    rw [get?_put_of_ne (Ne.symm apart), get?_erase_self (ne_nil_of_free filled.free)]
  refine ⟨⟨number, entry⟩, gone, same, ?_, ?_⟩
  · intro j there
    rw [same j, there]
    · rintro rfl
      exact free there
    · rintro rfl
      exact filled.free there
  · intro j link
    by_cases atTarget : j = k
    · subst atTarget
      simp [entry, noLink link]
    · by_cases atSource : j = m
      · subst atSource
        simp [gone, filled.noLink link]
      · rw [same j atTarget atSource]

end Ligature.Files.Disk
