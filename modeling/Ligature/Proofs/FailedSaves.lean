import Ligature.Proofs.Saving

/-!
# Saves that fail

A save that fails leaves nothing behind but directories on the way to its path, unless its text was
written to the draft, or a part of it. Then this stays, in the place of what was in the draft.
-/
namespace Ligature.Config

open Files (Disk Entry Location Path)
open Files.Disk (Filled)
open Machine (outcome)

variable {c : Config} {p : Path} {d d₁ d₂ : Disk} {m : Location} {number : Nat}
  {content : Option String} {text : String}

/-- All files are as they were, and nothing else has changed but that directories were made on the
way to a path. -/
structure NothingLeft (p : Path) (before behind : Disk) : Prop where
  files : ∀ k number text,
    behind.get? k = some (.file number text) ↔ before.get? k = some (.file number text)
  others : ∀ k, behind.get? k ≠ before.get? k → MadeFor p before behind k

theorem nothingLeft_of_onlyMade (only : d.OnlyMade d₁)
    (changed : ∀ k, d₁.get? k ≠ d.get? k → MadeFor p d d₁ k) : NothingLeft p d d₁ :=
  ⟨fun _ _ _ => ⟨only.back nofun, only.kept⟩, changed⟩

/-- A draft can be opened, but it cannot take the text, or not be moved to the path, which has to be
the name of a file where no directory is. -/
structure Strands (c : Config) (d : Disk) (p : Path) : Prop where
  made : (makeParent d p).1 = .ok ()
  room : ∃ m, (makeParent d p).2.locateFile (draft p) = .ok m
  closed : (∃ e, (d.add "" c.toYaml).1 = .error e) ∨
    ∀ k, (makeParent d p).2.locateTarget p ≠ .ok k

/-- What fits of a text is in the draft, under all names that it has, and nothing else has changed
but that directories were made on the way. -/
def Stranded (p : Path) (text : String) (before behind : Disk) : Prop :=
  ∃ m number, behind.locate (draft p) = .ok m ∧
    behind.get? m = some (.file number (before.add "" text).2) ∧
    ∀ k, behind.get? k ≠ before.get? k → k = m ∨
      (∃ old, before.get? k = some (.file number old)) ∧ behind.get? k = behind.get? m ∨
      MadeFor p before behind k

/-! ### What stays behind -/

theorem rename_draft_iff (place : d₁.locateFile (draft p) = .ok m)
    (filled : Filled d₁ d₂ m number content) :
    (∃ d', d₂.rename (draft p) p = .ok d') ↔ ∃ k, d₁.locateTarget p = .ok k := by
  constructor
  · rintro ⟨d', moved⟩
    obtain ⟨-, -, k, -, -, -, -, target, -⟩ := Disk.rename_eq_ok_iff.mp moved
    exact ⟨k, filled.locateTarget_iff.mp target⟩
  · rintro ⟨k, target⟩
    obtain ⟨located, -, open'⟩ := Disk.locateFile_eq_ok_iff.mp place
    obtain ⟨l, named, same⟩ := Disk.locateName_of_locate located
    have there : ∃ i, d₂.item? l = some i ∧ i ≠ .directory := by
      by_cases noLink : d₁.NoLink l
      · obtain rfl := same noLink
        exact Disk.exists_item filled.entry nofun
      · obtain ⟨link, there⟩ := Disk.exists_link noLink
        exact Disk.exists_item ((filled.link_iff l link).mpr there) nofun
    obtain ⟨i, item, noDirectory⟩ := there
    exact ⟨_, Disk.rename_eq_ok_iff.mpr ⟨l, i, k, filled.keepsWays.locateName named, item,
      noDirectory, open', filled.locateTarget_iff.mpr target, rfl⟩⟩

theorem stranded_of_filled (only : d.OnlyMade d₁)
    (changed : ∀ k, d₁.get? k ≠ d.get? k → MadeFor p d d₁ k)
    (place : d₁.locateFile (draft p) = .ok m)
    (filled : Filled d₁ d₂ m number (d.add "" text).2) : Stranded p text d d₂ := by
  obtain ⟨located, -, -⟩ := Disk.locateFile_eq_ok_iff.mp place
  refine ⟨m, number, filled.keepsWays.locate located, filled.entry, ?_⟩
  intro k differs
  by_cases same : d₂.get? k = d₁.get? k
  · rw [same] at differs
    exact .inr (.inr ((changed k differs).of_keeps filled.keepsWays))
  · by_cases draft : k = m
    · exact .inl draft
    · obtain ⟨old, there⟩ := filled.of_changed_ne same draft
      have now := (filled.of_changed same).trans filled.entry.symm
      exact .inr (.inl ⟨⟨old, only.back nofun there⟩, now⟩)

/-! ### Failing saves -/

theorem not_strands_of_unmade {e : FileError} (made : makeParent d p = (.error e, d₁)) :
    ¬ Strands c d p := by
  intro strands
  have success := strands.made
  rw [made] at success
  cases success

theorem not_strands_of_unopened {e : FileError} (made : makeParent d p = (.ok (), d₁))
    (place : d₁.locateFile (draft p) = .error e) : ¬ Strands c d p := by
  intro strands
  obtain ⟨m, room⟩ := strands.room
  rw [made] at room
  cases place.symm.trans room

/-- A save whose draft can be opened leaves it behind just if it does not succeed. -/
theorem strands_iff (made : makeParent d p = (.ok (), d₁))
    (place : d₁.locateFile (draft p) = .ok m) (filled : Filled d₁ d₂ m number content)
    (whole : (d.add "" c.toYaml).1 = .ok ()) :
    Strands c d p ↔ ∀ d', d₂.rename (draft p) p ≠ .ok d' := by
  have taken := rename_draft_iff place filled
  constructor
  · intro strands d' moved
    rcases strands.closed with ⟨e, stops⟩ | closed
    · cases stops.symm.trans whole
    · obtain ⟨k, target⟩ := taken.mp ⟨d', moved⟩
      rw [made] at closed
      exact closed k target
  · intro stuck
    refine ⟨by rw [made], ⟨m, by rw [made]; exact place⟩, .inr fun k target => ?_⟩
    rw [made] at target
    obtain ⟨d', moved⟩ := taken.mpr ⟨k, target⟩
    exact stuck d' moved

/-- A save whose draft can be opened, but cannot take its text or cannot be moved to the path, fails
and leaves the draft there. Any other save that fails leaves nothing behind. -/
theorem writeTo_strands_or_leaves_nothing (c : Config) (p : Path) (d : Disk) (rooted : d.Rooted) :
    let saved := outcome (c.writeTo p) d
    (Strands c d p → (∃ e, saved.1 = .error e) ∧ Stranded p c.toYaml d saved.2) ∧
    (¬ Strands c d p → ∀ e, saved.1 = .error e → NothingLeft p d saved.2) := by
  intro saved
  have rooted₁ := rooted_makeParent rooted p
  have only := onlyMade_makeParent d p
  have changed (k : Location) := madeFor_of_changed (p := p) (d := d) (k := k)
  have add := add_makeParent d p
  have ends : SaveEnds c p d saved := saveEnds_writeTo c p d
  clear_value saved
  cases ends with
  | unmade made =>
    rw [made] at changed only
    exact ⟨fun strands => absurd strands (not_strands_of_unmade made),
      fun _ _ _ => nothingLeft_of_onlyMade only changed⟩
  | unopened made place =>
    rw [made] at changed only
    exact ⟨fun strands => absurd strands (not_strands_of_unopened made place),
      fun _ _ _ => nothingLeft_of_onlyMade only changed⟩
  | @unwritten _ d₁ m made place stops =>
    simp only [made] at changed rooted₁ only add
    have strands : Strands c d p := ⟨by rw [made], ⟨_, by rw [made]; exact place⟩,
      .inl ⟨_, add ▸ stops⟩⟩
    obtain ⟨number, filled⟩ :=
      Disk.filled_of_locateFile rooted₁ place (d₁.add "" c.toYaml).2
    have stranded : Stranded p c.toYaml d _ :=
      stranded_of_filled only changed place (by rw [← add]; exact filled)
    exact ⟨fun _ => ⟨⟨_, rfl⟩, stranded⟩, fun quiet => absurd strands quiet⟩
  | unmoved made place whole moved =>
    -- From here on there is no way on that removes the draft.
    simp only [made] at changed rooted₁ only add
    rw [add] at whole
    obtain ⟨number, filled⟩ := Disk.filled_of_locateFile rooted₁ place _
    have strands : Strands c d p := by
      apply (strands_iff made place filled (by rw [whole])).mpr
      intro d' moved'
      cases moved.symm.trans moved'
    have stranded : Stranded p c.toYaml d _ :=
      stranded_of_filled only changed place (by rw [whole]; exact filled)
    exact ⟨fun _ => ⟨⟨_, rfl⟩, stranded⟩, fun quiet => absurd strands quiet⟩
  | done made place whole moved =>
    simp only [made] at rooted₁ add
    rw [add] at whole
    obtain ⟨number, filled⟩ := Disk.filled_of_locateFile rooted₁ place _
    refine ⟨fun strands => ?_, nofun⟩
    exact absurd moved ((strands_iff made place filled (by rw [whole])).mp strands _)

/-- Directories in the way of files, one of them beside a draft, and a file in the way of a
directory. -/
def crowded : Disk :=
  ⟨[(["d.yaml"], .directory), (["d.yaml.tmp"], .file 0), (["e.yaml"], .directory),
    (["f"], .file 1)], [(0, "kept"), (1, "old")], none⟩

theorem writeTo_strands_or_leaves_nothing_crowded :
    let c : Config := ⟨[], [], [], 256⟩
    let p := Path.ofString "/n/../e.yaml"
    let q := Path.ofString "/n/../f/l.yaml"
    let stuck := outcome (c.writeTo p) crowded
    let failed := outcome (c.writeTo q) crowded
    crowded.Rooted ∧ Strands c crowded p ∧ ¬ Strands c crowded q ∧ failed.1.isOk = false ∧
      Stranded p c.toYaml crowded stuck.2 ∧ NothingLeft q crowded failed.2 := by
  intro c p q stuck failed
  have rooted : crowded.Rooted := Disk.rooted_of_items (by decide +kernel)
  have failing : failed.1 = .error (.io .exists) := by decide +kernel
  have strands : Strands c crowded p := by
    refine ⟨by decide +kernel, ⟨["e.yaml.tmp"], by decide +kernel⟩, .inr fun k target => ?_⟩
    have closed : (makeParent crowded p).2.locateTarget p = .error .isDirectory := by
      decide +kernel
    cases closed.symm.trans target
  have quiet : ¬ Strands c crowded q := by
    intro strands
    have blocked : (makeParent crowded q).1 = .error .exists := by decide +kernel
    cases blocked.symm.trans strands.made
  obtain ⟨stays, -⟩ := writeTo_strands_or_leaves_nothing c p crowded rooted
  obtain ⟨-, leaves⟩ := writeTo_strands_or_leaves_nothing c q crowded rooted
  exact ⟨rooted, strands, quiet, by rw [failing]; rfl, (stays strands).2, leaves quiet _ failing⟩

/-- A save that fails can leave a file that was not there, another text in a file that was, or a part
of its text. -/
theorem failed_save_changes_files :
    let c : Config := ⟨[], [], [], 256⟩
    let new := outcome (c.writeTo (Path.ofString "/e.yaml")) crowded
    let replaced := outcome (c.writeTo (Path.ofString "/d.yaml")) crowded
    let full : Disk := { crowded with limit := some (3, .noSpace) }
    let cut := outcome (c.writeTo (Path.ofString "/g.yaml")) full
    (new.1 = .error (.io .isDirectory) ∧ crowded.get? ["e.yaml.tmp"] = none ∧
      new.2.get? ["e.yaml.tmp"] = some (.file 2 (some c.toYaml))) ∧
    (replaced.1 = .error (.io .isDirectory) ∧
      crowded.get? ["d.yaml.tmp"] = some (.file 0 (some "kept")) ∧
      replaced.2.get? ["d.yaml.tmp"] = some (.file 0 (some c.toYaml)) ∧ c.toYaml ≠ "kept") ∧
    (cut.1 = .error (.io .noSpace) ∧ full.get? ["g.yaml.tmp"] = none ∧
      cut.2.get? ["g.yaml.tmp"] = some (.file 2 (some "lig"))) := by
  decide +kernel

end Ligature.Config
