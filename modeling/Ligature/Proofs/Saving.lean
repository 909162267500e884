import Ligature.Proofs.ConfigRoundTrip
import Ligature.Proofs.Outcomes
import Ligature.Proofs.SavedFiles

/-!
# Saved configurations

A configuration that was saved is what is read at its path afterwards. But for the directories that
were missing on the way, nothing else has come to be there, and nothing else is gone. A
configuration that could not be saved leaves at its path what was there before.
-/
namespace Ligature.Config

open Files (Disk Entry Location Path)
open Files.Disk (Filled linkLimit)
open Machine (outcome)

variable {c : Config} {p : Path} {d d' d₁ d₂ : Disk} {k m : Location} {name : List Char}
  {number : Nat} {content : Option String}

/-! ### Making the directory -/

theorem onlyMade_makeParent (d : Disk) (p : Path) : d.OnlyMade (makeParent d p).2 := by
  unfold makeParent
  cases p.parent? with
  | none => exact .refl d
  | some parent => exact Disk.onlyMade_makeDirectories d parent

theorem add_makeParent (d : Disk) (p : Path) : (makeParent d p).2.add = d.add := by
  have limit : (makeParent d p).2.limit = d.limit := by
    unfold makeParent
    cases p.parent? with
    | none => rfl
    | some parent => exact Disk.limit_makeDirectories d parent
  funext before more
  rw [Disk.add, Disk.add, limit]

theorem rooted_makeParent (rooted : d.Rooted) (p : Path) : (makeParent d p).2.Rooted := by
  unfold makeParent
  cases p.parent? with
  | none => exact rooted
  | some parent => exact Disk.rooted_makeDirectories rooted parent

structure MadeFor (p : Path) (before behind : Disk) (k : Location) : Prop where
  absent : before.get? k = none
  made : behind.get? k = some .directory
  way : ∃ parent front, p.parent? = some parent ∧ front <+: parent.names ∧
    behind.Leads linkLimit [] front k

theorem madeFor_of_changed (changed : (makeParent d p).2.get? k ≠ d.get? k) :
    MadeFor p d (makeParent d p).2 k := by
  obtain ⟨absent, made⟩ := (onlyMade_makeParent d p k).resolve_left changed
  refine ⟨absent, made, ?_⟩
  unfold makeParent at changed ⊢
  cases parent' : p.parent? with
  | none =>
    rw [parent'] at changed
    exact absurd rfl changed
  | some parent =>
    rw [parent'] at changed
    obtain ⟨front, early, way⟩ := Disk.makeDirectories_of_changed changed
    exact ⟨parent, front, rfl, early, way⟩

theorem MadeFor.of_keeps (h : MadeFor p d d₁ k) (keeps : d₁.KeepsWays d') : MadeFor p d d' k := by
  obtain ⟨parent, front, parent', early, way⟩ := h.way
  exact ⟨h.absent, keeps.directories k h.made, parent, front, parent', early, keeps.leads way⟩

/-! ### Where a save ends -/

/-- A save ends with the directory that cannot be made, with the draft that cannot be opened or that
cannot take the whole text, with the draft that cannot be moved, or well. -/
inductive SaveEnds (c : Config) (p : Path) (d : Disk) : Except ConfigError Unit × Disk → Prop where
  | unmade {e : FileError} {d₁ : Disk} (made : makeParent d p = (.error e, d₁)) :
      SaveEnds c p d (.error (.io e), d₁)
  | unopened {e : FileError} {d₁ : Disk} (made : makeParent d p = (.ok (), d₁))
      (place : d₁.locateFile (draft p) = .error e) : SaveEnds c p d (.error (.io e), d₁)
  | unwritten {e : FileError} {d₁ : Disk} {m : Location}
      (made : makeParent d p = (.ok (), d₁))
      (place : d₁.locateFile (draft p) = .ok m) (stops : (d₁.add "" c.toYaml).1 = .error e) :
      SaveEnds c p d (.error (.io e), d₁.fill m (d₁.add "" c.toYaml).2)
  | unmoved {e : FileError} {d₁ : Disk} {m : Location}
      (made : makeParent d p = (.ok (), d₁))
      (place : d₁.locateFile (draft p) = .ok m)
      (whole : d₁.add "" c.toYaml = (.ok (), some c.toYaml))
      (moved : (d₁.fill m (some c.toYaml)).rename (draft p) p = .error e) :
      SaveEnds c p d (.error (.io e), d₁.fill m (some c.toYaml))
  | done {d₁ d' : Disk} {m : Location} (made : makeParent d p = (.ok (), d₁))
      (place : d₁.locateFile (draft p) = .ok m)
      (whole : d₁.add "" c.toYaml = (.ok (), some c.toYaml))
      (moved : (d₁.fill m (some c.toYaml)).rename (draft p) p = .ok d') :
      SaveEnds c p d (.ok (), d')

theorem saveEnds_writeTo (c : Config) (p : Path) (d : Disk) :
    SaveEnds c p d (outcome (c.writeTo p) d) := by
  rw [outcome_writeTo]
  cases made : makeParent d p with
  | mk result d₁ =>
    cases result with
    | error e => exact .unmade made
    | ok _ =>
      dsimp only [Disk.writeText]
      cases place : d₁.locateFile (draft p) with
      | error e => exact .unopened made place
      | ok m =>
        dsimp only
        cases stops : (d₁.add "" c.toYaml).1 with
        | error e => exact .unwritten made place stops
        | ok _ =>
          have whole := Disk.add_eq_ok stops
          rw [String.empty_append] at whole
          simp only [whole]
          cases moved : (d₁.fill m (some c.toYaml)).rename (draft p) p with
          | error e => exact .unmoved made place whole moved
          | ok d' => exact .done made place whole moved

theorem rooted_writeTo (rooted : d.Rooted) (c : Config) (p : Path) :
    (outcome (c.writeTo p) d).2.Rooted := by
  have rooted₁ := rooted_makeParent rooted p
  have ends := saveEnds_writeTo c p d
  generalize outcome (c.writeTo p) d = saved at ends
  cases ends with
  | unmade made =>
    rw [made] at rooted₁
    exact rooted₁
  | unopened made place =>
    rw [made] at rooted₁
    exact rooted₁
  | unwritten made place stops =>
    rw [made] at rooted₁
    exact Disk.rooted_fill rooted₁ place _
  | unmoved made place whole moved =>
    rw [made] at rooted₁
    exact Disk.rooted_fill rooted₁ place _
  | done made place whole moved =>
    rw [made] at rooted₁
    exact Disk.rooted_rename (Disk.rooted_fill rooted₁ place _) moved

/-! ### Drafts without links -/

/-- Neither a file nor its draft is a link, and the draft is no further name of a file. -/
structure Unlinked (d : Disk) (p : Path) : Prop where
  noFileLink : ∀ name l x, p.fileName? = some name → d.locateName (draft p) = .ok (x :: l) →
    d.NoLink (String.ofList name :: l)
  noDraftLink : ∀ m, d.locateName (draft p) = .ok m → d.NoLink m
  single : ∀ m number old, d.locateName (draft p) = .ok m →
    d.get? m = some (.file number old) → ∀ k old, d.get? k = some (.file number old) → k = m

theorem fileName?_of_locateFile (rooted : d.Rooted) (place : d.locateFile (draft p) = .ok m) :
    ∃ name, p.fileName? = some name := by
  cases file : p.fileName? with
  | some name => exact ⟨name, rfl⟩
  | none =>
    obtain ⟨located, free, -⟩ := Disk.locateFile_eq_ok_iff.mp place
    have same : draft p = p := by rw [draft, Path.withExtension, file]
    rw [same] at located
    exact absurd (Disk.directory_of_nameless rooted file located) free

structure Drafted (d : Disk) (p : Path) (name : List Char) (l m : Location) : Prop where
  file : p.fileName? = some name
  named : d.locateName (draft p) = .ok m
  beside : d.Beside p name l m
  noLink : d.NoLink (String.ofList name :: l)

theorem Unlinked.drafted (h : Unlinked d p) (rooted : d.Rooted)
    (place : d.locateFile (draft p) = .ok m) : ∃ name l, Drafted d p name l m := by
  obtain ⟨name, file⟩ := fileName?_of_locateFile rooted place
  obtain ⟨located, -, -⟩ := Disk.locateFile_eq_ok_iff.mp place
  obtain ⟨m', named, same⟩ := Disk.locateName_of_locate located
  obtain rfl := same (h.noDraftLink m' named)
  obtain ⟨l, beside⟩ := Disk.beside_of_locateName file named
  obtain ⟨x, rfl, -⟩ := beside.draft
  exact ⟨name, l, file, named, beside, h.noFileLink name l x file named⟩

theorem Unlinked.others (h : Unlinked d p) (named : d.locateName (draft p) = .ok m)
    (filled : Filled d d' m number content) (other : k ≠ m) : d'.get? k = d.get? k := by
  by_cases same : d'.get? k = d.get? k
  · exact same
  · obtain ⟨old, there⟩ := filled.of_changed_ne same other
    rcases filled.before with ⟨old', draft⟩ | ⟨-, new⟩
    · exact absurd (h.single m number old' named draft k old there) other
    · exact absurd there (new k old)

/-! ### Failure -/

structure Kept (p : Path) (before behind : Disk) : Prop where
  find : ∀ e, before.find p = .ok e → behind.find p = .ok e
  below : ∀ k, before.locate p = .ok k → ∀ names e,
    before.get? (names ++ k) = some e → behind.get? (names ++ k) = some e

theorem kept_of_below (keeps : d.KeepsWays d')
    (below : ∀ k, d.locate p = .ok k → ∀ names e,
      d.get? (names ++ k) = some e → d'.get? (names ++ k) = some e) : Kept p d d' := by
  refine ⟨fun e found => ?_, below⟩
  obtain ⟨k, located, there, allowed⟩ := Disk.exists_locate_of_find found
  exact Disk.find_of_locate (keeps.locate located) (below k located [] e there) allowed

theorem kept_of_onlyMade (only : d.OnlyMade d') : Kept p d d' :=
  kept_of_below only.keepsWays fun _ _ _ _ => only.kept

theorem kept_of_filled (only : d.OnlyMade d₁) (rooted : d₁.Rooted) (unlinked : Unlinked d₁ p)
    (place : d₁.locateFile (draft p) = .ok m) (filled : Filled d₁ d₂ m number content) :
    Kept p d d₂ := by
  obtain ⟨name, l, h⟩ := unlinked.drafted rooted place
  have keeps := only.keepsWays
  refine kept_of_below ?_ ?_
  · exact ⟨fun k there => filled.keepsWays.directories k (keeps.directories k there),
      fun k target => (keeps.links k target).trans (filled.keepsWays.links k target)⟩
  · intro k located names e there
    obtain rfl := h.beside.locate h.file h.noLink (keeps.locate located)
    rw [unlinked.others h.named filled (h.beside.apart names)]
    exact only.kept there

/-! ### Success -/

/-- A text is at a path, by way of a draft that is gone, and nothing else has changed but that
directories were made on the way. -/
structure SavedAt (p : Path) (text : String) (before behind : Disk) : Prop where
  reads : behind.readText p = .ok text
  noDraft : behind.contains (draft p) = false
  others : ∀ k, behind.get? k ≠ before.get? k → behind.locate p = .ok k ∨
    behind.locate (draft p) = .ok k ∨ MadeFor p before behind k

theorem moved_of_draft (rooted : d₁.Rooted) (unlinked : Unlinked d₁ p)
    (place : d₁.locateFile (draft p) = .ok m) {text : String}
    (filled : Filled d₁ d₂ m number (some text)) (renamed : d₂.rename (draft p) p = .ok d') :
    ∃ k, d₁.locateTarget p = .ok k ∧ Disk.Moved text d₁ d' m k ∧ d'.locate p = .ok k ∧
      d'.locate (draft p) = .ok m := by
  obtain ⟨name, l, h⟩ := unlinked.drafted rooted place
  obtain ⟨-, -, k, -, -, -, -, target₂, -⟩ := Disk.rename_eq_ok_iff.mp renamed
  have target := filled.locateTarget_iff.mp target₂
  obtain ⟨named, -, -, -⟩ := Disk.locateTarget_eq_ok_iff.mp target
  obtain rfl := h.beside.target h.file target
  have single : ∀ j old, d₁.get? j = some (.file number old) → j = m := by
    intro j old there
    rcases filled.before with ⟨old', draft⟩ | ⟨-, new⟩
    · exact unlinked.single m number old' h.named draft j old there
    · exact absurd there (new j old)
  have moved :=
    Disk.moved_of_rename filled single h.named target h.noLink (h.beside.apart []) renamed
  exact ⟨_, target, moved, moved.keeps.locate (Disk.locate_of_locateName named h.noLink),
    moved.keeps.locate (Disk.locate_of_locateName h.named filled.noLink)⟩

theorem savedAt_of_rename (changed : ∀ k, d₁.get? k ≠ d.get? k → MadeFor p d d₁ k)
    (rooted : d₁.Rooted) (unlinked : Unlinked d₁ p) (place : d₁.locateFile (draft p) = .ok m)
    {text : String} (filled : Filled d₁ d₂ m number (some text))
    (renamed : d₂.rename (draft p) p = .ok d') : SavedAt p text d d' := by
  obtain ⟨k, taken, moved, target, source⟩ := moved_of_draft rooted unlinked place filled renamed
  obtain ⟨-, -, open', -⟩ := Disk.locateTarget_eq_ok_iff.mp taken
  obtain ⟨number', entry⟩ := moved.entry
  refine ⟨Disk.readText_of_locate target entry open',
    Disk.contains_eq_false source moved.gone, ?_⟩
  intro j differs
  by_cases isFile : j = k
  · exact .inl (isFile ▸ target)
  · by_cases isDraft : j = m
    · exact .inr (.inl (isDraft ▸ source))
    · rw [moved.same j isFile isDraft] at differs
      exact .inr (.inr ((changed j differs).of_keeps moved.keeps))

/-! ### Both -/

theorem readOn_toYaml (deep : (Yaml.Tree.mapping c.entries).depth ≤ depthLimit)
    (reads : d.readText p = .ok c.toYaml) :
    readOn d p = match c.validate with
      | .ok () => .ok c
      | .error e => .error (.validation e) := by
  rw [readOn_of_readText reads, fromYaml, read_toYaml c deep]
  cases valid : c.validate <;> simp only [valid]

theorem savedAt_or_kept (c : Config) (p : Path) (d : Disk) (rooted : d.Rooted)
    (unlinked : Unlinked (makeParent d p).2 p) :
    let saved := outcome (c.writeTo p) d
    (saved.1 = .ok () → SavedAt p c.toYaml d saved.2) ∧
      (∀ e, saved.1 = .error e → Kept p d saved.2) := by
  intro saved
  have only := onlyMade_makeParent d p
  have rooted₁ := rooted_makeParent rooted p
  have changed (k : Location) := madeFor_of_changed (p := p) (d := d) (k := k)
  have ends : SaveEnds c p d saved := saveEnds_writeTo c p d
  clear_value saved
  cases ends with
  | unmade made =>
    rw [made] at only
    exact ⟨nofun, fun _ _ => kept_of_onlyMade only⟩
  | unopened made place =>
    rw [made] at only
    exact ⟨nofun, fun _ _ => kept_of_onlyMade only⟩
  | unwritten made place stops =>
    rw [made] at only rooted₁ unlinked
    obtain ⟨number, filled⟩ := Disk.filled_of_locateFile rooted₁ place _
    exact ⟨nofun, fun _ _ => kept_of_filled only rooted₁ unlinked place filled⟩
  | unmoved made place whole moved =>
    rw [made] at only rooted₁ unlinked
    obtain ⟨number, filled⟩ := Disk.filled_of_locateFile rooted₁ place _
    exact ⟨nofun, fun _ _ => kept_of_filled only rooted₁ unlinked place filled⟩
  | done made place whole moved =>
    rw [made] at rooted₁ unlinked
    simp only [made] at changed
    obtain ⟨number, filled⟩ := Disk.filled_of_locateFile rooted₁ place _
    exact ⟨fun _ => savedAt_of_rename changed rooted₁ unlinked place filled moved, nofun⟩

/-- Where no links are in the way, a configuration that was saved is at its path, and is what is
read from there as long as it does not nest deeper than is read; its draft is gone, and elsewhere
nothing has changed but that missing directories were made. One that was not saved leaves what was
at its path as it was. -/
theorem writeTo_replaces_or_keeps (c : Config) (p : Path) (d : Disk) (rooted : d.Rooted)
    (unlinked : Unlinked (makeParent d p).2 p) :
    let saved := outcome (c.writeTo p) d
    (saved.1 = .ok () → SavedAt p c.toYaml d saved.2 ∧
      ((Yaml.Tree.mapping c.entries).depth ≤ depthLimit →
        outcome (readFrom p) saved.2 = (match c.validate with
          | .ok () => .ok c
          | .error e => .error (.validation e), saved.2))) ∧
    (∀ e, saved.1 = .error e → Kept p d saved.2) := by
  intro saved
  obtain ⟨success, failure⟩ := savedAt_or_kept c p d rooted unlinked
  refine ⟨fun done => ⟨success done, fun deep => ?_⟩, failure⟩
  rw [outcome_readFrom, readOn_toYaml deep (success done).reads]

theorem unlinked_of_items {x : String} {l : Location} (file : p.fileName? = some name)
    (named : d.locateName (draft p) = .ok (x :: l))
    (noLink : (d.item? (String.ofList name :: l)).all fun i => i = .directory ∨ i.isFile)
    (free : d.item? (x :: l) = none ∨ ∃ number, d.item? (x :: l) = some (.file number) ∧
      ∀ y ∈ d.items, y.2 = .file number → y.1 = x :: l) : Unlinked d p := by
  refine ⟨?_, ?_, ?_⟩
  · intro name' l' x' file' named'
    cases file.symm.trans file'
    cases named.symm.trans named'
    intro target there
    obtain ⟨i, item, link⟩ := Option.map_eq_some_iff.mp there
    cases i with
    | directory => cases link
    | file number => cases link
    | link target => simp [item, Files.Item.isFile] at noLink
  · intro m named' target there
    cases named.symm.trans named'
    rcases free with absent | ⟨number, item, -⟩
    · simp [Disk.get?, absent] at there
    · simp [Disk.get?, item, Disk.entry] at there
  · intro m number old named' there k old' other
    cases named.symm.trans named'
    rcases free with absent | ⟨number', item, single⟩
    · simp [Disk.get?, absent] at there
    · cases item.symm.trans (Disk.item?_eq_file there)
      have item' := Disk.item?_eq_file other
      rw [Disk.item?] at item'
      split at item'
      · cases item'
      · obtain ⟨before, behind, split, -⟩ := List.lookup_eq_some_iff.mp item'
        exact single (k, .file number) (split ▸ by simp) rfl

/-- A directory, to which a link leads, with a file, with the draft of a save that was broken off,
and with a directory that has the name of a file. -/
def shelf : Disk :=
  ⟨[(["a"], .directory), (["s"], .link (.ofString "/a/.")), (["l.v1.yml", "a"], .file 0),
    (["l.v1.yaml.tmp", "a"], .file 1), (["d.yml", "a"], .directory),
    (["x", "d.yml", "a"], .file 2)], [(0, "old"), (2, "kept")], none⟩

/-- The way to the first path leads through a directory that is missing; at the second one there is
a directory, which no file can replace. -/
theorem writeTo_replaces_or_keeps_shelf :
    let c : Config := ⟨[], [⟨"rust", "prog"⟩], [], 0⟩
    let p := Path.ofString "/s/b/../l.v1.yml"
    let q := Path.ofString "/a/d.yml"
    let saved := outcome (c.writeTo p) shelf
    let failed := outcome (c.writeTo q) shelf
    shelf.Rooted ∧ Unlinked (makeParent shelf p).2 p ∧ Unlinked (makeParent shelf q).2 q ∧
      saved.1 = .ok () ∧ SavedAt p c.toYaml shelf saved.2 ∧
      outcome (readFrom p) saved.2 = (.error (.validation .cacheSize), saved.2) ∧
      failed.1 = .error (.io .isDirectory) ∧ Kept q shelf failed.2 := by
  intro c p q saved failed
  have rooted : shelf.Rooted := Disk.rooted_of_items (by decide +kernel)
  have unlinked : Unlinked (makeParent shelf p).2 p :=
    unlinked_of_items (x := "l.v1.yaml.tmp") (l := ["a"]) rfl (by decide +kernel)
      (by decide +kernel) (.inr ⟨1, by decide +kernel, by decide +kernel⟩)
  have unlinked' : Unlinked (makeParent shelf q).2 q :=
    unlinked_of_items (x := "d.yaml.tmp") (l := ["a"]) rfl (by decide +kernel)
      (by decide +kernel) (.inl (by decide +kernel))
  have done : saved.1 = .ok () := by decide +kernel
  have stopped : failed.1 = .error (.io .isDirectory) := by decide +kernel
  obtain ⟨success, -⟩ := writeTo_replaces_or_keeps c p shelf rooted unlinked
  obtain ⟨-, failure⟩ := writeTo_replaces_or_keeps c q shelf rooted unlinked'
  obtain ⟨savedAt, loads⟩ := success done
  exact ⟨rooted, unlinked, unlinked', done, savedAt, loads (by decide), stopped,
    failure _ stopped⟩

/-! ### Links in the way -/

/-- A draft that is a further name of the file, a draft that is a link, and a file that is a link to
its draft. -/
def tangled : Disk :=
  ⟨[(["d.yaml"], .file 0), (["d.yaml.tmp"], .file 0), (["e.yaml.tmp"], .link (.ofString "f")),
    (["f"], .file 1), (["g.yaml"], .link (.ofString "g.yaml.tmp")), (["g.yaml.tmp"], .file 2)],
    [(0, "old"), (1, "other"), (2, "kept")], none⟩

def nested : Nat → Rules.PatternExpr
  | 0 => .str "x"
  | n + 1 => .optional (nested n)

def deepest : Config := ⟨[⟨none, [.expr '=' (nested 123)]⟩], [], [], 256⟩

set_option maxRecDepth 100000 in
theorem ofDocument?_deepest (anchors : Yaml.Anchors) :
    ofDocument? (some ⟨(Yaml.Tree.mapping deepest.entries).toNode, anchors⟩) = none := rfl

theorem fromYaml_deepest : fromYaml deepest.toYaml = .error .parse := by
  have written : deepest.entries ≠ [] := by simp [entries]
  obtain ⟨anchors, read⟩ := Yaml.readText_printDocument written deepest.fits_entries
  rw [fromYaml, toYaml, String.toList_ofList, read, Option.bind_some, ofDocument?_deepest anchors]

/-- A draft can outlast a save that succeeds, another file can be overwritten by it, and what was at
the path of a save that fails can be changed. What nests too deep is saved, but not read again. -/
theorem saves_astray :
    let c : Config := ⟨[], [], [], 256⟩
    let twin := outcome (c.writeTo (Path.ofString "/d.yaml")) tangled
    let strayed := outcome (c.writeTo (Path.ofString "/e.yaml")) tangled
    let full : Disk := { tangled with limit := some (3, .noSpace) }
    let stopped := outcome (c.writeTo (Path.ofString "/g.yaml")) full
    let deep := outcome (deepest.writeTo (Path.ofString "/n.yaml")) tangled
    (twin.1 = .ok () ∧ twin.2.contains (Path.ofString "/d.yaml.tmp") = true) ∧
    (strayed.1 = .ok () ∧ tangled.readText (Path.ofString "/f") = .ok "other" ∧
      strayed.2.readText (Path.ofString "/f") = .ok c.toYaml) ∧
    (stopped.1 = .error (.io .noSpace) ∧
      full.readText (Path.ofString "/g.yaml") = .ok "kept" ∧
      stopped.2.readText (Path.ofString "/g.yaml") = .ok "lig") ∧
    deep.1 = .ok () ∧ deepest.validate = .ok () ∧
      outcome (readFrom (Path.ofString "/n.yaml")) deep.2 = (.error .parse, deep.2) := by
  intro c twin strayed full stopped deep
  have rooted : tangled.Rooted := Disk.rooted_of_items (by decide +kernel)
  have unlinked : Unlinked (makeParent tangled (Path.ofString "/n.yaml")).2
      (Path.ofString "/n.yaml") :=
    unlinked_of_items (x := "n.yaml.tmp") (l := []) rfl (by decide +kernel) (by decide +kernel)
      (.inl (by decide +kernel))
  have done : deep.1 = .ok () := by decide +kernel
  obtain ⟨success, -⟩ := savedAt_or_kept deepest _ tangled rooted unlinked
  refine ⟨by decide +kernel, by decide +kernel, by decide +kernel, done, rfl, ?_⟩
  rw [outcome_readFrom, readOn_of_readText (success done).reads, fromYaml_deepest]

end Ligature.Config
