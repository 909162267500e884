import Ligature.Proofs.Ways

/-!
# What operations do to a disk

What is written to a file is found under all its names, and nothing else changes. What is on a disk
stays there when directories are made, and directories that are made lead to where they were asked
for. Making the same directories once more finds nothing left to do, or fails as before.
-/
namespace Ligature.Files

def Entry.withText (number : Nat) (text : Option String) : Entry → Entry
  | .file m old => .file m (if m = number then text else old)
  | e => e

namespace Disk

variable {d d' d₁ : Disk} {l k : Location} {name : String} {names : List String} {number : Nat}
  {text old : Option String} {e : FileError}

theorem ne_nil_of_free (free : d.get? k ≠ some .directory) : k ≠ [] := by
  rintro rfl
  exact free rfl

theorem free_of_absent (absent : d.get? l = none) : d.get? l ≠ some .directory := by
  rw [absent]
  exact (Option.some_ne_none _).symm

theorem noLink_of_absent (absent : d.get? l = none) : d.NoLink l := by
  simp [NoLink, absent]

theorem item?_eq_file (there : d.get? l = some (.file number old)) :
    d.item? l = some (.file number) := by
  obtain ⟨i, item, same⟩ := Option.map_eq_some_iff.mp there
  cases i with
  | file m =>
    cases same
    exact item
  | directory => cases same
  | link target => cases same

theorem exists_item {x : Entry} (there : d.get? l = some x) (free : x ≠ .directory) :
    ∃ i, d.item? l = some i ∧ i ≠ .directory := by
  obtain ⟨i, item, same⟩ := Option.map_eq_some_iff.mp there
  refine ⟨i, item, ?_⟩
  rintro rfl
  exact free same.symm

/-! ### Files -/

theorem get?_setText (d : Disk) (number : Nat) (text : Option String) (l : Location) :
    (d.setText number text).get? l = (d.get? l).map (Entry.withText number text) := by
  have texts (m : Nat) : (d.setText number text).texts.lookup m =
      if m = number then text else d.texts.lookup m := by
    by_cases same : m = number
    · subst same
      rw [if_pos rfl]
      cases text with
      | none => exact lookup_filter_self ..
      | some text => exact List.lookup_cons_self
    · have other : (m == number) = false := beq_eq_false_iff_ne.2 same
      have kept := lookup_filter_ne same d.texts
      rw [if_neg same]
      cases text with
      | none => exact kept
      | some text => exact (by rw [setText, List.lookup_cons, other, kept])
  have entries (i : Item) :
      (d.setText number text).entry i = (d.entry i).withText number text := by
    cases i with
    | directory => rfl
    | file m => simp only [entry, texts, Entry.withText]
    | link target => rfl
  have items : (d.setText number text).item? l = d.item? l := rfl
  rw [get?, get?, items, Option.map_map]
  congr 1
  funext i
  exact entries i

theorem add_eq_ok {before more : String} (whole : (d.add before more).1 = .ok ()) :
    d.add before more = (.ok (), some (before ++ more)) := by
  unfold add at whole ⊢
  split
  · rfl
  · rename_i limited
    simp only [limited] at whole
    dsimp only
    split
    · rfl
    · rename_i long
      rw [if_neg long] at whole
      cases whole

/-- A file has got a content, which is found under all its names; a file that is new has one. -/
structure Filled (d d' : Disk) (l : Location) (number : Nat) (text : Option String) : Prop where
  entry : d'.get? l = some (.file number text)
  others : ∀ k, k ≠ l → d'.get? k = (d.get? k).map (Entry.withText number text)
  before : (∃ old, d.get? l = some (.file number old)) ∨
    d.get? l = none ∧ ∀ k old, d.get? k ≠ some (.file number old)

theorem filled_fill (free : d.get? l ≠ some .directory) (noLink : d.NoLink l)
    (text : Option String) : ∃ number, Filled d (d.fill l text) l number text := by
  unfold fill
  cases item : d.item? l with
  | none =>
    have absent : d.get? l = none := by rw [get?, item, Option.map_none]
    refine ⟨d.unused, ?_, ?_, .inr ⟨absent, ?_⟩⟩
    · rw [get?_setText, get?_put_self (ne_nil_of_free free)]
      simp [Disk.entry, Entry.withText]
    · intro k other
      rw [get?_setText, get?_put_of_ne other]
    · intro k old there
      exact Nat.lt_irrefl _ (lt_unused (item?_eq_file there))
  | some i =>
    cases i with
    | directory => exact absurd (by rw [get?, item]; rfl) free
    | link target => exact absurd (by rw [get?, item]; rfl) (noLink target)
    | file number =>
      have there : d.get? l = some (.file number (d.texts.lookup number)) := by
        rw [get?, item]
        rfl
      refine ⟨number, ?_, fun k _ => get?_setText .., .inl ⟨_, there⟩⟩
      rw [get?_setText, there]
      simp [Entry.withText]

namespace Filled

variable (h : Filled d d' l number text)
include h

theorem free : d.get? l ≠ some .directory := by
  rcases h.before with ⟨old, there⟩ | ⟨absent, -⟩
  · simp [there]
  · exact free_of_absent absent

theorem noLink : d.NoLink l := by
  rcases h.before with ⟨old, there⟩ | ⟨absent, -⟩
  · simp [NoLink, there]
  · exact noLink_of_absent absent

theorem directory_iff (k : Location) :
    d'.get? k = some .directory ↔ d.get? k = some .directory := by
  by_cases same : k = l
  · subst same
    simp [h.entry, h.free]
  · rw [h.others k same]
    cases d.get? k with
    | none => simp
    | some e => cases e <;> simp [Entry.withText]

theorem link_iff (k : Location) (target : Path) :
    d'.get? k = some (.link target) ↔ d.get? k = some (.link target) := by
  by_cases same : k = l
  · subst same
    simp [h.entry, h.noLink target]
  · rw [h.others k same]
    cases d.get? k with
    | none => simp
    | some e => cases e <;> simp [Entry.withText]

theorem keepsWays : d.KeepsWays d' :=
  ⟨fun k => (h.directory_iff k).mpr, fun k target => (h.link_iff k target).symm⟩

theorem keepsWays_back : d'.KeepsWays d :=
  ⟨fun k => (h.directory_iff k).mp, h.link_iff⟩

theorem of_changed (changed : d'.get? k ≠ d.get? k) : d'.get? k = some (.file number text) := by
  by_cases same : k = l
  · rw [same, h.entry]
  · rw [h.others k same] at changed ⊢
    cases there : d.get? k with
    | none => simp [there] at changed
    | some e =>
      cases e with
      | directory => simp [there, Entry.withText] at changed
      | link target => simp [there, Entry.withText] at changed
      | file m old =>
        by_cases number' : m = number
        · simp [Entry.withText, number']
        · simp [there, Entry.withText, number'] at changed

theorem of_changed_ne (changed : d'.get? k ≠ d.get? k) (other : k ≠ l) :
    ∃ old, d.get? k = some (.file number old) := by
  have now := h.of_changed changed
  rw [h.others k other] at now
  obtain ⟨e, there, same⟩ := Option.map_eq_some_iff.mp now
  cases e with
  | directory => cases same
  | link target => cases same
  | file m old =>
    obtain ⟨rfl, -⟩ := Entry.file.inj same
    exact ⟨old, there⟩

theorem rooted (rooted : d.Rooted)
    (parent : ∃ name l', l = name :: l' ∧ d.get? l' = some .directory) :
    d'.Rooted := by
  intro name k e there
  rw [h.directory_iff]
  by_cases same : name :: k = l
  · obtain ⟨name', l', rfl, directory⟩ := parent
    cases same
    exact directory
  · rw [h.others _ same] at there
    obtain ⟨e, there, -⟩ := Option.map_eq_some_iff.mp there
    exact rooted name k e there

end Filled

/-! ### Items -/

theorem rooted_of_items (listed : ∀ x ∈ d.items, d.get? x.1.tail = some .directory) :
    d.Rooted := by
  intro name l e there
  obtain ⟨i, item, -⟩ := Option.map_eq_some_iff.mp there
  rw [item?, if_neg (List.cons_ne_nil name l)] at item
  obtain ⟨before, behind, split, -⟩ := List.lookup_eq_some_iff.mp item
  exact listed (name :: l, i) (split ▸ by simp)

theorem rooted_put (rooted : d.Rooted) (parent : d.get? l = some .directory)
    (free : d.get? (name :: l) ≠ some .directory) (i : Item) : (d.put (name :: l) i).Rooted := by
  intro name' k x there
  by_cases inside : k = name :: l
  · subst inside
    have deeper : name' :: name :: l ≠ name :: l := List.cons_ne_self _ _
    rw [get?_put_of_ne deeper] at there
    exact absurd (rooted _ _ x there) free
  · rw [get?_put_of_ne inside]
    by_cases same : name' :: k = name :: l
    · obtain ⟨-, rfl⟩ := List.cons.inj same
      exact parent
    · rw [get?_put_of_ne same] at there
      exact rooted name' k x there

theorem rooted_erase (rooted : d.Rooted) (free : d.get? l ≠ some .directory) :
    (d.erase l).Rooted := by
  intro name k x there
  have parent : d.get? k = some .directory := by
    by_cases same : name :: k = l
    · subst same
      rw [get?_erase_self (List.cons_ne_nil name k)] at there
      cases there
    · rw [get?_erase_of_ne same] at there
      exact rooted name k x there
  have kept : k ≠ l := by
    rintro rfl
    exact free parent
  rw [get?_erase_of_ne kept, parent]

/-! ### Making directories -/

/-- Only directories have come to be there. -/
def OnlyMade (d d' : Disk) : Prop :=
  ∀ k, d'.get? k = d.get? k ∨ d.get? k = none ∧ d'.get? k = some .directory

namespace OnlyMade

theorem refl (d : Disk) : d.OnlyMade d := fun _ => .inl rfl

theorem trans (h : d.OnlyMade d₁) (h' : d₁.OnlyMade d') : d.OnlyMade d' := by
  intro k
  rcases h' k with same | ⟨absent, made⟩
  · rw [same]
    exact h k
  · rcases h k with same' | ⟨-, made'⟩
    · exact .inr ⟨same' ▸ absent, made⟩
    · cases absent.symm.trans made'

theorem kept {e : Entry} (h : d.OnlyMade d') (there : d.get? k = some e) : d'.get? k = some e := by
  rcases h k with same | ⟨absent, -⟩
  · rw [same, there]
  · cases absent.symm.trans there

theorem back {e : Entry} (h : d.OnlyMade d') (free : e ≠ .directory) (there : d'.get? k = some e) :
    d.get? k = some e := by
  rcases h k with same | ⟨-, made⟩
  · rw [← same, there]
  · cases made.symm.trans there
    exact absurd rfl free

theorem keepsWays (h : d.OnlyMade d') : d.KeepsWays d' :=
  ⟨fun _ => h.kept, fun _ _ => ⟨h.kept, h.back nofun⟩⟩

end OnlyMade

theorem onlyMade_put (absent : d.get? l = none) : d.OnlyMade (d.put l .directory) := by
  intro k
  by_cases same : k = l
  · subst same
    exact .inr ⟨absent, get?_put_self (ne_nil_of_free (free_of_absent absent)) ..⟩
  · exact .inl (get?_put_of_ne same ..)

theorem get?_made (absent : d.get? l = none) : (d.put l .directory).get? l = some .directory :=
  get?_put_self (ne_nil_of_free (free_of_absent absent)) ..

theorem makeDirectory_eq_ok_iff : d.makeDirectory names name = .ok d' ↔
    ∃ k, d.walkTo names name = .ok k ∧ d.get? k = none ∧ d' = d.put k .directory := by
  constructor
  · intro made
    obtain ⟨k, way, put⟩ := Regex.bind_eq_ok.mp made
    split at put
    · cases put
    · rename_i absent
      cases put
      exact ⟨k, way, by simpa using absent, rfl⟩
  · rintro ⟨k, way, absent, rfl⟩
    refine Regex.bind_eq_ok.mpr ⟨k, way, ?_⟩
    simp [absent]

theorem ensureDirectory_cases (d : Disk) (names : List String) (name : String) :
    (∃ k, d.walkTo names name = .ok k ∧ d.get? k = none ∧
      d.ensureDirectory names name = (.ok (), d.put k .directory)) ∨
    (d.isDirectory (names ++ [name]) = true ∧ d.ensureDirectory names name = (.ok (), d)) ∨
    ∃ e, d.isDirectory (names ++ [name]) = false ∧ d.makeDirectory names name = .error e ∧
      d.ensureDirectory names name = (.error e, d) := by
  unfold ensureDirectory
  cases made : d.makeDirectory names name with
  | ok d' =>
    obtain ⟨k, way, absent, rfl⟩ := makeDirectory_eq_ok_iff.mp made
    exact .inl ⟨k, way, absent, rfl⟩
  | error e =>
    cases there : d.isDirectory (names ++ [name]) with
    | true => exact .inr (.inl ⟨rfl, rfl⟩)
    | false => exact .inr (.inr ⟨e, rfl, rfl, rfl⟩)

/-- It takes no more than the last directory, unless a directory before it is missing. -/
theorem makeDirectoriesTo_cons (d : Disk) (name : String) (names : List String) :
    ((d.ensureDirectory names.reverse name).1 ≠ .error .notFound ∧
      d.makeDirectoriesTo (name :: names) = d.ensureDirectory names.reverse name) ∨
    (d.ensureDirectory names.reverse name = (.error .notFound, d) ∧
      ((∃ e d₁, d.makeDirectoriesTo names = (.error e, d₁) ∧
        d.makeDirectoriesTo (name :: names) = (.error e, d₁)) ∨
      ∃ d₁, d.makeDirectoriesTo names = (.ok (), d₁) ∧
        d.makeDirectoriesTo (name :: names) = d₁.ensureDirectory names.reverse name)) := by
  rw [makeDirectoriesTo]
  by_cases missing : (d.ensureDirectory names.reverse name).1 = .error .notFound
  · have same : d.ensureDirectory names.reverse name = (.error .notFound, d) := by
      rcases ensureDirectory_cases d names.reverse name with ⟨k, -, -, ends⟩ | ⟨-, ends⟩ |
        ⟨e, -, -, ends⟩
      · rw [ends] at missing
        cases missing
      · rw [ends] at missing
        cases missing
      · rw [ends] at missing ⊢
        cases missing
        rfl
    refine .inr ⟨same, ?_⟩
    rw [same]
    cases before : d.makeDirectoriesTo names with
    | mk result d₁ =>
      cases result with
      | error e => exact .inl ⟨e, d₁, rfl, rfl⟩
      | ok _ => exact .inr ⟨d₁, rfl, rfl⟩
  · refine .inl ⟨missing, ?_⟩
    split
    · rename_i ends
      rw [ends] at missing
      exact absurd rfl missing
    · rfl

/-- Whatever the making of a directory preserves is preserved when directories are made. -/
theorem preserved_makeDirectoriesTo {motive : Disk → Prop}
    (made : ∀ d names name k, motive d → d.walkTo names name = .ok k → d.get? k = none →
      motive (d.put k .directory)) (start : motive d) (names : List String) :
    motive (d.makeDirectoriesTo names).2 := by
  have ensured (d : Disk) (names : List String) (name : String) (start : motive d) :
      motive (d.ensureDirectory names name).2 := by
    rcases ensureDirectory_cases d names name with ⟨k, way, absent, ends⟩ | ⟨-, ends⟩ |
      ⟨e, -, -, ends⟩
    · rw [ends]
      exact made d names name k start way absent
    · rw [ends]
      exact start
    · rw [ends]
      exact start
  induction names with
  | nil => exact start
  | cons name names ih =>
    rcases makeDirectoriesTo_cons d name names with ⟨-, ends⟩ | ⟨-, ⟨e, d₁, before, ends⟩ |
      ⟨d₁, before, ends⟩⟩
    · rw [ends]
      exact ensured d _ _ start
    · rw [before] at ih
      rw [ends]
      exact ih
    · rw [before] at ih
      rw [ends]
      exact ensured d₁ _ _ ih

theorem onlyMade_makeDirectoriesTo (d : Disk) (names : List String) :
    d.OnlyMade (d.makeDirectoriesTo names).2 :=
  preserved_makeDirectoriesTo (fun _ _ _ _ before _ absent => before.trans (onlyMade_put absent))
    (.refl d) names

theorem limit_makeDirectoriesTo (d : Disk) (names : List String) :
    (d.makeDirectoriesTo names).2.limit = d.limit :=
  preserved_makeDirectoriesTo (motive := fun d' => d'.limit = d.limit)
    (fun _ _ _ _ before _ _ => before) rfl names

theorem rooted_makeDirectory (rooted : d.Rooted) (way : d.walkTo names name = .ok k)
    (absent : d.get? k = none) : (d.put k .directory).Rooted := by
  obtain ⟨l, -, stepped⟩ := walkTo_eq_ok_iff.mp way
  obtain rfl := step_free rooted stepped (free_of_absent absent)
  exact rooted_put rooted (directory_of_step stepped) (free_of_absent absent) _

theorem rooted_makeDirectoriesTo (rooted : d.Rooted) (names : List String) :
    (d.makeDirectoriesTo names).2.Rooted :=
  preserved_makeDirectoriesTo (fun _ _ _ _ => rooted_makeDirectory) rooted names

theorem leads_made (way : d.walkTo names name = .ok k) (absent : d.get? k = none) :
    (d.put k .directory).Leads linkLimit [] (names ++ [name]) k := by
  obtain ⟨l, way, stepped⟩ := walkTo_eq_ok_iff.mp way
  have keeps := (onlyMade_put absent).keepsWays
  exact (keeps.leads way).snoc (keeps.step stepped) (noLink_of_directory (get?_made absent))

theorem way_of_changed (changed : (d.makeDirectoriesTo names).2.get? k ≠ d.get? k) :
    ∃ front, front <+: names.reverse ∧ (d.makeDirectoriesTo names).2.Leads linkLimit [] front k := by
  have ensured {d : Disk} {names : List String} {name : String}
      (changed : (d.ensureDirectory names name).2.get? k ≠ d.get? k) :
      (d.ensureDirectory names name).2.Leads linkLimit [] (names ++ [name]) k := by
    rcases ensureDirectory_cases d names name with ⟨j, way, absent, ends⟩ | ⟨-, ends⟩ |
      ⟨e, -, -, ends⟩
    · rw [ends] at changed ⊢
      by_cases same : k = j
      · rw [same]
        exact leads_made way absent
      · exact absurd (get?_put_of_ne same ..) changed
    · rw [ends] at changed
      exact absurd rfl changed
    · rw [ends] at changed
      exact absurd rfl changed
  induction names with
  | nil => exact absurd rfl changed
  | cons name names ih =>
    rw [List.reverse_cons]
    rcases makeDirectoriesTo_cons d name names with ⟨-, ends⟩ | ⟨-, ⟨e, d₁, before, ends⟩ |
      ⟨d₁, before, ends⟩⟩
    · rw [ends] at changed ⊢
      exact ⟨_, List.prefix_refl _, ensured changed⟩
    · rw [before] at ih
      rw [ends] at changed ⊢
      obtain ⟨front, early, way⟩ := ih changed
      exact ⟨front, early.trans (List.prefix_append ..), way⟩
    · rw [before] at ih
      rw [ends] at changed ⊢
      by_cases later : (d₁.ensureDirectory names.reverse name).2.get? k = d₁.get? k
      · rw [later] at changed
        obtain ⟨front, early, way⟩ := ih changed
        have keeps : d₁.KeepsWays (d₁.ensureDirectory names.reverse name).2 := by
          rcases ensureDirectory_cases d₁ names.reverse name with ⟨j, -, absent, ends⟩ |
            ⟨-, ends⟩ | ⟨e, -, -, ends⟩
          · rw [ends]
            exact (onlyMade_put absent).keepsWays
          · rw [ends]
            exact (OnlyMade.refl d₁).keepsWays
          · rw [ends]
            exact (OnlyMade.refl d₁).keepsWays
        exact ⟨front, early.trans (List.prefix_append ..), keeps.leads way⟩
      · exact ⟨_, List.prefix_refl _, ensured later⟩

end Disk

end Ligature.Files
