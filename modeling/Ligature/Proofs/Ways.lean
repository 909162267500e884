import Ligature.Files.Disk
import Ligature.Proofs.Reading

/-!
# Ways on disks

Where names lead on a disk, with the links on the way. A way goes through directories and links
alone, so it leads to the same place on every disk that has these, whatever happens to its files.
-/
namespace Ligature.Files.Disk

def NoLink (d : Disk) (l : Location) : Prop := ∀ target, d.get? l ≠ some (.link target)

def Rooted (d : Disk) : Prop :=
  ∀ name l e, d.get? (name :: l) = some e → d.get? l = some .directory

/-- Names lead from a location to another one, with so many links followed at most. -/
inductive Leads (d : Disk) : Nat → Location → List String → Location → Prop
  | here {n l} : Leads d n l [] l
  | on {n l name j names k} (stepped : d.step l name = .ok j) (noLink : d.NoLink j)
      (rest : Leads d n j names k) : Leads d n l (name :: names) k
  | link {n l name j target names k} (stepped : d.step l name = .ok j)
      (there : d.get? j = some (.link target))
      (rest : Leads d n (linkStart target j) (target.way ++ names) k) :
      Leads d (n + 1) l (name :: names) k

variable {d d' : Disk} {n m : Nat} {l j k : Location} {name : String} {names front : List String}
  {p : Path} {e : FileError}

theorem exists_link (link : ¬ d.NoLink l) : ∃ target, d.get? l = some (.link target) := by
  obtain ⟨target, there⟩ := Classical.not_forall.mp link
  exact ⟨target, Classical.not_not.mp there⟩

theorem noLink_of_directory (there : d.get? l = some .directory) : d.NoLink l := by
  simp [NoLink, there]

/-! ### Single names -/

theorem directory_of_step (h : d.step l name = .ok k) : d.get? l = some .directory := by
  unfold step at h
  split at h
  · cases h
  · assumption
  · cases h

theorem step_congr (there : d.get? l = some .directory) (there' : d'.get? l = some .directory) :
    d.step l name = d'.step l name := by
  simp only [step, there, there']

theorem step_here (there : d.get? l = some .directory) : d.step l "." = .ok l := by
  simp only [step, there, if_true]

theorem step_up (there : d.get? l = some .directory) : d.step l ".." = .ok l.tail := by
  simp only [step, there, String.reduceEq, if_false, if_true]

theorem step_plain (notHere : name ≠ ".") (notUp : name ≠ "..") (h : d.step l name = .ok k) :
    k = name :: l := by
  simp only [step, directory_of_step h, if_neg notHere, if_neg notUp] at h
  split at h
  · cases h
  · cases h
    rfl

theorem step_free (rooted : d.Rooted) (h : d.step l name = .ok k)
    (free : d.get? k ≠ some .directory) : k = name :: l := by
  have there := directory_of_step h
  by_cases here : name = "."
  · subst here
    rw [step_here there] at h
    cases h
    exact absurd there free
  · by_cases up : name = ".."
    · subst up
      rw [step_up there] at h
      cases h
      cases l with
      | nil => exact absurd there free
      | cons x t => exact absurd (rooted x t _ there) free
    · exact step_plain here up h

/-! ### Ways -/

theorem walk_nil (d : Disk) (n : Nat) (l : Location) : d.walk n l [] = .ok l := by
  cases n <;> rfl

theorem walk_cons (stepped : d.step l name = .ok j) (noLink : d.NoLink j) :
    d.walk n l (name :: names) = d.walk n j names := by
  cases n with
  | zero =>
    rw [walk, walkWith, stepped]
    dsimp only
    split
    · exact absurd ‹_› (noLink _)
    · rfl
  | succ n =>
    rw [walk, walkWith, stepped]
    dsimp only
    split
    · exact absurd ‹_› (noLink _)
    · rfl

theorem walk_cons_link {target : Path} (stepped : d.step l name = .ok j)
    (there : d.get? j = some (.link target)) :
    d.walk (n + 1) l (name :: names) = d.walk n (linkStart target j) (target.way ++ names) := by
  rw [walk, walkWith, stepped]
  simp only [there]

theorem walk_cons_link_zero {target : Path} (stepped : d.step l name = .ok j)
    (there : d.get? j = some (.link target)) :
    d.walk 0 l (name :: names) = .error .tooManyLinks := by
  rw [walk, walkWith, stepped]
  simp only [there]

theorem walk_cons_error (stuck : d.step l name = .error e) :
    d.walk n l (name :: names) = .error e := by
  cases n <;> rw [walk, walkWith, stuck]

theorem leads_of_walk (walk : d.walk n l names = .ok k) : d.Leads n l names k := by
  -- A link has fewer links behind it, and otherwise there are fewer names.
  induction n using Nat.strongRecOn generalizing l names with
  | ind n fewer =>
    induction names generalizing l with
    | nil =>
      rw [walk_nil] at walk
      cases walk
      exact .here
    | cons name names ih =>
      cases stepped : d.step l name with
      | error e =>
        rw [walk_cons_error stepped] at walk
        cases walk
      | ok j =>
        by_cases noLink : d.NoLink j
        · rw [walk_cons stepped noLink] at walk
          exact .on stepped noLink (ih walk)
        · obtain ⟨target, there⟩ := exists_link noLink
          cases n with
          | zero =>
            rw [walk_cons_link_zero stepped there] at walk
            cases walk
          | succ n =>
            rw [walk_cons_link stepped there] at walk
            exact .link stepped there (fewer n (Nat.lt_succ_self n) walk)

theorem walk_of_leads (way : d.Leads n l names k) : d.walk n l names = .ok k := by
  induction way with
  | here => exact walk_nil ..
  | on stepped noLink _ ih => rw [walk_cons stepped noLink, ih]
  | link stepped there _ ih => rw [walk_cons_link stepped there, ih]

theorem walk_eq_ok_iff : d.walk n l names = .ok k ↔ d.Leads n l names k :=
  ⟨leads_of_walk, walk_of_leads⟩

namespace Leads

theorem append {a b : List String} (way : d.Leads n l (a ++ b) k) :
    ∃ j m, d.Leads n l a j ∧ d.Leads m j b k := by
  generalize whole : a ++ b = names at way
  induction way generalizing a with
  | here =>
    obtain ⟨rfl, rfl⟩ := List.append_eq_nil_iff.mp whole
    exact ⟨_, 0, .here, .here⟩
  | on stepped noLink rest ih =>
    rcases List.append_eq_cons_iff.mp whole with ⟨rfl, rfl⟩ | ⟨a, rfl, rfl⟩
    · exact ⟨_, _, .here, .on stepped noLink rest⟩
    · obtain ⟨j, m, front, back⟩ := ih rfl
      exact ⟨j, m, .on stepped noLink front, back⟩
  | link stepped there rest ih =>
    rcases List.append_eq_cons_iff.mp whole with ⟨rfl, rfl⟩ | ⟨a, rfl, rfl⟩
    · exact ⟨_, _, .here, .link stepped there rest⟩
    · obtain ⟨j, m, front, back⟩ := ih (List.append_assoc ..)
      exact ⟨j, m, .link stepped there front, back⟩

theorem concat (way : d.Leads n l (front ++ [name]) k) :
    ∃ j k', d.Leads n l front j ∧ d.step j name = .ok k' ∧ (d.NoLink k' → k = k') := by
  obtain ⟨j, m, way, last⟩ := way.append
  cases last with
  | on stepped noLink rest =>
    cases rest
    exact ⟨j, k, way, stepped, fun _ => rfl⟩
  | link stepped there rest => exact ⟨j, _, way, stepped, fun noLink => absurd there (noLink _)⟩

theorem snoc (way : d.Leads n l front j) (stepped : d.step j name = .ok k) (noLink : d.NoLink k) :
    d.Leads n l (front ++ [name]) k := by
  induction way with
  | here => exact .on stepped noLink .here
  | on stepped' noLink' _ ih => exact .on stepped' noLink' (ih stepped)
  | link stepped' there _ ih =>
    have rest := ih stepped
    rw [List.append_assoc] at rest
    exact .link stepped' there rest

theorem unique (way : d.Leads n l names j) (way' : d.Leads n l names k) : j = k :=
  Except.ok.inj ((walk_of_leads way).symm.trans (walk_of_leads way'))

theorem stay (way : d.Leads n l (List.replicate m ".") k) (noLink : d.NoLink l) : k = l := by
  induction m with
  | zero =>
    cases way
    rfl
  | succ m ih =>
    cases way with
    | on stepped _ rest =>
      rw [step_here (directory_of_step stepped)] at stepped
      cases stepped
      exact ih rest
    | link stepped there _ =>
      rw [step_here (directory_of_step stepped)] at stepped
      cases stepped
      exact absurd there (noLink _)

theorem parent (rooted : d.Rooted) (way : d.Leads n l names k) (there : d.get? l = some .directory)
    (free : d.get? k ≠ some .directory) :
    ∃ name l', k = name :: l' ∧ d.get? l' = some .directory := by
  induction way with
  | here => exact absurd there free
  | @on n l name j names k stepped noLink rest ih =>
    by_cases next : d.get? j = some .directory
    · exact ih next free
    · cases rest with
      | here => exact ⟨name, l, step_free rooted stepped next, there⟩
      | on stepped' _ _ => exact absurd (directory_of_step stepped') next
      | link stepped' _ _ => exact absurd (directory_of_step stepped') next
  | @link n l name j target names k stepped link rest ih =>
    refine ih ?_ free
    unfold linkStart
    split
    · rfl
    · obtain rfl := step_free rooted stepped (by simp [link])
      exact there

theorem noLink (way : d.Leads n l names k) (rooted : d.Rooted)
    (there : d.get? l = some .directory) : d.NoLink k := by
  induction way with
  | here => exact noLink_of_directory there
  | on stepped noLink rest ih =>
    cases rest with
    | here => exact noLink
    | on stepped' _ _ => exact ih (directory_of_step stepped')
    | link stepped' _ _ => exact ih (directory_of_step stepped')
  | link stepped link _ ih =>
    refine ih ?_
    unfold linkStart
    split
    · rfl
    · obtain rfl := step_free rooted stepped (by simp [link])
      exact there

end Leads

/-! ### Disks with the same ways -/

/-- What is a directory stays one, and the links are the same. -/
structure KeepsWays (d d' : Disk) : Prop where
  directories : ∀ l, d.get? l = some .directory → d'.get? l = some .directory
  links : ∀ l target, d.get? l = some (.link target) ↔ d'.get? l = some (.link target)

namespace KeepsWays

theorem noLink (keeps : d.KeepsWays d') (noLink : d.NoLink l) : d'.NoLink l :=
  fun target there => noLink target ((keeps.links l target).mpr there)

theorem step (keeps : d.KeepsWays d') (stepped : d.step l name = .ok k) :
    d'.step l name = .ok k := by
  have there := directory_of_step stepped
  rw [← stepped]
  exact (step_congr there (keeps.directories l there)).symm

theorem leads (keeps : d.KeepsWays d') (way : d.Leads n l names k) : d'.Leads n l names k := by
  induction way with
  | here => exact .here
  | on stepped noLink _ ih => exact .on (keeps.step stepped) (keeps.noLink noLink) ih
  | link stepped there _ ih => exact .link (keeps.step stepped) ((keeps.links _ _).mp there) ih

end KeepsWays

/-! ### Paths -/

theorem walkTo_eq_ok_iff : d.walkTo front name = .ok k ↔
    ∃ l, d.Leads linkLimit [] front l ∧ d.step l name = .ok k := by
  simp only [← walk_eq_ok_iff]
  exact Regex.bind_eq_ok

theorem locate_eq_ok_iff : d.locate p = .ok k ↔
    p.check = .ok () ∧ p.chars ≠ [] ∧ d.Leads linkLimit [] p.names k := by
  rw [← walk_eq_ok_iff]
  constructor
  · intro located
    obtain ⟨_, checked, walk⟩ := Regex.bind_eq_ok.mp located
    split at walk
    · cases walk
    · rename_i some
      exact ⟨checked, some, walk⟩
  · rintro ⟨checked, some, walk⟩
    refine Regex.bind_eq_ok.mpr ⟨(), checked, ?_⟩
    rw [if_neg some]
    exact walk

theorem locateName_eq_ok_iff : d.locateName p = .ok k ↔
    p.check = .ok () ∧ p.chars ≠ [] ∧ ((p.names = [] ∧ k = []) ∨
      ∃ front name, p.names = front ++ [name] ∧ d.walkTo front name = .ok k) := by
  constructor
  · intro located
    obtain ⟨_, checked, way⟩ := Regex.bind_eq_ok.mp located
    split at way
    · cases way
    · rename_i some
      refine ⟨checked, some, ?_⟩
      rcases List.eq_nil_or_concat p.names with none | ⟨front, name, names⟩
      · rw [none] at way
        cases way
        exact .inl ⟨none, rfl⟩
      · rw [List.concat_eq_append] at names
        rw [names, List.getLast?_concat, List.dropLast_concat] at way
        exact .inr ⟨front, name, names, way⟩
  · rintro ⟨checked, some, ⟨none, rfl⟩ | ⟨front, name, names, way⟩⟩
    · refine Regex.bind_eq_ok.mpr ⟨(), checked, ?_⟩
      rw [if_neg some, none]
      rfl
    · refine Regex.bind_eq_ok.mpr ⟨(), checked, ?_⟩
      rw [if_neg some, names, List.getLast?_concat, List.dropLast_concat]
      exact way

theorem KeepsWays.locate (keeps : d.KeepsWays d') (located : d.locate p = .ok k) :
    d'.locate p = .ok k := by
  obtain ⟨checked, some, way⟩ := locate_eq_ok_iff.mp located
  exact locate_eq_ok_iff.mpr ⟨checked, some, keeps.leads way⟩

theorem KeepsWays.walkTo (keeps : d.KeepsWays d') (way : d.walkTo front name = .ok k) :
    d'.walkTo front name = .ok k := by
  obtain ⟨l, way, stepped⟩ := walkTo_eq_ok_iff.mp way
  exact walkTo_eq_ok_iff.mpr ⟨l, keeps.leads way, keeps.step stepped⟩

theorem KeepsWays.locateName (keeps : d.KeepsWays d') (located : d.locateName p = .ok k) :
    d'.locateName p = .ok k := by
  obtain ⟨checked, some, way⟩ := locateName_eq_ok_iff.mp located
  refine locateName_eq_ok_iff.mpr ⟨checked, some, way.imp_right ?_⟩
  rintro ⟨front, name, names, way⟩
  exact ⟨front, name, names, keeps.walkTo way⟩

/-- What a path names is what it leads to, unless that is a link. -/
theorem locate_of_locateName (located : d.locateName p = .ok k) (noLink : d.NoLink k) :
    d.locate p = .ok k := by
  obtain ⟨checked, some, way⟩ := locateName_eq_ok_iff.mp located
  refine locate_eq_ok_iff.mpr ⟨checked, some, ?_⟩
  rcases way with ⟨none, rfl⟩ | ⟨front, name, names, way⟩
  · rw [none]
    exact .here
  · obtain ⟨l, way, stepped⟩ := walkTo_eq_ok_iff.mp way
    rw [names]
    exact way.snoc stepped noLink

theorem locateName_of_locate (located : d.locate p = .ok k) :
    ∃ k', d.locateName p = .ok k' ∧ (d.NoLink k' → k = k') := by
  obtain ⟨checked, some, way⟩ := locate_eq_ok_iff.mp located
  rcases List.eq_nil_or_concat p.names with none | ⟨front, name, names⟩
  · rw [none] at way
    cases way
    exact ⟨[], locateName_eq_ok_iff.mpr ⟨checked, some, .inl ⟨none, rfl⟩⟩, fun _ => rfl⟩
  · rw [List.concat_eq_append] at names
    rw [names] at way
    obtain ⟨j, k', way, stepped, same⟩ := way.concat
    have named := walkTo_eq_ok_iff.mpr ⟨j, way, stepped⟩
    exact ⟨k', locateName_eq_ok_iff.mpr ⟨checked, some, .inr ⟨front, name, names, named⟩⟩, same⟩

end Ligature.Files.Disk
