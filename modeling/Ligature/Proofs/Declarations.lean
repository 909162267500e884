import Ligature.Config.Basic
import Ligature.Proofs.Ancestors
import Ligature.Proofs.FirstFaults

/-!
# Declared modes

A configuration is valid if its cache has a size and each mode is declared once, with a parent
other than itself; otherwise it is refused for the first thing that is wrong. In a valid one the
order of the declarations does not count: whatever it is, the same modes have the same parents.
-/
namespace Ligature

/-! ### Trees that answer alike -/

namespace Rules.ModeTree

variable {t t' : ModeTree} {mode parent : Mode} {declared : List (Mode × Mode)}

theorem climb_congr (parents : ∀ m, t.parent? m = t'.parent? m) (fuel : Nat) (seen : List Mode)
    (mode : Mode) : t.climb fuel seen mode = t'.climb fuel seen mode := by
  induction fuel generalizing seen mode with
  | zero => rfl
  | succ fuel ih =>
    rw [climb, climb, parents mode]
    cases t'.parent? mode with
    | none => rfl
    | some p =>
      by_cases again : p ∈ seen
      · simp only [if_pos again]
      · simp only [if_neg again, ih]

structure Alike (t t' : ModeTree) : Prop where
  parent : ∀ mode, t.parent? mode = t'.parent? mode
  ancestors : ∀ mode, t.ancestors mode = t'.ancestors mode
  descends : ∀ mode ancestor, t.isDescendant mode ancestor = t'.isDescendant mode ancestor
  notices : ∀ mode, t.notices mode = t'.notices mode

theorem alike_of_parents (parents : ∀ m, t.parent? m = t'.parent? m) (size : t.size = t'.size) :
    t.Alike t' := by
  have lineage (mode : Mode) : t.lineage mode = t'.lineage mode := by
    rw [ModeTree.lineage, ModeTree.lineage, size, climb_congr parents]
  constructor
  · exact parents
  · intro mode
    rw [ancestors, ancestors, lineage]
  · intro mode ancestor
    rw [isDescendant, isDescendant, ancestors, ancestors, lineage]
  · intro mode
    rw [notices, notices, lineage]

theorem parents_ofDeclarations (distinct : (declared.map (·.1)).Nodup) :
    (ofDeclarations declared).parents = declared.reverse := by
  induction declared using List.reverseRecOn with
  | nil => rfl
  | append_singleton declared d ih =>
    rw [List.map_append, List.map_singleton] at distinct
    obtain ⟨distinct, -, apart⟩ := List.nodup_append.mp distinct
    have last : ofDeclarations (declared ++ [d]) = (ofDeclarations declared).declare d.1 d.2 := by
      simp [ofDeclarations]
    have others : ∀ x ∈ declared.reverse, decide (x.1 ≠ d.1) = true := by
      intro x mem
      apply decide_eq_true
      exact apart x.1 (List.mem_map_of_mem (List.mem_reverse.mp mem)) d.1 (by simp)
    rw [last, declare, ih distinct, List.filter_eq_self.mpr others, List.reverse_append]
    rfl

theorem parent?_eq_some_iff (distinct : (t.parents.map (·.1)).Nodup) :
    t.parent? mode = some parent ↔ (mode, parent) ∈ t.parents := by
  rw [parent?, Option.map_eq_some_iff]
  constructor
  · rintro ⟨⟨m, p⟩, found, rfl⟩
    obtain rfl : m = mode := by simpa using List.find?_some found
    exact List.mem_of_find?_eq_some found
  · intro mem
    have some : (t.parents.find? (·.1 == mode)).isSome = true := by
      rw [List.find?_isSome]
      exact ⟨_, mem, beq_self_eq_true mode⟩
    obtain ⟨x, found⟩ := Option.isSome_iff_exists.mp some
    have key : x.1 = mode := by simpa using List.find?_some found
    have same : x = (mode, parent) :=
      List.inj_on_of_nodup_map distinct (List.mem_of_find?_eq_some found) mem key
    exact ⟨x, found, by rw [same]⟩

theorem parent?_ofDeclarations_eq_some_iff (distinct : (declared.map (·.1)).Nodup) :
    (ofDeclarations declared).parent? mode = some parent ↔ (mode, parent) ∈ declared := by
  have listed := parents_ofDeclarations distinct
  rw [parent?_eq_some_iff, listed, List.mem_reverse]
  rwa [listed, List.map_reverse, List.nodup_reverse]

end Rules.ModeTree

open Rules (ModeTree)

/-! ### What is wrong with a declaration -/

namespace ModeDeclaration

structure Proper (d : ModeDeclaration) : Prop where
  named : d.name ≠ ""
  parented : d.parent ≠ ""
  apart : d.name ≠ d.parent

def pair (d : ModeDeclaration) : Mode × Mode := (d.name, d.parent)

end ModeDeclaration

namespace Config

/-- What is wrong with a declaration that stands behind some others: of several things, a missing
name before anything else, and that the mode was declared before only if there is nothing else. -/
inductive Offence : List ModeDeclaration × ModeDeclaration → Invalid → Prop where
  | emptyName {before : List ModeDeclaration} {d : ModeDeclaration}
      (missing : d.name = "" ∨ d.parent = "") : Offence (before, d) (.emptyName d)
  | ownParent {before : List ModeDeclaration} {d : ModeDeclaration}
      (named : d.name ≠ "") (parented : d.parent ≠ "") (same : d.name = d.parent) :
      Offence (before, d) (.ownParent d.name)
  | declaredTwice {before : List ModeDeclaration} {d : ModeDeclaration}
      (proper : d.Proper) (again : d.name ∈ before.map (·.name)) :
      Offence (before, d) (.declaredTwice d.name)

def placed (before : List ModeDeclaration) :
    List ModeDeclaration → List (List ModeDeclaration × ModeDeclaration)
  | [] => []
  | d :: rest => (before, d) :: placed (before ++ [d]) rest

variable {before modes modes' : List ModeDeclaration} {d : ModeDeclaration} {e e' : Invalid}
  {x : List ModeDeclaration × ModeDeclaration}

theorem not_missing (named : d.name ≠ "") (parented : d.parent ≠ "") :
    ¬ (d.name = "" ∨ d.parent = "") := not_or.mpr ⟨named, parented⟩

theorem Offence.unique (h : Offence x e) (h' : Offence x e') : e = e' := by
  cases h with
  | emptyName missing =>
    cases h' with
    | emptyName => rfl
    | ownParent named parented => exact absurd missing (not_missing named parented)
    | declaredTwice proper => exact absurd missing (not_missing proper.named proper.parented)
  | ownParent named parented same =>
    cases h' with
    | emptyName missing => exact absurd missing (not_missing named parented)
    | ownParent => rfl
    | declaredTwice proper => exact absurd same proper.apart
  | declaredTwice proper =>
    cases h' with
    | emptyName missing => exact absurd missing (not_missing proper.named proper.parented)
    | ownParent named parented same => exact absurd same proper.apart
    | declaredTwice => rfl

theorem forall_not_offence_iff :
    (∀ e, ¬ Offence (before, d) e) ↔ d.Proper ∧ d.name ∉ before.map (·.name) := by
  constructor
  · intro sound
    have named : d.name ≠ "" := fun empty => sound _ (.emptyName (.inl empty))
    have parented : d.parent ≠ "" := fun empty => sound _ (.emptyName (.inr empty))
    have apart : d.name ≠ d.parent := fun same => sound _ (.ownParent named parented same)
    constructor
    · exact ⟨named, parented, apart⟩
    · intro again
      exact sound _ (.declaredTwice ⟨named, parented, apart⟩ again)
  · rintro ⟨proper, new⟩ e offence
    cases offence with
    | emptyName missing => exact not_missing proper.named proper.parented missing
    | ownParent named parented same => exact proper.apart same
    | declaredTwice _ again => exact new again

/-! ### Validation -/

section Check

variable {seen : List String} (seen_iff : ∀ name, name ∈ seen ↔ name ∈ before.map (·.name))
include seen_iff

theorem checkModes_of_offence (offence : Offence (before, d) e) (rest : List ModeDeclaration) :
    checkModes seen (d :: rest) = .error e := by
  cases offence with
  | emptyName missing => rw [checkModes, if_pos missing]
  | ownParent named parented same =>
    rw [checkModes, if_neg (not_missing named parented), if_pos same]
  | declaredTwice proper again =>
    rw [checkModes, if_neg (not_missing proper.named proper.parented), if_neg proper.apart,
      if_pos ((seen_iff d.name).mpr again)]

theorem checkModes_of_sound (sound : ∀ e, ¬ Offence (before, d) e) (rest : List ModeDeclaration) :
    checkModes seen (d :: rest) = checkModes (d.name :: seen) rest := by
  obtain ⟨proper, new⟩ := forall_not_offence_iff.mp sound
  rw [checkModes, if_neg (not_missing proper.named proper.parented), if_neg proper.apart, if_neg]
  intro again
  exact new ((seen_iff d.name).mp again)

theorem checkModes_eq_error_iff :
    checkModes seen modes = .error e ↔ FirstFault Offence (placed before modes) e := by
  -- The names are kept with the last one first, the declarations with the last one behind: the two
  -- only hold the same names, which is what each step keeps.
  induction modes generalizing seen before with
  | nil =>
    constructor
    · intro refused
      cases refused
    · intro first
      obtain ⟨x, mem, -⟩ := first.exists_faulty
      cases mem
  | cons d rest ih =>
    rw [placed]
    by_cases wrong : ∃ e', Offence (before, d) e'
    · obtain ⟨e', offence⟩ := wrong
      rw [checkModes_of_offence seen_iff offence, Except.error.injEq,
        firstFault_cons_iff_of_faulty (fun _ _ _ h h' => h.unique h') offence]
    · have sound := not_exists.mp wrong
      rw [checkModes_of_sound seen_iff sound, firstFault_cons_iff sound]
      apply ih
      intro name
      rw [List.mem_cons, List.map_append, List.mem_append, seen_iff, List.map_singleton,
        List.mem_singleton]
      exact or_comm

theorem checkModes_eq_ok_iff :
    checkModes seen modes = .ok () ↔ Faultless Offence (placed before modes) := by
  rw [faultless_iff_forall_not]
  constructor
  · intro passed e first
    have refused := (checkModes_eq_error_iff seen_iff).mpr first
    cases passed.symm.trans refused
  · intro sound
    cases checked : checkModes seen modes with
    | ok passed => rfl
    | error e => exact absurd ((checkModes_eq_error_iff seen_iff).mp checked) (sound e)

end Check

theorem faultless_placed_iff :
    Faultless Offence (placed before modes) ↔ (∀ d ∈ modes, d.Proper) ∧
      (modes.map (·.name)).Nodup ∧ ∀ d ∈ modes, d.name ∉ before.map (·.name) := by
  induction modes generalizing before with
  | nil => simp [Faultless, placed]
  | cons d rest ih =>
    have first : Faultless Offence (placed before (d :: rest)) ↔
        (∀ e, ¬ Offence (before, d) e) ∧ Faultless Offence (placed (before ++ [d]) rest) :=
      List.forall_mem_cons
    rw [first, ih, forall_not_offence_iff]
    simp only [List.forall_mem_cons, List.map_cons, List.nodup_cons, List.map_append,
      List.mem_append, List.mem_singleton, List.map_nil, List.mem_map]
    constructor
    · rintro ⟨⟨proper, new⟩, propers, distinct, others⟩
      refine ⟨⟨proper, propers⟩, ⟨?_, distinct⟩, new, ?_⟩
      · rintro ⟨d', mem, same⟩
        exact others d' mem (.inr same)
      · intro d' mem old
        exact others d' mem (.inl old)
    · rintro ⟨⟨proper, propers⟩, ⟨once, distinct⟩, new, others⟩
      refine ⟨⟨proper, new⟩, propers, distinct, ?_⟩
      rintro d' mem (old | same)
      · exact others d' mem old
      · exact once ⟨d', mem, same⟩

variable {c : Config}

theorem validate_eq_error_iff : c.validate = .error e ↔
    if c.cacheSize = 0 then e = .cacheSize else FirstFault Offence (placed [] c.modes) e := by
  rw [validate]
  by_cases empty : c.cacheSize = 0
  · rw [if_pos empty, if_pos empty, Except.error.injEq, eq_comm]
  · rw [if_neg empty, if_neg empty]
    exact checkModes_eq_error_iff fun name => Iff.rfl

theorem validate_eq_ok_iff : c.validate = .ok () ↔ c.cacheSize ≠ 0 ∧
    (∀ d ∈ c.modes, d.Proper) ∧ (c.modes.map (·.name)).Nodup := by
  rw [validate]
  by_cases empty : c.cacheSize = 0
  · rw [if_pos empty]
    constructor
    · intro passed
      cases passed
    · rintro ⟨some, -⟩
      exact absurd empty some
  · have all : checkModes [] c.modes = .ok () ↔ Faultless Offence (placed [] c.modes) :=
      checkModes_eq_ok_iff fun name => Iff.rfl
    rw [if_neg empty, all, faultless_placed_iff]
    constructor
    · rintro ⟨propers, distinct, -⟩
      exact ⟨empty, propers, distinct⟩
    · rintro ⟨-, propers, distinct⟩
      exact ⟨propers, distinct, fun d _ => List.not_mem_nil⟩

/-! ### The tree of the declarations -/

theorem modeTree_eq_ofDeclarations (c : Config) :
    c.modeTree = .ofDeclarations (c.modes.map (·.pair)) := by
  rw [modeTree, ModeTree.ofDeclarations, List.foldl_map]
  rfl

theorem fst_pairs (modes : List ModeDeclaration) :
    (modes.map (·.pair)).map (·.1) = modes.map (·.name) := by
  rw [List.map_map]
  rfl

theorem mem_pairs_iff {mode parent : Mode} :
    (mode, parent) ∈ modes.map (·.pair) ↔ ⟨mode, parent⟩ ∈ modes := by
  rw [List.mem_map]
  constructor
  · rintro ⟨d, mem, same⟩
    obtain ⟨rfl, rfl⟩ := Prod.mk.inj same
    exact mem
  · intro mem
    exact ⟨_, mem, rfl⟩

section Distinct

variable (distinct : (c.modes.map (·.name)).Nodup)
include distinct

theorem parents_modeTree : c.modeTree.parents = (c.modes.map (·.pair)).reverse := by
  rw [modeTree_eq_ofDeclarations, ModeTree.parents_ofDeclarations]
  rwa [fst_pairs]

theorem parent?_modeTree_eq_some_iff {mode parent : Mode} :
    c.modeTree.parent? mode = some parent ↔ ⟨mode, parent⟩ ∈ c.modes := by
  rw [modeTree_eq_ofDeclarations, ModeTree.parent?_ofDeclarations_eq_some_iff, mem_pairs_iff]
  rwa [fst_pairs]

theorem parent?_reordered (reordered : modes.Perm c.modes) (mode : Mode) :
    { c with modes := modes }.modeTree.parent? mode = c.modeTree.parent? mode := by
  have distinct' : (modes.map (·.name)).Nodup := (reordered.map _).nodup_iff.mpr distinct
  apply Option.ext
  intro parent
  rw [parent?_modeTree_eq_some_iff distinct, parent?_modeTree_eq_some_iff distinct']
  exact reordered.mem_iff

theorem size_reordered (reordered : modes.Perm c.modes) :
    { c with modes := modes }.modeTree.size = c.modeTree.size := by
  have distinct' : (modes.map (·.name)).Nodup := (reordered.map _).nodup_iff.mpr distinct
  rw [ModeTree.size, ModeTree.size, parents_modeTree distinct, parents_modeTree distinct']
  simp [reordered.length_eq]

end Distinct

/-- A configuration is valid just if its cache has a size, every declaration is proper and no mode
is declared twice; otherwise it is refused for its cache, or else for the first declaration with
which something is wrong. The tree of a valid configuration has an entry for each declaration and
no other one, and the tree of its declarations in another order answers every question alike. -/
theorem validated_declarations (c : Config) :
    (c.validate = .ok () ↔ c.cacheSize ≠ 0 ∧ (∀ d ∈ c.modes, d.Proper) ∧
      (c.modes.map (·.name)).Nodup) ∧
    (∀ e, c.validate = .error e ↔
      if c.cacheSize = 0 then e = .cacheSize else FirstFault Offence (placed [] c.modes) e) ∧
    (c.validate = .ok () →
      c.modeTree.parents.Perm (c.modes.map (·.pair)) ∧
      (∀ mode parent, c.modeTree.parent? mode = some parent ↔ ⟨mode, parent⟩ ∈ c.modes) ∧
      ∀ modes, modes.Perm c.modes → { c with modes := modes }.modeTree.Alike c.modeTree) := by
  refine ⟨validate_eq_ok_iff, fun e => validate_eq_error_iff, fun valid => ?_⟩
  obtain ⟨-, -, distinct⟩ := validate_eq_ok_iff.mp valid
  refine ⟨?_, ?_, ?_⟩
  · rw [parents_modeTree distinct]
    exact List.reverse_perm _
  · intro mode parent
    exact parent?_modeTree_eq_some_iff distinct
  · intro modes reordered
    apply ModeTree.alike_of_parents
    · exact parent?_reordered distinct reordered
    · exact size_reordered distinct reordered

/-- A mode with two modes above it, beside two modes that are each other's parents. -/
theorem validated_declarations_reordered :
    let c : Config := ⟨[], [⟨"rust", "prog"⟩, ⟨"a", "b"⟩, ⟨"prog", "code"⟩, ⟨"b", "a"⟩], [], 1⟩
    c.validate = .ok () ∧
      { c with modes := c.modes.reverse }.modeTree.Alike c.modeTree ∧
      c.modeTree.ancestors "rust" = ["prog", "code"] ∧ c.modeTree.ancestors "a" = ["b"] := by
  intro c
  have valid : c.validate = .ok () := by decide +kernel
  obtain ⟨-, -, tree⟩ := validated_declarations c
  obtain ⟨-, -, alike⟩ := tree valid
  exact ⟨valid, alike _ (List.reverse_perm c.modes), by decide +kernel, by decide +kernel⟩

end Config

end Ligature
