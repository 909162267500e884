import Mathlib.Data.List.Induction
import Mathlib.Data.List.Nodup
import Ligature.Proofs.Lineage

/-!
# The order of ancestors

The ancestors of a mode are listed by their distance: the `k`-th of them is reached in `k + 1` steps
from parent to parent and in no fewer. So the list holds each mode above once, in whatever way the
declared parents run into a circle.
-/
namespace Ligature.Rules.ModeTree

/-! ### Steps up -/

def above (t : ModeTree) : Nat → Mode → Option Mode
  | 0, mode => some mode
  | n + 1, mode => (t.parent? mode).bind (t.above n)

structure Distance (t : ModeTree) (mode a : Mode) (n : Nat) : Prop where
  reached : t.above n mode = some a
  least : ∀ k < n, t.above k mode ≠ some a

variable {t : ModeTree} {fuel : Nat} {seen : List Mode} {mode a : Mode} {k n : Nat}

theorem above_succ (t : ModeTree) (n : Nat) (mode : Mode) :
    t.above (n + 1) mode = (t.above n mode).bind t.parent? := by
  induction n generalizing mode with
  | zero => cases h : t.parent? mode <;> simp [above, h]
  | succ n ih =>
    rw [above, above]
    cases t.parent? mode with
    | none => rfl
    | some p => exact ih p

theorem transGen_iff_above :
    Relation.TransGen t.Parent mode a ↔ ∃ n, t.above (n + 1) mode = some a := by
  constructor
  · intro h
    induction h with
    | single parent =>
      refine ⟨0, ?_⟩
      rw [above, parent]
      rfl
    | tail _ parent ih =>
      obtain ⟨n, reached⟩ := ih
      refine ⟨n + 1, ?_⟩
      rw [above_succ, reached]
      exact parent
  · rintro ⟨n, reached⟩
    induction n generalizing a with
    | zero =>
      obtain ⟨p, parent, same⟩ := Option.bind_eq_some_iff.mp reached
      cases same
      exact .single parent
    | succ n ih =>
      rw [above_succ] at reached
      obtain ⟨b, before, parent⟩ := Option.bind_eq_some_iff.mp reached
      exact .tail (ih before) parent

theorem Distance.unique {m : Nat} (h : t.Distance mode a m) (h' : t.Distance mode a n) :
    m = n := by
  rcases Nat.lt_trichotomy m n with less | same | less
  · exact absurd h.reached (h'.least m less)
  · exact same
  · exact absurd h'.reached (h.least n less)

/-! ### The walk -/

theorem above_of_climb (h : (t.climb fuel seen mode).1[k]? = some a) :
    t.above (k + 1) mode = some a := by
  induction fuel generalizing seen mode k with
  | zero => cases h
  | succ fuel ih =>
    simp only [climb] at h
    split at h
    · cases h
    · rename_i p parent
      split at h
      · cases h
      · rw [above, parent]
        cases k with
        | zero =>
          cases h
          rfl
        | succ k => exact ih h

theorem nodup_climb (t : ModeTree) (fuel : Nat) (seen : List Mode) (mode : Mode) :
    (t.climb fuel seen mode).1.Nodup := by
  induction fuel generalizing seen mode with
  | zero => exact .nil
  | succ fuel ih =>
    simp only [climb]
    split
    · exact .nil
    · rename_i p parent
      split
      · exact .nil
      · refine List.nodup_cons.mpr ⟨fun later => ?_, ih (p :: seen) p⟩
        exact (climb_sound later).2 List.mem_cons_self

theorem above_of_ancestors (h : (t.ancestors mode)[k]? = some a) :
    t.above (k + 1) mode = some a := above_of_climb h

theorem nodup_ancestors (t : ModeTree) (mode : Mode) : (t.ancestors mode).Nodup :=
  nodup_climb t _ _ mode

theorem not_mem_ancestors (t : ModeTree) (mode : Mode) : mode ∉ t.ancestors mode :=
  fun h => (climb_sound h).2 (List.mem_singleton_self mode)

theorem mem_ancestors_iff :
    a ∈ t.ancestors mode ↔ a ≠ mode ∧ Relation.TransGen t.Parent mode a := by
  rw [← isDescendant_iff, isDescendant, decide_eq_true_iff]

theorem distance_of_ancestors (h : (t.ancestors mode)[k]? = some a) :
    t.Distance mode a (k + 1) := by
  refine ⟨above_of_ancestors h, fun j less reached => ?_⟩
  cases j with
  | zero =>
    cases reached
    exact not_mem_ancestors t mode (List.mem_of_getElem? h)
  | succ j =>
    -- An earlier ancestor would be the same one as the `k`-th.
    obtain ⟨inside, -⟩ := List.getElem?_eq_some_iff.mp h
    have before : j < (t.ancestors mode).length := by omega
    have earlier := above_of_ancestors (List.getElem?_eq_getElem before)
    have same : (t.ancestors mode)[j]? = (t.ancestors mode)[k]? := by
      rw [h, ← reached, earlier, List.getElem?_eq_getElem before]
    have index := (List.getElem?_inj before (nodup_ancestors t mode)).mp same
    omega

theorem getElem?_ancestors_iff :
    (t.ancestors mode)[k]? = some a ↔ t.Distance mode a (k + 1) := by
  refine ⟨distance_of_ancestors, fun h => ?_⟩
  have differ : a ≠ mode := by
    rintro rfl
    exact h.least 0 (Nat.succ_pos k) rfl
  have listed : a ∈ t.ancestors mode :=
    mem_ancestors_iff.mpr ⟨differ, transGen_iff_above.mpr ⟨k, h.reached⟩⟩
  obtain ⟨i, here⟩ := List.mem_iff_getElem?.mp listed
  have index := (distance_of_ancestors here).unique h
  obtain rfl : i = k := by omega
  exact here

theorem above_of_left (h : (mode :: t.ancestors mode)[k]? = some a) : t.above k mode = some a := by
  cases k with
  | zero =>
    cases h
    rfl
  | succ k => exact above_of_ancestors h

/-- All modes that the walk leaves have parents, so it leaves no more than the tree has. -/
theorem length_ancestors_le (t : ModeTree) (mode : Mode) :
    (t.ancestors mode).length ≤ t.size := by
  let left := (mode :: t.ancestors mode).dropLast
  have distinct : left.Nodup := by
    have all := List.nodup_cons.mpr ⟨not_mem_ancestors t mode, nodup_ancestors t mode⟩
    exact all.sublist (List.dropLast_sublist _)
  have parents : ∀ m ∈ left, ∃ p, t.Parent m p := by
    intro m hm
    obtain ⟨k, here⟩ := List.mem_iff_getElem?.mp hm
    rw [List.getElem?_dropLast] at here
    split at here
    · rename_i before
      have next := above_of_left (t := t) (List.getElem?_eq_getElem (Nat.add_lt_of_lt_sub before))
      rw [above_succ, above_of_left here] at next
      exact ⟨_, next⟩
    · cases here
  have most := length_le_size distinct parents
  simpa [left] using most

/-! ### The end of the walk -/

/-- A walk that is shorter than its fuel stops by itself: behind its last mode comes none, or the
one that closes a circle. -/
theorem parent?_last_climb (short : (t.climb fuel seen mode).1.length < fuel) :
    t.parent? ((t.climb fuel seen mode).1.getLastD mode) = (t.climb fuel seen mode).2 := by
  induction fuel generalizing seen mode with
  | zero => exact absurd short (Nat.not_lt_zero _)
  | succ fuel ih =>
    simp only [climb] at short ⊢
    cases parent : t.parent? mode with
    | none => exact parent
    | some p =>
      by_cases again : p ∈ seen
      · simp only [again, if_true]
        exact parent
      · simp only [parent, again, if_false, List.length_cons, List.getLastD_cons] at short ⊢
        exact ih (Nat.lt_of_succ_lt_succ short)

theorem met_of_climb (again : (t.climb fuel seen mode).2 = some a) :
    a ∈ (t.climb fuel seen mode).1 ++ seen := by
  induction fuel generalizing seen mode with
  | zero => cases again
  | succ fuel ih =>
    simp only [climb] at again ⊢
    cases parent : t.parent? mode with
    | none => simp [parent] at again
    | some p =>
      by_cases met : p ∈ seen
      · simp only [parent, met, if_true, Option.some.injEq] at again ⊢
        exact again ▸ met
      · simp only [parent, met, if_false] at again ⊢
        rcases List.mem_append.mp (ih again) with above | before
        · simp [above]
        · rcases List.mem_cons.mp before with rfl | before <;> simp [*]

/-- The walk up from a mode ends before its fuel does, at a mode without a parent or with the first
mode that it would meet again. -/
theorem lineage_ends (t : ModeTree) (mode : Mode) :
    t.parent? ((t.ancestors mode).getLastD mode) = (t.lineage mode).2 ∧
    ∀ a, (t.lineage mode).2 = some a → a ∈ mode :: t.ancestors mode := by
  refine ⟨parent?_last_climb (Nat.lt_succ_of_le (length_ancestors_le t mode)), fun a again => ?_⟩
  have met := met_of_climb again
  rwa [List.mem_append, List.mem_singleton, or_comm, ← List.mem_cons] at met

/-! ### Declared trees -/

def ofDeclarations (declared : List (Mode × Mode)) : ModeTree :=
  declared.foldl (fun t d => t.declare d.1 d.2) .empty

def lastParent? (declared : List (Mode × Mode)) (mode : Mode) : Option Mode :=
  (declared.reverse.find? (·.1 == mode)).map (·.2)

theorem parent?_ofDeclarations (declared : List (Mode × Mode)) (mode : Mode) :
    (ofDeclarations declared).parent? mode = lastParent? declared mode := by
  induction declared using List.reverseRecOn with
  | nil => rfl
  | append_singleton declared d ih =>
    have last : ofDeclarations (declared ++ [d]) = (ofDeclarations declared).declare d.1 d.2 := by
      simp [ofDeclarations]
    rw [last, parent?_declare, ih, lastParent?, lastParent?, List.reverse_concat, List.find?_cons]
    by_cases same : d.1 = mode
    · simp [same]
    · rw [if_neg same, beq_eq_false_iff_ne.mpr same]

/-- In a tree of declared parents, where the last declaration of a mode counts, the ancestors of a
mode are the other modes that steps up lead to, each listed once and at its distance. There are no
more of them than modes with parents, and a mode descends from just these. -/
theorem ancestors_by_distance (declared : List (Mode × Mode)) (mode : Mode) :
    let t := ofDeclarations declared
    (∀ m, t.parent? m = lastParent? declared m) ∧
    (t.ancestors mode).Nodup ∧ mode ∉ t.ancestors mode ∧
    (t.ancestors mode).length ≤ t.size ∧
    (∀ k a, (t.ancestors mode)[k]? = some a ↔ t.Distance mode a (k + 1)) ∧
    (∀ a, a ∈ t.ancestors mode ↔ a ≠ mode ∧ Relation.TransGen t.Parent mode a) ∧
    ∀ a, t.isDescendant mode a = true ↔ a ≠ mode ∧ Relation.TransGen t.Parent mode a := by
  intro t
  refine ⟨parent?_ofDeclarations declared, nodup_ancestors t mode, not_mem_ancestors t mode,
    length_ancestors_le t mode, ?_, ?_, ?_⟩
  · exact fun k a => getElem?_ancestors_iff
  · exact fun a => mem_ancestors_iff
  · exact fun a => isDescendant_iff

/-- A chain that runs into a circle, and a declaration that is replaced. -/
example : (ofDeclarations [("c", "x"), ("a", "b"), ("b", "c"), ("c", "b")]).ancestors "a" =
    ["b", "c"] := by decide +kernel

end Ligature.Rules.ModeTree
