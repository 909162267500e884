import Mathlib.Data.List.Perm.Subperm
import Mathlib.Logic.Relation
import Ligature.Rules.Hierarchy

/-!
# Who descends from whom

In a tree of declared parents a mode descends from all the modes that steps from parent to parent
lead to, except from itself. Parents may go round in a circle; the walk from a mode stops when it
comes back to a mode it has seen, and by then it has seen them all.
-/
namespace Ligature.Rules

namespace ModeTree

def Parent (t : ModeTree) (mode parent : Mode) : Prop := t.parent? mode = some parent

variable {t : ModeTree} {fuel : Nat} {seen : List Mode} {mode a : Mode}

theorem Parent.mem_modes {parent : Mode} (h : t.Parent mode parent) :
    mode ∈ t.parents.map (·.1) := by
  obtain ⟨⟨m, p⟩, found, -⟩ := Option.map_eq_some_iff.mp h
  obtain rfl : m = mode := by simpa using List.find?_some found
  exact List.mem_map_of_mem (List.mem_of_find?_eq_some found)

theorem length_le_size {modes : List Mode} (distinct : modes.Nodup)
    (parents : ∀ m ∈ modes, ∃ p, t.Parent m p) : modes.length ≤ t.size := by
  have within : modes ⊆ t.parents.map (·.1) := by
    intro m hm
    obtain ⟨p, hp⟩ := parents m hm
    exact hp.mem_modes
  have fewer := (List.subperm_of_subset distinct within).length_le
  rwa [List.length_map] at fewer

theorem climb_sound (h : a ∈ (t.climb fuel seen mode).1) :
    Relation.TransGen t.Parent mode a ∧ a ∉ seen := by
  induction fuel generalizing seen mode with
  | zero => cases h
  | succ fuel ih =>
    simp only [climb] at h
    split at h
    · cases h
    · rename_i p parent
      split at h
      · cases h
      · rename_i new
        rcases List.mem_cons.mp h with rfl | later
        · exact ⟨.single parent, new⟩
        · obtain ⟨above, unseen⟩ := ih later
          exact ⟨.head parent above, fun old => unseen (List.mem_cons_of_mem _ old)⟩

/-- All that a walk has seen when it ends, if it stands at `mode` and has seen the rest before. -/
def visited (t : ModeTree) (fuel : Nat) (seen : List Mode) (mode : Mode) : List Mode :=
  mode :: seen ++ (t.climb fuel (mode :: seen) mode).1

theorem mem_of_stopped (closed : ∀ m ∈ seen, ∃ p, t.Parent m p ∧ p ∈ mode :: seen)
    (stopped : ∀ p, t.Parent mode p → p ∈ mode :: seen) {m p : Mode} (hm : m ∈ mode :: seen)
    (hp : t.Parent m p) : p ∈ mode :: seen := by
  rcases List.mem_cons.mp hm with rfl | old
  · exact stopped p hp
  · obtain ⟨q, hq, mem⟩ := closed m old
    rwa [Option.some.inj (hp.symm.trans hq)]

/-- What a walk has seen in the end has no parents outside of it. Each round sees one more mode, so
there is fuel for all modes of the tree. -/
theorem visited_closed (distinct : (mode :: seen).Nodup)
    (closed : ∀ m ∈ seen, ∃ p, t.Parent m p ∧ p ∈ mode :: seen)
    (enough : t.size < fuel + seen.length) {m p : Mode} (hm : m ∈ t.visited fuel seen mode)
    (hp : t.Parent m p) : p ∈ t.visited fuel seen mode := by
  induction fuel generalizing seen mode with
  | zero =>
    have few := length_le_size (List.nodup_cons.mp distinct).2 fun m hm =>
      (closed m hm).imp fun _ h => h.1
    omega
  | succ fuel ih =>
    simp only [visited, climb] at hm ⊢
    split at hm
    · rename_i none
      rw [List.append_nil] at hm ⊢
      exact mem_of_stopped closed (fun q hq => nomatch none.symm.trans hq) hm hp
    · rename_i q parent
      split at hm
      · rename_i old
        rw [List.append_nil] at hm
        simp only [old, if_true, List.append_nil]
        refine mem_of_stopped closed (fun q' hq' => ?_) hm hp
        rwa [Option.some.inj (hq'.symm.trans parent)]
      · rename_i new
        rw [if_neg new]
        have next : ∀ x ∈ mode :: seen, ∃ p, t.Parent x p ∧ p ∈ q :: mode :: seen := by
          refine List.forall_mem_cons.mpr ⟨⟨q, parent, List.mem_cons_self⟩, fun x hx => ?_⟩
          exact (closed x hx).imp fun p h => ⟨h.1, List.mem_cons_of_mem q h.2⟩
        have fuel' : t.size < fuel + (mode :: seen).length := by
          rw [List.length_cons]
          omega
        have rest := ih (List.nodup_cons.mpr ⟨new, distinct⟩) next fuel'
          (List.perm_middle.mem_iff.mp hm)
        exact List.perm_middle.mem_iff.mpr rest

/-- A mode descends from another just if steps from parent to parent lead from the one to the
other. -/
theorem isDescendant_iff : t.isDescendant mode a = true ↔
    a ≠ mode ∧ Relation.TransGen t.Parent mode a := by
  have chain : t.isDescendant mode a = true ↔ a ∈ (t.climb (t.size + 1) [mode] mode).1 :=
    decide_eq_true_iff
  rw [chain]
  constructor
  · intro h
    obtain ⟨above, new⟩ := climb_sound h
    exact ⟨fun same => new (same ▸ List.mem_singleton_self mode), above⟩
  · rintro ⟨differ, above⟩
    have closed : ∀ {m p : Mode}, m ∈ t.visited (t.size + 1) [] mode → t.Parent m p →
        p ∈ t.visited (t.size + 1) [] mode :=
      visited_closed (by simp) (by simp) (by simp)
    have seen {b : Mode} (above : Relation.TransGen t.Parent mode b) :
        b ∈ t.visited (t.size + 1) [] mode := by
      induction above with
      | single parent => exact closed List.mem_cons_self parent
      | tail _ parent ih => exact closed ih parent
    exact (List.mem_cons.mp (seen above)).resolve_left differ

end ModeTree

end Ligature.Rules
