import Mathlib.Data.Finset.Card
import Ligature.Proofs.Replacement

/-!
# The order of the registry

A registry has one entry for every selector that a group was ever given to: the group of the last
call for the selector, at the place that the call has among the last calls. Giving a selector
another group takes the entry out from between the others and hands it back.
-/
namespace Ligature.Rules.Registry

/-! ### Calls -/

abbrev Call := ModeSelector × RuleGroup

def run (calls : List Call) : Registry :=
  calls.foldl (fun r call => (r.replace call.1 call.2).1) empty

def patternCount : List Call → Nat
  | [] => 0
  | call :: later => call.2.size + patternCount later

/-- The `i`-th of some calls is the last for the selector `s`, and `g` is its group with the numbers
that follow on those of all earlier calls. -/
structure GivenLast (calls : List Call) (i : Nat) (s : ModeSelector) (g : RegisteredGroup) :
    Prop where
  given : ∃ g₀, calls[i]? = some (s, g₀) ∧ g = g₀.register (patternCount (calls.take i))
  last : ∀ j call, i < j → calls[j]? = some call → call.1 ≠ s

structure Lists (r : Registry) (calls : List Call) : Prop where
  created : r.created = patternCount calls
  distinct : (r.entries.map (·.1)).Nodup
  mem_iff : ∀ s g, (s, g) ∈ r.entries ↔ ∃ i, GivenLast calls i s g
  ordered : r.entries.Pairwise fun a b =>
    ∃ i j, i < j ∧ GivenLast calls i a.1 a.2 ∧ GivenLast calls j b.1 b.2

variable {r : Registry} {calls : List Call} {call : Call} {i : Nat} {s : ModeSelector}
  {g : RegisteredGroup}

@[simp] theorem patternCount_snoc (calls : List Call) (call : Call) :
    patternCount (calls ++ [call]) = patternCount calls + call.2.size := by
  induction calls with
  | nil => exact Nat.add_comm call.2.size 0
  | cons first later ih =>
    rw [List.cons_append, patternCount, patternCount, ih, Nat.add_assoc]

theorem run_snoc (calls : List Call) (call : Call) :
    run (calls ++ [call]) = ((run calls).replace call.1 call.2).1 := by
  simp [run, List.foldl_append]

/-! ### Last calls -/

theorem GivenLast.lt_length (h : GivenLast calls i s g) : i < calls.length := by
  obtain ⟨g₀, made, -⟩ := h.given
  exact (List.getElem?_eq_some_iff.mp made).1

theorem GivenLast.snoc (h : GivenLast calls i s g) (other : call.1 ≠ s) :
    GivenLast (calls ++ [call]) i s g := by
  obtain ⟨⟨g₀, made, stored⟩, last⟩ := h
  have inside := (List.getElem?_eq_some_iff.mp made).1
  refine ⟨⟨g₀, ?_, ?_⟩, ?_⟩
  · rw [List.getElem?_append_left inside, made]
  · rw [List.take_append_of_le_length (Nat.le_of_lt inside), stored]
  · intro j call' less here
    by_cases within : j < calls.length
    · rw [List.getElem?_append_left within] at here
      exact last j call' less here
    · have newest : call' ∈ [call] := by
        rw [List.getElem?_append_right (Nat.le_of_not_lt within)] at here
        exact List.mem_of_getElem? here
      rw [List.mem_singleton.mp newest]
      exact other

theorem givenLast_newest (calls : List Call) (call : Call) :
    GivenLast (calls ++ [call]) calls.length call.1
      (call.2.register (patternCount calls)) where
  given := ⟨call.2, by simp, by simp⟩
  last := by
    intro j call' less here
    have inside := (List.getElem?_eq_some_iff.mp here).1
    simp only [List.length_append, List.length_singleton] at inside
    omega

/-- A call makes itself the last one for its selector, and leaves those for the others alone. -/
theorem givenLast_snoc :
    GivenLast (calls ++ [call]) i s g ↔
      (GivenLast calls i s g ∧ call.1 ≠ s) ∨
        (i = calls.length ∧ call.1 = s ∧ g = call.2.register (patternCount calls)) := by
  constructor
  · rintro ⟨⟨g₀, made, rfl⟩, last⟩
    have inside := (List.getElem?_eq_some_iff.mp made).1
    rw [List.length_append, List.length_singleton] at inside
    rcases Nat.lt_succ_iff_lt_or_eq.mp inside with within | rfl
    · rw [List.getElem?_append_left within] at made
      rw [List.take_append_of_le_length (Nat.le_of_lt within)]
      refine .inl ⟨⟨⟨g₀, made, rfl⟩, ?_⟩, last calls.length call within (by simp)⟩
      intro j call' less here
      have known := (List.getElem?_eq_some_iff.mp here).1
      exact last j call' less (by rw [List.getElem?_append_left known, here])
    · simp only [List.getElem?_concat_length, Option.some.injEq] at made
      subst made
      exact .inr ⟨rfl, rfl, by simp⟩
  · rintro (⟨h, other⟩ | ⟨rfl, rfl, rfl⟩)
    · exact h.snoc other
    · exact givenLast_newest calls call

theorem exists_givenLast_iff :
    (∃ g i, GivenLast calls i s g) ↔ s ∈ calls.map (·.1) := by
  induction calls using List.reverseRecOn with
  | nil =>
    constructor
    · rintro ⟨g, i, h⟩
      exact absurd h.lt_length (Nat.not_lt_zero i)
    · simp
  | append_singleton calls call ih =>
    rw [List.map_append, List.mem_append, ← ih, List.map_singleton, List.mem_singleton]
    constructor
    · rintro ⟨g, i, h⟩
      rcases givenLast_snoc.mp h with ⟨older, -⟩ | ⟨-, same, -⟩
      · exact .inl ⟨g, i, older⟩
      · exact .inr same.symm
    · by_cases same : s = call.1
      · subst same
        exact fun _ => ⟨_, _, givenLast_newest calls call⟩
      · rintro (⟨g, i, h⟩ | newest)
        · exact ⟨g, i, h.snoc (Ne.symm same)⟩
        · exact absurd newest same

/-! ### One call -/

theorem get?_eq_some_iff (distinct : (r.entries.map (·.1)).Nodup) :
    r.get? s = some g ↔ (s, g) ∈ r.entries := by
  constructor
  · intro h
    obtain ⟨⟨s', g'⟩, found, rfl⟩ := Option.map_eq_some_iff.mp h
    obtain rfl : s' = s := by simpa using List.find?_some found
    exact List.mem_of_find?_eq_some found
  · intro mem
    exact congrArg (Option.map (·.2)) (find?_selector_of_mem distinct mem)

theorem distinct_replace (distinct : (r.entries.map (·.1)).Nodup) (s : ModeSelector)
    (g : RuleGroup) : ((r.replace s g).1.entries.map (·.1)).Nodup := by
  simp only [replace_eq distinct, List.map_append, List.map_cons, List.map_nil]
  refine List.nodup_append.mpr
    ⟨(List.filter_sublist.map _).nodup distinct, List.nodup_singleton s, ?_⟩
  simp

theorem filter_ne_eq_self {entries : Entries} {s : ModeSelector}
    (absent : s ∉ entries.map (·.1)) : entries.filter (·.1 ≠ s) = entries := by
  rw [List.filter_eq_self]
  intro e mem
  rw [decide_eq_true_eq]
  rintro rfl
  exact absent (List.mem_map_of_mem mem)

/-- A call takes the entry of its selector out, if there is one, and hands its group back; the other
entries stay in their order, and the new group takes the last place. -/
theorem replace_cases (distinct : (r.entries.map (·.1)).Nodup) (s : ModeSelector)
    (g : RuleGroup) :
    (∃ older old newer, r.entries = older ++ (s, old) :: newer ∧
      r.replace s g =
        (⟨older ++ newer ++ [(s, g.register r.created)], r.created + g.size⟩, some old)) ∨
    (s ∉ r.entries.map (·.1) ∧
      r.replace s g = (⟨r.entries ++ [(s, g.register r.created)], r.created + g.size⟩, none)) := by
  by_cases present : s ∈ r.entries.map (·.1)
  · obtain ⟨⟨s, old⟩, mem, rfl⟩ := List.mem_map.mp present
    obtain ⟨older, newer, split⟩ := List.append_of_mem mem
    refine .inl ⟨older, old, newer, split, ?_⟩
    have found := (get?_eq_some_iff distinct).mpr mem
    have keeps := distinct
    rw [split, List.map_append, List.map_cons, List.nodup_append, List.nodup_cons] at distinct
    obtain ⟨-, ⟨notNewer, -⟩, apart⟩ := distinct
    have notOlder : s ∉ older.map (·.1) := fun mem => apart s mem s List.mem_cons_self rfl
    have others : r.entries.filter (·.1 ≠ s) = older ++ newer := by
      rw [split, List.filter_append, List.filter_cons_of_neg (by simp),
        filter_ne_eq_self notOlder, filter_ne_eq_self notNewer]
    simp only [replace_eq keeps, others, found]
  · refine .inr ⟨present, ?_⟩
    have missing : r.get? s = none := by
      rw [Option.eq_none_iff_forall_ne_some]
      intro old found
      exact present (List.mem_map_of_mem ((get?_eq_some_iff distinct).mp found))
    simp only [replace_eq distinct, filter_ne_eq_self present, missing]

/-! ### Any number of calls -/

theorem lists_replace (h : r.Lists calls) (call : Call) :
    (r.replace call.1 call.2).1.Lists (calls ++ [call]) := by
  obtain ⟨created, distinct, mem_iff, ordered⟩ := h
  have others : ∀ e ∈ r.entries.filter (·.1 ≠ call.1), e ∈ r.entries ∧ call.1 ≠ e.1 := by
    intro e mem
    obtain ⟨mem, differ⟩ := List.mem_filter.mp mem
    exact ⟨mem, Ne.symm (of_decide_eq_true differ)⟩
  have newest := givenLast_newest calls call
  refine ⟨?_, distinct_replace distinct _ _, ?_, ?_⟩
  · rw [replace_eq distinct, created, patternCount_snoc]
  · intro s g
    simp only [replace_eq distinct, created, List.mem_append, List.mem_filter, mem_iff,
      List.mem_singleton, decide_eq_true_eq, Prod.mk.injEq]
    constructor
    · rintro (⟨⟨i, older⟩, other⟩ | ⟨rfl, rfl⟩)
      · exact ⟨i, older.snoc (Ne.symm other)⟩
      · exact ⟨_, newest⟩
    · rintro ⟨i, h⟩
      rcases givenLast_snoc.mp h with ⟨older, other⟩ | ⟨-, same, stored⟩
      · exact .inl ⟨⟨i, older⟩, Ne.symm other⟩
      · exact .inr ⟨same.symm, stored⟩
  · rw [replace_eq distinct, List.pairwise_append, created]
    refine ⟨(ordered.filter _).imp_of_mem ?_, List.pairwise_singleton _ _, ?_⟩
    · rintro a b ha hb ⟨i, j, less, first, second⟩
      exact ⟨i, j, less, first.snoc (others a ha).2, second.snoc (others b hb).2⟩
    · intro a ha b hb
      rw [List.mem_singleton.mp hb]
      obtain ⟨i, older⟩ := (mem_iff a.1 a.2).mp (others a ha).1
      exact ⟨i, calls.length, older.lt_length, older.snoc (others a ha).2, newest⟩

theorem lists_run (calls : List Call) : (run calls).Lists calls := by
  induction calls using List.reverseRecOn with
  | nil =>
    refine ⟨rfl, List.nodup_nil, fun s g => ?_, .nil⟩
    constructor
    · intro mem
      cases mem
    · rintro ⟨i, h⟩
      exact absurd h.lt_length (Nat.not_lt_zero i)
  | append_singleton calls call ih =>
    rw [run_snoc]
    exact lists_replace ih call

theorem Lists.mem_selectors_iff (h : r.Lists calls) :
    s ∈ r.entries.map (·.1) ↔ s ∈ calls.map (·.1) := by
  rw [← exists_givenLast_iff, List.mem_map]
  constructor
  · rintro ⟨⟨s, g⟩, mem, rfl⟩
    exact ⟨g, (h.mem_iff s g).mp mem⟩
  · rintro ⟨g, last⟩
    exact ⟨(s, g), (h.mem_iff s g).mpr last, rfl⟩

theorem Lists.get?_eq_some_iff (h : r.Lists calls) :
    r.get? s = some g ↔ ∃ i, GivenLast calls i s g := by
  rw [Registry.get?_eq_some_iff h.distinct, h.mem_iff]

/-- Whatever groups were given to whatever selectors, a registry lists every selector once, with
the group of its last call and in the order of the last calls. What is looked up is the group of
that call, and the next call hands back the group that would have been looked up: the one that it
takes out. -/
theorem entries_by_last_call (calls : List Call) :
    let r := run calls
    r.Lists calls ∧
    (∀ s, s ∈ r.entries.map (·.1) ↔ s ∈ calls.map (·.1)) ∧
    r.size = (calls.map (·.1)).toFinset.card ∧
    (∀ s g, r.get? s = some g ↔ ∃ i, GivenLast calls i s g) ∧
    (∀ s, r.get? s = none ↔ s ∉ calls.map (·.1)) ∧
    ∀ s g, (r.replace s g).2 = r.get? s ∧
      ((∃ older old newer, r.entries = older ++ (s, old) :: newer ∧
        (r.replace s g).1.entries = older ++ newer ++ [(s, g.register (patternCount calls))] ∧
        (r.replace s g).2 = some old) ∨
      (s ∉ calls.map (·.1) ∧
        (r.replace s g).1.entries = r.entries ++ [(s, g.register (patternCount calls))] ∧
        (r.replace s g).2 = none)) := by
  intro r
  have lists : r.Lists calls := lists_run calls
  refine ⟨lists, fun s => lists.mem_selectors_iff, ?_, fun s g => lists.get?_eq_some_iff, ?_, ?_⟩
  · have same : (calls.map (·.1)).toFinset = (r.entries.map (·.1)).toFinset := by
      ext s
      rw [List.mem_toFinset, List.mem_toFinset, lists.mem_selectors_iff]
    rw [same, List.toFinset_card_of_nodup lists.distinct, List.length_map]
    rfl
  · intro s
    rw [← exists_givenLast_iff, Option.eq_none_iff_forall_ne_some, not_exists]
    exact forall_congr' fun g => lists.get?_eq_some_iff.not
  · intro s g
    refine ⟨by rw [replace_eq lists.distinct], ?_⟩
    rcases replace_cases lists.distinct s g with ⟨older, old, newer, split, taken⟩ | ⟨new, added⟩
    · exact .inl ⟨older, old, newer, split, by rw [taken, lists.created], by rw [taken]⟩
    · exact .inr ⟨lists.mem_selectors_iff.not.mp new, by rw [added, lists.created], by rw [added]⟩

/-- A selector that is given another group is behind the others from then on. -/
example :
    (run [(.single "a", .empty), (.single "b", .empty), (.single "a", .empty)]).entries.map (·.1) =
      [.single "b", .single "a"] := by
  decide

end Ligature.Rules.Registry
