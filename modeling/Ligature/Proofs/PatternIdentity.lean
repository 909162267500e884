import Ligature.Proofs.Replacement

/-!
# Which entries hold the same pattern

Patterns are told apart by the numbers they are given when they enter the registry. An accepted
registration gives a number of its own to every pattern of its group, and no number is given twice.
So two entries hold the same pattern just if one registration supplies both, for one character.
-/
namespace Ligature.Rules

variable {h : Hierarchy} {mode : Mode} {c : Char} {p : Numbered CompiledPattern}
  {r : Registration} {rs later : List Registration} {n i : Nat}

/-! ### Numbers within a group -/

theorem getElem?_numberFrom {α : Type} (start : Nat) (l : List (Char × α)) (k : Nat) :
    (numberFrom start l)[k]? = l[k]?.map fun x => (x.1, ⟨start + k, x.2⟩) := by
  induction l generalizing start k with
  | nil => rfl
  | cons x rest ih =>
    cases k with
    | zero => rfl
    | succ k =>
      rw [numberFrom, List.getElem?_cons_succ, List.getElem?_cons_succ, ih, Nat.add_right_comm,
        Nat.add_assoc]

theorem number_of_get?_register {g : RuleGroup} (entry : (g.register n).get? c = some p) :
    ∃ k, g.toList[k]? = some (c, p.value) ∧ p.number = n + k := by
  obtain ⟨⟨d, p'⟩, found, rfl⟩ := Option.map_eq_some_iff.mp entry
  obtain rfl : d = c := by simpa using List.find?_some found
  obtain ⟨k, place⟩ := List.mem_iff_getElem?.mp (List.mem_of_find?_eq_some found)
  rw [RuleGroup.register, getElem?_numberFrom] at place
  obtain ⟨⟨d', q⟩, there, same⟩ := Option.map_eq_some_iff.mp place
  cases same
  exact ⟨k, there, rfl⟩

theorem get?_of_get?_register {g : RuleGroup} (entry : (g.register n).get? c = some p) :
    g.get? c = some p.value := by
  rw [← plain_register g n, RegisteredGroup.get?_plain, entry, Option.map_some]

/-! ### Groups with their numbers -/

/-- How many patterns some registrations create; one that is refused creates none. -/
def patternCount : List Registration → Nat
  | [] => 0
  | r :: later => r.group.size + patternCount later

theorem Registration.size_of_refused (refused : ¬ r.Accepted) : r.group.size = 0 := by
  unfold group
  split
  · rename_i g compiled
    exact absurd ⟨g, compiled⟩ refused
  · rfl

theorem patternCount_append (a b : List Registration) :
    patternCount (a ++ b) = patternCount a + patternCount b := by
  induction a with
  | nil => exact (Nat.zero_add _).symm
  | cons r a ih => rw [List.cons_append, patternCount, patternCount, ih, Nat.add_assoc]

@[simp] theorem patternCount_snoc (rs : List Registration) (r : Registration) :
    patternCount (rs ++ [r]) = patternCount rs + r.group.size := patternCount_append rs [r]

/-- The groups of the registrations that stand, oldest first, their patterns numbered from `n` on
as they were when they were made. -/
def groupsFrom : Nat → List Registration → Entries
  | _, [] => []
  | n, r :: later =>
    if r.Accepted ∧ ∀ q ∈ later, q.Accepted → q.selector ≠ r.selector then
      (r.selector, r.group.register n) :: groupsFrom (n + r.group.size) later
    else groupsFrom (n + r.group.size) later

theorem stays_snoc_iff {q : Registration} :
    (∀ x ∈ later ++ [r], x.Accepted → x.selector ≠ q.selector) ↔
      (∀ x ∈ later, x.Accepted → x.selector ≠ q.selector) ∧
        (r.Accepted → r.selector ≠ q.selector) := by
  simp only [List.mem_append, List.mem_singleton, or_imp, forall_and, forall_eq]

theorem groupsFrom_snoc_refused (n : Nat) (rs : List Registration) (refused : ¬ r.Accepted) :
    groupsFrom n (rs ++ [r]) = groupsFrom n rs := by
  induction rs generalizing n with
  | nil => simp [groupsFrom, refused]
  | cons q later ih =>
    have same : (r.Accepted → r.selector ≠ q.selector) ↔ True :=
      iff_true_intro fun accepted => absurd accepted refused
    simp only [List.cons_append, groupsFrom, stays_snoc_iff, same, and_true, ih]

theorem groupsFrom_snoc_accepted (n : Nat) (rs : List Registration) (accepted : r.Accepted) :
    groupsFrom n (rs ++ [r]) = (groupsFrom n rs).filter (·.1 ≠ r.selector) ++
      [(r.selector, r.group.register (n + patternCount rs))] := by
  induction rs generalizing n with
  | nil => simp [groupsFrom, accepted, patternCount]
  | cons q later ih =>
    have count : n + patternCount (q :: later) = n + q.group.size + patternCount later := by
      simp [patternCount, Nat.add_assoc]
    simp only [count, List.cons_append, groupsFrom, stays_snoc_iff, ih]
    by_cases kept : q.Accepted ∧ ∀ x ∈ later, x.Accepted → x.selector ≠ q.selector
    · by_cases same : r.selector = q.selector
      · rw [if_neg fun all => all.2.2 accepted same, if_pos kept, List.filter_cons_of_neg]
        simp [same]
      · rw [if_pos ⟨kept.1, kept.2, fun _ => same⟩, if_pos kept, List.filter_cons_of_pos]
        · rfl
        · simpa using Ne.symm same
    · rw [if_neg kept, if_neg fun all => kept ⟨all.1, all.2.1⟩]

/-- The registry behind a history holds the groups that stand, with the numbers they were given. -/
theorem registry_run (history : List Request) :
    (RuleTables.run history).registry =
      ⟨groupsFrom 0 (registrations history), patternCount (registrations history)⟩ := by
  induction history using List.reverseRecOn with
  | nil => rfl
  | append_singleton history q ih =>
    rw [RuleTables.run_snoc, registrations_snoc]
    cases q with
    | register s specs =>
      have expander := (RuleTables.reflects_run history).expander
      rw [registrationsFrom, registrationsFrom, ← expander]
      cases compiled : compileRules (RuleTables.run history).expander specs with
      | error e =>
        have refused : ¬ (Registration.mk s specs (RuleTables.run history).expander).Accepted := by
          rintro ⟨g, accepted⟩
          cases compiled.symm.trans accepted
        rw [groupsFrom_snoc_refused _ _ refused, patternCount_snoc,
          Registration.size_of_refused refused, Nat.add_zero, ← ih]
        simp only [RuleTables.after, RuleTables.register_refused compiled]
      | ok g =>
        have accepted : (Registration.mk s specs (RuleTables.run history).expander).Accepted :=
          ⟨g, compiled⟩
        rw [groupsFrom_snoc_accepted _ _ accepted, patternCount_snoc,
          Registration.group_eq (r := ⟨s, specs, _⟩) compiled, Nat.zero_add]
        simp only [RuleTables.after, RuleTables.register_accepted compiled]
        rw [Registry.replace_eq (distinct_selectors_run history), ih]
    | generate mode =>
      rcases RuleTables.value_generate (RuleTables.run history) mode with ⟨u, -, same⟩ | ⟨-, new⟩
      · simpa [RuleTables.after, same, registrationsFrom] using ih
      · simpa [RuleTables.after, new, registrationsFrom] using ih
    | withHierarchy h =>
      simpa [RuleTables.after, RuleTables.value_withHierarchy, registrationsFrom] using ih
    | withExpander e => simpa [RuleTables.after, RuleTables.withExpander, registrationsFrom] using ih

/-! ### Who supplies a numbered entry -/

theorem offered_cons :
    (groupsFrom n (r :: later)).reverse.findSome? (offer h mode c) =
      ((groupsFrom (n + r.group.size) later).reverse.findSome? (offer h mode c)).or
        (if r.Accepted ∧ ∀ q ∈ later, q.Accepted → q.selector ≠ r.selector then
          offer h mode c (r.selector, r.group.register n) else none) := by
  rw [groupsFrom]
  split
  · simp [List.findSome?_append]
  · simp

theorem isSome_offer (accepted : r.Accepted) (applies : r.selector.Applies h mode)
    (leads : ∃ s ∈ r.specs, s.leading? = some c) :
    ∃ p, offer h mode c (r.selector, r.group.register n) = some p := by
  obtain ⟨q, compiled⟩ := Option.isSome_iff_exists.mp (Registration.isSome_group accepted leads)
  obtain ⟨k, -, entry⟩ := get?_register_of_get? n compiled
  exact ⟨⟨k, q⟩, offer_eq_some_iff.mpr ⟨applies, entry⟩⟩

theorem isSome_of_supplies (supplies : Supplies rs h mode c i r) (n : Nat) :
    ∃ p, (groupsFrom n rs).reverse.findSome? (offer h mode c) = some p := by
  induction rs generalizing i n with
  | nil => exact nomatch supplies.made
  | cons q later ih =>
    rw [offered_cons]
    cases i with
    | zero =>
      obtain ⟨rfl, accepted, last, applies, leads⟩ := supplies_zero.mp supplies
      obtain ⟨p, offered⟩ := isSome_offer (n := n) accepted applies leads
      rw [if_pos ⟨accepted, last⟩, offered]
      -- A newer group may offer the character too; then that one is asked.
      cases (groupsFrom (n + r.group.size) later).reverse.findSome? (offer h mode c) with
      | none => exact ⟨p, rfl⟩
      | some p' => exact ⟨p', rfl⟩
    | succ i =>
      obtain ⟨p, offered⟩ := ih (supplies_succ.mp supplies) (n + q.group.size)
      exact ⟨p, by rw [offered, Option.some_or]⟩

/-- The entry of a character is that of the newest registration that supplies it, under the number
it was given there. -/
theorem newest_of_offered (offered : (groupsFrom n rs).reverse.findSome? (offer h mode c) = some p) :
    ∃ i r, SuppliesNewest rs h mode c i r ∧
      (r.group.register (n + patternCount (rs.take i))).get? c = some p := by
  induction rs generalizing n with
  | nil => cases offered
  | cons q later ih =>
    rw [offered_cons] at offered
    rcases Option.or_eq_some_iff.mp offered with newer | ⟨none, own⟩
    · obtain ⟨i, r, newest, entry⟩ := ih newer
      refine ⟨i + 1, r, ⟨supplies_succ.mpr newest.1, ?_⟩, ?_⟩
      · intro j x supplies
        cases j with
        | zero => exact Nat.zero_le _
        | succ j => exact Nat.succ_le_succ (newest.2 j x (supplies_succ.mp supplies))
      · rw [List.take_succ_cons, patternCount, ← Nat.add_assoc]
        exact entry
    · split at own
      · rename_i stands
        obtain ⟨applies, entry⟩ := offer_eq_some_iff.mp own
        have leads : ∃ s ∈ q.specs, s.leading? = some c := by
          obtain ⟨g, compiled⟩ := stands.1
          rw [← isSome_compileRules compiled, ← Registration.group_eq compiled,
            get?_of_get?_register entry, Option.isSome_some]
        refine ⟨0, q, ⟨supplies_zero.mpr ⟨rfl, stands.1, stands.2, applies, leads⟩, ?_⟩, entry⟩
        intro j x supplies
        cases j with
        | zero => exact Nat.le_refl 0
        | succ j =>
          -- A later one that supplies the character would have been asked first.
          obtain ⟨p', some⟩ := isSome_of_supplies (supplies_succ.mp supplies) (n + q.group.size)
          exact nomatch none.symm.trans some
      · cases own

/-! ### Numbers of different groups -/

theorem patternCount_take_succ (made : rs[i]? = some r) :
    patternCount (rs.take (i + 1)) = patternCount (rs.take i) + r.group.size := by
  rw [List.take_add_one, made, Option.toList_some, patternCount_snoc]

theorem patternCount_take_mono {i j : Nat} (le : i ≤ j) :
    patternCount (rs.take i) ≤ patternCount (rs.take j) := by
  have split : rs.take j = rs.take i ++ (rs.drop i).take (j - i) := by
    rw [← List.take_add, Nat.add_sub_cancel' le]
  rw [split, patternCount_append]
  exact Nat.le_add_right _ _

def CreatedBy (rs : List Registration) (i : Nat) (c : Char) (p : Numbered CompiledPattern) : Prop :=
  ∃ r, rs[i]? = some r ∧ (r.group.register (patternCount (rs.take i))).get? c = some p

section Created

variable {i' : Nat} {c' : Char} {p' : Numbered CompiledPattern}

theorem CreatedBy.eq (created : CreatedBy rs i c p) (created' : CreatedBy rs i c p') : p = p' := by
  obtain ⟨r, made, entry⟩ := created
  obtain ⟨r', made', entry'⟩ := created'
  cases made.symm.trans made'
  exact Option.some.inj (entry.symm.trans entry')

theorem CreatedBy.number_lt (created : CreatedBy rs i c p) (created' : CreatedBy rs i' c' p')
    (less : i < i') : p.number < p'.number := by
  obtain ⟨r, made, entry⟩ := created
  obtain ⟨r', -, entry'⟩ := created'
  obtain ⟨k, place, number⟩ := number_of_get?_register entry
  obtain ⟨k', -, number'⟩ := number_of_get?_register entry'
  have inside : k < r.group.size := (List.getElem?_eq_some_iff.mp place).1
  calc p.number = patternCount (rs.take i) + k := number
    _ < patternCount (rs.take i) + r.group.size := Nat.add_lt_add_left inside _
    _ = patternCount (rs.take (i + 1)) := (patternCount_take_succ made).symm
    _ ≤ patternCount (rs.take i') := patternCount_take_mono less
    _ ≤ p'.number := number' ▸ Nat.le_add_right _ _

theorem CreatedBy.number_eq_iff (created : CreatedBy rs i c p)
    (created' : CreatedBy rs i' c' p') : p.number = p'.number ↔ i = i' ∧ c = c' := by
  constructor
  · intro same
    have place : i = i' := by
      rcases Nat.lt_trichotomy i i' with less | equal | greater
      · exact absurd same (Nat.ne_of_lt (created.number_lt created' less))
      · exact equal
      · exact absurd same (Nat.ne_of_gt (created'.number_lt created greater))
    subst place
    refine ⟨rfl, ?_⟩
    obtain ⟨r, made, entry⟩ := created
    obtain ⟨r', made', entry'⟩ := created'
    cases made.symm.trans made'
    obtain ⟨k, place, number⟩ := number_of_get?_register entry
    obtain ⟨k', place', number'⟩ := number_of_get?_register entry'
    obtain rfl : k = k' := by omega
    exact congrArg (·.1) (Option.some.inj (place.symm.trans place'))
  · rintro ⟨rfl, rfl⟩
    rw [created.eq created']

end Created

theorem registrations_prefix {before history : List Request} (early : before <+: history) :
    registrations before <+: registrations history := by
  obtain ⟨later, rfl⟩ := early
  exact ⟨_, (registrationsFrom_append ..).symm⟩

/-! ### Entries that were handed out -/

/-- An entry of a table that was handed out in the course of a history: of the table that a request
for `mode` got behind the requests `before`. -/
structure HandedEntry (history : List Request) where
  before : List Request
  mode : Mode
  asked : before ++ [.generate mode] <+: history
  char : Char
  pattern : Numbered CompiledPattern
  entry : ((RuleTables.run before).generate mode).value.1.value.entries.get? char = some pattern

namespace HandedEntry

variable {history : List Request}

/-- The `i`-th registration of the history supplied the entry: of those that were made before the
table was handed out it is the newest that stands, applies and has the character. -/
def SuppliedBy (e : HandedEntry history) (i : Nat) : Prop :=
  ∃ r, SuppliesNewest (registrations e.before) (hierarchyOf e.before) e.mode e.char i r

theorem SuppliedBy.unique {e : HandedEntry history} {j : Nat} (h : e.SuppliedBy i)
    (h' : e.SuppliedBy j) : i = j := by
  obtain ⟨r, supplies, newest⟩ := h
  obtain ⟨r', supplies', newest'⟩ := h'
  exact Nat.le_antisymm (newest' i r supplies) (newest j r' supplies')

theorem exists_suppliedBy (e : HandedEntry history) :
    ∃ i, e.SuppliedBy i ∧ CreatedBy (registrations history) i e.char e.pattern := by
  have entry := e.entry
  rw [RuleTables.generate_run_eq_build, get?_buildTable_eq_findSome?, registry_run,
    (RuleTables.reflects_run e.before).hierarchy] at entry
  obtain ⟨i, r, newest, register⟩ := newest_of_offered entry
  obtain ⟨later, more⟩ := registrations_prefix ((List.prefix_append _ _).trans e.asked)
  have made := newest.1.made
  have inside : i < (registrations e.before).length := (List.getElem?_eq_some_iff.mp made).1
  refine ⟨i, ⟨r, newest⟩, r, ?_, ?_⟩
  · rw [← more, List.getElem?_append_left inside, made]
  · rw [← more, List.take_append_of_le_length (Nat.le_of_lt inside), ← Nat.zero_add (patternCount _)]
    exact register

end HandedEntry

/-- Two entries of any tables that were handed out hold the same pattern just if they are for one
character and one registration supplied both. -/
theorem same_pattern_iff (history : List Request) (e e' : HandedEntry history) :
    (∃! i, e.SuppliedBy i) ∧
    (e.pattern.number = e'.pattern.number ↔
      e.char = e'.char ∧ ∃ i, e.SuppliedBy i ∧ e'.SuppliedBy i) ∧
    (e.pattern.number = e'.pattern.number → e.pattern = e'.pattern) := by
  obtain ⟨i, supplied, created⟩ := e.exists_suppliedBy
  obtain ⟨i', supplied', created'⟩ := e'.exists_suppliedBy
  have told := created.number_eq_iff created'
  refine ⟨⟨i, supplied, fun j other => other.unique supplied⟩, ?_, ?_⟩
  · rw [told]
    constructor
    · rintro ⟨rfl, same⟩
      exact ⟨same, i, supplied, supplied'⟩
    · rintro ⟨same, j, h, h'⟩
      exact ⟨(supplied.unique h).trans (h'.unique supplied'), same⟩
  · intro same
    obtain ⟨rfl, char⟩ := told.mp same
    rw [← char] at created'
    exact created.eq created'

def repeatedly : List Request :=
  [.register .universal [.literal "=>"], .generate "a", .generate "b",
    .register .universal [.literal "=>"], .generate "a"]

theorem same_pattern_iff_repeatedly :
    ∃ first other renewed : HandedEntry repeatedly,
      first.mode = "a" ∧ other.mode = "b" ∧ renewed.mode = "a" ∧
      (∃ i, first.SuppliedBy i ∧ other.SuppliedBy i) ∧
      first.pattern.value = renewed.pattern.value ∧
      ¬ ∃ i, first.SuppliedBy i ∧ renewed.SuppliedBy i := by
  let first : HandedEntry repeatedly :=
    ⟨repeatedly.take 1, "a", ⟨_, rfl⟩, '=', ⟨0, [], [">"]⟩, by decide +kernel⟩
  let other : HandedEntry repeatedly :=
    ⟨repeatedly.take 2, "b", ⟨_, rfl⟩, '=', ⟨0, [], [">"]⟩, by decide +kernel⟩
  let renewed : HandedEntry repeatedly :=
    ⟨repeatedly.take 4, "a", ⟨_, rfl⟩, '=', ⟨1, [], [">"]⟩, by decide +kernel⟩
  refine ⟨first, other, renewed, rfl, rfl, rfl, ?_, rfl, ?_⟩
  · exact ((same_pattern_iff repeatedly first other).2.1.mp rfl).2
  · intro shared
    exact absurd ((same_pattern_iff repeatedly first renewed).2.1.mpr ⟨rfl, shared⟩) (by decide)

end Ligature.Rules
