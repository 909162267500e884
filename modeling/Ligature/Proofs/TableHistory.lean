import Mathlib.Data.List.Induction
import Ligature.Rules.RuleTables

/-!
# What a history of requests leaves in a table

The rule tables answer requests one after the other. A registration stands until a later one is
accepted for the same selector. The table of a mode holds, for every leading character, the
pattern of the newest registration that stands, applies to the mode and has the character. Cached
tables say the same as tables built anew.
-/
namespace Ligature.Rules

/-! ### Requests -/

inductive Request where
  | register (selector : ModeSelector) (specs : List Spec)
  | generate (mode : Mode)
  | withHierarchy (h : Hierarchy)
  | withExpander (e : Expander)

namespace RuleTables

def after (t : RuleTables) : Request → RuleTables
  | .register s specs => (t.register s specs).value.2
  | .generate mode => (t.generate mode).value.2
  | .withHierarchy h => (t.withHierarchy h).value
  | .withExpander e => t.withExpander e

def run (history : List Request) : RuleTables := history.foldl after new

theorem run_snoc (history : List Request) (q : Request) :
    run (history ++ [q]) = (run history).after q := by
  simp [run, List.foldl_append]

end RuleTables

/-! ### Registrations -/

/-- A call of `register` as it was made, with the expander of its moment. -/
structure Registration where
  selector : ModeSelector
  specs : List Spec
  expander : Expander

namespace Registration

def compiled (r : Registration) : Except RegistrationError RuleGroup :=
  compileRules r.expander r.specs

def Accepted (r : Registration) : Prop := ∃ g, r.compiled = .ok g

instance (r : Registration) : Decidable r.Accepted :=
  match h : r.compiled with
  | .ok g => isTrue ⟨g, h⟩
  | .error _ => isFalse fun ⟨_, h'⟩ => nomatch h.symm.trans h'

def group (r : Registration) : RuleGroup :=
  match r.compiled with
  | .ok g => g
  | .error _ => .empty

theorem group_eq {r : Registration} {g : RuleGroup} (h : r.compiled = .ok g) : r.group = g := by
  simp [group, h]

end Registration

def expanderBehind (e : Expander) : List Request → Expander
  | [] => e
  | .withExpander e' :: rest => expanderBehind e' rest
  | _ :: rest => expanderBehind e rest

def hierarchyBehind (h : Hierarchy) : List Request → Hierarchy
  | [] => h
  | .withHierarchy h' :: rest => hierarchyBehind h' rest
  | _ :: rest => hierarchyBehind h rest

def registrationsFrom (e : Expander) : List Request → List Registration
  | [] => []
  | .register s specs :: rest => ⟨s, specs, e⟩ :: registrationsFrom e rest
  | .withExpander e' :: rest => registrationsFrom e' rest
  | _ :: rest => registrationsFrom e rest

def registrations (history : List Request) : List Registration :=
  registrationsFrom expandRegex history

def hierarchyOf (history : List Request) : Hierarchy := hierarchyBehind .flat history

theorem expanderBehind_append (e : Expander) (a b : List Request) :
    expanderBehind e (a ++ b) = expanderBehind (expanderBehind e a) b := by
  induction a generalizing e with
  | nil => rfl
  | cons q rest ih => cases q <;> exact ih _

theorem hierarchyBehind_append (h : Hierarchy) (a b : List Request) :
    hierarchyBehind h (a ++ b) = hierarchyBehind (hierarchyBehind h a) b := by
  induction a generalizing h with
  | nil => rfl
  | cons q rest ih => cases q <;> exact ih _

theorem registrationsFrom_append (e : Expander) (a b : List Request) :
    registrationsFrom e (a ++ b) =
      registrationsFrom e a ++ registrationsFrom (expanderBehind e a) b := by
  induction a generalizing e with
  | nil => rfl
  | cons q rest ih => cases q <;> simp [registrationsFrom, expanderBehind, ih]

@[simp] theorem expanderBehind_snoc (history : List Request) (q : Request) :
    expanderBehind expandRegex (history ++ [q]) =
      expanderBehind (expanderBehind expandRegex history) [q] :=
  expanderBehind_append ..

@[simp] theorem hierarchyOf_snoc (history : List Request) (q : Request) :
    hierarchyOf (history ++ [q]) = hierarchyBehind (hierarchyOf history) [q] :=
  hierarchyBehind_append ..

@[simp] theorem registrations_snoc (history : List Request) (q : Request) :
    registrations (history ++ [q]) =
      registrations history ++ registrationsFrom (expanderBehind expandRegex history) [q] :=
  registrationsFrom_append ..

/-! ### Registrations that stand -/

/-- The registrations that are accepted and not replaced by a later one, oldest first. -/
def standing : List Registration → List Registration
  | [] => []
  | r :: later =>
    if r.Accepted ∧ ∀ q ∈ later, q.Accepted → q.selector ≠ r.selector then r :: standing later
    else standing later

theorem standing_snoc_refused (rs : List Registration) {r : Registration} (h : ¬ r.Accepted) :
    standing (rs ++ [r]) = standing rs := by
  induction rs with
  | nil => simp [standing, h]
  | cons q later ih =>
    have same : (∀ x ∈ later ++ [r], x.Accepted → x.selector ≠ q.selector) ↔
        ∀ x ∈ later, x.Accepted → x.selector ≠ q.selector := by
      simp only [List.mem_append, List.mem_singleton]
      constructor
      · intro all x hx
        exact all x (.inl hx)
      · rintro all x (hx | rfl) ha
        · exact all x hx ha
        · exact absurd ha h
    simp only [List.cons_append, standing, same, ih]

theorem standing_snoc_accepted (rs : List Registration) {r : Registration} (h : r.Accepted) :
    standing (rs ++ [r]) = (standing rs).filter (·.selector ≠ r.selector) ++ [r] := by
  induction rs with
  | nil => simp [standing, h]
  | cons q later ih =>
    have split : (∀ x ∈ later ++ [r], x.Accepted → x.selector ≠ q.selector) ↔
        (∀ x ∈ later, x.Accepted → x.selector ≠ q.selector) ∧ r.selector ≠ q.selector := by
      simp only [List.mem_append, List.mem_singleton]
      constructor
      · intro all
        exact ⟨fun x hx => all x (.inl hx), all r (.inr rfl) h⟩
      · rintro ⟨all, last⟩ x (hx | rfl)
        · exact all x hx
        · exact fun _ => last
    simp only [List.cons_append, standing, split]
    by_cases kept : q.Accepted ∧ ∀ x ∈ later, x.Accepted → x.selector ≠ q.selector
    · by_cases same : r.selector = q.selector
      · rw [if_neg fun all => all.2.2 same, if_pos kept, ih, List.filter_cons_of_neg]
        simp [same]
      · rw [if_pos ⟨kept.1, kept.2, same⟩, if_pos kept, ih, List.filter_cons_of_pos]
        · rfl
        · simpa using Ne.symm same
    · rw [if_neg kept, if_neg (fun all => kept ⟨all.1, all.2.1⟩), ih]

theorem mem_selectors_standing {rs : List Registration} {s : ModeSelector} :
    s ∈ (standing rs).map (·.selector) ↔ ∃ r ∈ rs, r.Accepted ∧ r.selector = s := by
  induction rs with
  | nil => simp [standing]
  | cons r later ih =>
    simp only [standing, List.mem_cons, exists_eq_or_imp]
    by_cases stands : r.Accepted ∧ ∀ q ∈ later, q.Accepted → q.selector ≠ r.selector
    · rw [if_pos stands, List.map_cons, List.mem_cons, ih, eq_comm]
      exact or_congr_left (and_iff_right stands.1).symm
    · rw [if_neg stands, ih]
      constructor
      · exact .inr
      · rintro (⟨accepted, rfl⟩ | later)
        · -- A later registration has taken the place of this one.
          by_contra none
          exact stands ⟨accepted, fun q mem ok same => none ⟨q, mem, ok, same⟩⟩
        · exact later

theorem nodup_selectors_standing (rs : List Registration) :
    ((standing rs).map (·.selector)).Nodup := by
  induction rs with
  | nil => exact List.nodup_nil
  | cons r later ih =>
    simp only [standing]
    split
    next stands =>
      rw [List.map_cons, List.nodup_cons, mem_selectors_standing]
      refine ⟨?_, ih⟩
      rintro ⟨q, mem, accepted, same⟩
      exact stands.2 q mem accepted same
    next => exact ih

/-! ### The state behind a history -/

def RegisteredGroup.plain (g : RegisteredGroup) : RuleGroup := g.mapValues (·.value)

theorem RegisteredGroup.get?_plain (g : RegisteredGroup) (c : Char) :
    g.plain.get? c = (g.get? c).map (·.value) := by
  simp only [plain, CharMap.get?, CharMap.mapValues, List.find?_map, Option.map_map]
  rfl

theorem plain_register (g : RuleGroup) (start : Nat) :
    RegisteredGroup.plain (g.register start) = g := by
  have values : ∀ (l : List (Char × CompiledPattern)) (n : Nat),
      (numberFrom n l).map (fun x => (x.1, x.2.value)) = l := by
    intro l
    induction l with
    | nil => intro n; rfl
    | cons x rest ih => intro n; simp [numberFrom, ih]
  cases g
  simp [RegisteredGroup.plain, CharMap.mapValues, RuleGroup.register, values]

namespace TableCache

variable {c : TableCache} {mode : Mode}

theorem value_invalidate (c : TableCache) : c.invalidate.value = ⟨[], c.built⟩ := by
  by_cases h : c.isEmpty = true <;> simp [invalidate, h]

theorem generate_cases (c : TableCache) (mode : Mode) (r : Registry) (h : Hierarchy) :
    (∃ u, c.get? mode = some u ∧ (c.generate mode r h).value = (u, c)) ∨
    (c.get? mode = none ∧
      let u : Numbered Table := ⟨c.built, (buildTable mode r h).value⟩
      (c.generate mode r h).value = (u, ⟨(mode, u) :: c.tables, c.built + 1⟩)) := by
  cases cached : c.get? mode with
  | some u => exact .inl ⟨u, rfl, by simp [generate, cached]⟩
  | none => exact .inr ⟨rfl, by simp [generate, cached]⟩

theorem contains_iff : c.contains mode = true ↔ ∃ u, c.get? mode = some u := by
  rw [← Option.isSome_iff_exists]
  simp [contains, get?, List.isSome_find?]

theorem not_mem_modes (absent : c.get? mode = none) : mode ∉ c.tables.map (·.1) := by
  intro cached
  obtain ⟨x, hx, rfl⟩ := List.mem_map.mp cached
  have missing := List.find?_eq_none.mp (Option.map_eq_none_iff.mp absent) x hx
  exact missing (beq_self_eq_true x.1)

end TableCache

namespace RuleTables

structure Reflects (t : RuleTables) (history : List Request) : Prop where
  expander : t.expander = expanderBehind expandRegex history
  hierarchy : t.hierarchy = hierarchyOf history
  entries : t.registry.entries.map (fun e => (e.1, e.2.plain)) =
    (standing (registrations history)).map fun r => (r.selector, r.group)
  fresh : ∀ mode u, t.cache.get? mode = some u →
    u.value = (buildTable mode t.registry t.hierarchy).value

theorem Reflects.selectors {t : RuleTables} {history : List Request} (ht : t.Reflects history) :
    t.registry.entries.map (·.1) = (standing (registrations history)).map (·.selector) := by
  have selectors := congrArg (List.map (·.1)) ht.entries
  rwa [List.map_map, List.map_map] at selectors

theorem Reflects.distinct {t : RuleTables} {history : List Request} (ht : t.Reflects history) :
    (t.registry.entries.map (·.1)).Nodup :=
  ht.selectors ▸ nodup_selectors_standing _

theorem register_refused {t : RuleTables} {s : ModeSelector} {specs : List Spec}
    {e : RegistrationError} (h : compileRules t.expander specs = .error e) :
    (t.register s specs).value = (.error e, t) := by
  simp [register, h]

theorem register_accepted {t : RuleTables} {s : ModeSelector} {specs : List Spec}
    {g : RuleGroup} (h : compileRules t.expander specs = .ok g) :
    (t.register s specs).value =
      (.ok (), { t with
        registry := (t.registry.replace s g).1
        cache := ⟨[], t.cache.built⟩ }) := by
  by_cases previous : (t.registry.replace s g).2.isSome = true <;>
    simp [register, h, previous, TableCache.value_invalidate]

theorem value_withHierarchy (t : RuleTables) (h : Hierarchy) :
    (t.withHierarchy h).value = { t with hierarchy := h, cache := ⟨[], t.cache.built⟩ } := by
  simp [withHierarchy, TableCache.value_invalidate]

theorem value_generate (t : RuleTables) (mode : Mode) :
    (∃ u, t.cache.get? mode = some u ∧ (t.generate mode).value = (u, t)) ∨
    (t.cache.get? mode = none ∧
      let u : Numbered Table := ⟨t.cache.built, (buildTable mode t.registry t.hierarchy).value⟩
      (t.generate mode).value =
        (u, { t with cache := ⟨(mode, u) :: t.cache.tables, t.cache.built + 1⟩ })) := by
  rcases t.cache.generate_cases mode t.registry t.hierarchy with ⟨u, cached, same⟩ | ⟨absent, new⟩
  · exact .inl ⟨u, cached, by simp [generate, same]⟩
  · exact .inr ⟨absent, by simp [generate, new]⟩

theorem reflects_new : new.Reflects [] where
  expander := rfl
  hierarchy := rfl
  entries := rfl
  fresh := by
    intro mode u h
    simp [new, TableCache.empty, TableCache.get?] at h

theorem reflects_after {t : RuleTables} {history : List Request} (ht : t.Reflects history)
    (q : Request) : (t.after q).Reflects (history ++ [q]) := by
  have distinct := ht.distinct
  obtain ⟨expander, hierarchy, entries, fresh⟩ := ht
  have dropped : ∀ (built : Nat) (mode : Mode), (TableCache.mk [] built).get? mode = none := by
    intro built mode
    rfl
  cases q with
  | register s specs =>
    cases h : compileRules t.expander specs with
    | error e =>
      have refused : ¬ (Registration.mk s specs t.expander).Accepted := by
        rintro ⟨g, hg⟩
        exact nomatch h.symm.trans hg
      simp only [after, register_refused h]
      refine ⟨by simpa [expanderBehind], by simpa [hierarchyBehind], ?_, fresh⟩
      rw [registrations_snoc, ← expander]
      exact entries.trans (by simp [registrationsFrom, standing_snoc_refused _ refused])
    | ok g =>
      have accepted : (Registration.mk s specs t.expander).Accepted := ⟨g, h⟩
      simp only [after, register_accepted h]
      refine ⟨by simpa [expanderBehind], by simpa [hierarchyBehind], ?_, ?_⟩
      · have others := congrArg (List.filter fun e => e.1 ≠ s) entries
        rw [List.filter_map, List.filter_map] at others
        rw [registrations_snoc, ← expander, registrationsFrom, registrationsFrom,
          standing_snoc_accepted _ accepted]
        simp only [Registry.replace_eq distinct, List.map_append, List.map_cons, List.map_nil,
          plain_register, Registration.group_eq (r := ⟨s, specs, t.expander⟩) h]
        exact congrArg (· ++ [(s, g)]) others
      · intro mode u hu
        simp [dropped] at hu
  | generate mode =>
    rcases value_generate t mode with ⟨u, -, h⟩ | ⟨-, h⟩
    · simp only [after, h]
      exact ⟨by simpa [expanderBehind], by simpa [hierarchyBehind],
        by simpa [registrationsFrom] using entries, fresh⟩
    · simp only [after, h]
      refine ⟨by simpa [expanderBehind], by simpa [hierarchyBehind],
        by simpa [registrationsFrom] using entries, ?_⟩
      intro m u hu
      by_cases same : mode = m
      · subst same
        simp [TableCache.get?] at hu
        simp [← hu]
      · apply fresh m u
        simpa [TableCache.get?, same] using hu
  | withHierarchy h =>
    simp only [after, value_withHierarchy]
    refine ⟨by simpa [expanderBehind], by simp [hierarchyBehind],
      by simpa [registrationsFrom] using entries, ?_⟩
    intro mode u hu
    simp [dropped] at hu
  | withExpander e =>
    exact ⟨by simp [after, withExpander, expanderBehind], by simpa [hierarchyBehind],
      by simpa [after, withExpander, registrationsFrom] using entries, fresh⟩

theorem reflects_run (history : List Request) : (run history).Reflects history := by
  induction history using List.reverseRecOn with
  | nil => exact reflects_new
  | append_singleton history q ih =>
    rw [run_snoc]
    exact reflects_after ih q

/-- The cache cannot be seen in the content of a table. -/
theorem generate_run_eq_build (history : List Request) (mode : Mode) :
    ((run history).generate mode).value.1.value =
      (buildTable mode (run history).registry (run history).hierarchy).value := by
  rcases value_generate (run history) mode with ⟨u, cached, h⟩ | ⟨-, h⟩
  · rw [h]
    exact (reflects_run history).fresh mode u cached
  · rw [h]

end RuleTables

/-! ### Leading characters -/

def Spec.leading? : Spec → Option Char
  | .literal text => text.toList.head?
  | .pattern c _ => some c

theorem isSome_extend (g : RuleGroup) (c d : Char) (f : CompiledPattern → CompiledPattern) :
    ((g.extend c f).get? d).isSome = (decide (c = d) || (g.get? d).isSome) := by
  by_cases same : c = d <;> simp [RuleGroup.extend, same]

theorem isSome_addSpec {expand : Expander} {g g' : RuleGroup} {s : Spec}
    (h : addSpec expand g s = .ok g') (c : Char) :
    (g'.get? c).isSome = (decide (s.leading? = some c) || (g.get? c).isSome) := by
  unfold addSpec at h
  split at h
  · split at h
    · rename_i text a b tail cs
      cases h
      simp [Spec.leading?, cs, isSome_extend]
    · cases h
  · cases h
    simp [Spec.leading?, isSome_extend]
  · split at h
    · cases h
      simp [Spec.leading?, isSome_extend]
    · cases h

theorem isSome_compileRules {expand : Expander} {specs : List Spec} {g : RuleGroup}
    (h : compileRules expand specs = .ok g) (c : Char) :
    (g.get? c).isSome = true ↔ ∃ s ∈ specs, s.leading? = some c := by
  have extended : ∀ (specs : List Spec) (g₀ : RuleGroup),
      specs.foldlM (addSpec expand) g₀ = .ok g →
      ((g.get? c).isSome = true ↔
        (∃ s ∈ specs, s.leading? = some c) ∨ (g₀.get? c).isSome = true) := by
    intro specs
    induction specs with
    | nil =>
      intro g₀ h
      cases h
      simp
    | cons s rest ih =>
      intro g₀ h
      rw [List.foldlM_cons] at h
      cases first : addSpec expand g₀ s with
      | error e => simp [first, bind, Except.bind] at h
      | ok g₁ =>
        simp only [first, bind, Except.bind] at h
        rw [ih g₁ h, isSome_addSpec first]
        simp only [Bool.or_eq_true, decide_eq_true_eq, List.mem_cons, exists_eq_or_imp]
        rw [or_left_comm, or_assoc]
  simpa using extended specs .empty h

/-! ### Layers of groups -/

theorem get?_overlay (below above : RegisteredGroup) (c : Char) :
    (overlay below above).get? c = (above.get? c).or (below.get? c) := by
  obtain ⟨entries, ascending⟩ := above
  simp only [overlay, CharMap.get?]
  induction entries generalizing below with
  | nil => simp
  | cons e rest ih =>
    obtain ⟨head, tail⟩ := List.pairwise_cons.mp ascending
    rw [List.foldl_cons, ih _ tail]
    have inserted := CharMap.get?_insert below e.1 e.2 c
    simp only [CharMap.get?] at inserted
    rw [inserted]
    by_cases same : e.1 = c
    · have absent : rest.find? (·.1 == c) = none := by
        simp only [List.find?_eq_none, beq_iff_eq]
        intro x hx hxc
        have less := head x hx
        rw [same, hxc] at less
        exact absurd less (Char.lt_irrefl c)
      simp [same, absent]
    · simp [same]

def ModeSelector.Applies (s : ModeSelector) (h : Hierarchy) (mode : Mode) : Prop :=
  match s with
  | .universal => True
  | .single t => t = mode ∨ h.isDescendant mode t = true
  | .set ts => ∃ t ∈ ts, t = mode ∨ h.isDescendant mode t = true

theorem ModeSelector.value_appliesTo_iff (s : ModeSelector) (h : Hierarchy) (mode : Mode) :
    (s.appliesTo h mode).value = true ↔ s.Applies h mode := by
  cases s <;> simp [appliesTo, Applies, value_matchesAny]

theorem get?_layer (h : Hierarchy) (mode : Mode) (below : RegisteredGroup)
    (entries : List (ModeSelector × RegisteredGroup)) (c : Char) :
    (layer h mode below entries).value.get? c =
      (entries.reverse.findSome? fun e =>
        if (e.1.appliesTo h mode).value then e.2.get? c else none).or (below.get? c) := by
  induction entries generalizing below with
  | nil => rfl
  | cons e rest ih =>
    obtain ⟨s, g⟩ := e
    simp only [layer, Traced.value_bind]
    by_cases applies : (s.appliesTo h mode).value = true
    · simp [applies, ih, get?_overlay, List.findSome?_append, Option.or_assoc]
    · simp [applies, ih, List.findSome?_append]

def supply (h : Hierarchy) (mode : Mode) (c : Char) (rs : List Registration) :
    Option CompiledPattern :=
  (standing rs).reverse.findSome? fun r =>
    if (r.selector.appliesTo h mode).value then r.group.get? c else none

theorem get?_buildTable {t : RuleTables} {history : List Request} (ht : t.Reflects history)
    (mode : Mode) (c : Char) :
    (buildTable mode t.registry t.hierarchy).value.get? c =
      supply (hierarchyOf history) mode c (registrations history) := by
  have entries := congrArg (fun l => l.reverse.findSome? fun e : ModeSelector × RuleGroup =>
    if (e.1.appliesTo t.hierarchy mode).value then e.2.get? c else none) ht.entries
  simp only [← List.map_reverse, List.findSome?_map, Function.comp_def,
    RegisteredGroup.get?_plain] at entries
  simp only [buildTable, Traced.value_map, Table.get?, get?_layer, CharMap.get?_empty,
    Option.or_none]
  rw [supply, ← ht.hierarchy, ← entries, List.map_findSome?]
  congr 1
  funext e
  simp only [Function.comp_apply]
  split <;> rfl

/-! ### Who supplies an entry -/

/-- The `i`-th of some registrations may supply the entry of `c` in the table of `mode`: it is
accepted, no later one is accepted for its selector, it applies, and it has `c`. -/
structure Supplies (rs : List Registration) (h : Hierarchy) (mode : Mode) (c : Char) (i : Nat)
    (r : Registration) : Prop where
  made : rs[i]? = some r
  accepted : r.Accepted
  last : ∀ j q, i < j → rs[j]? = some q → q.Accepted → q.selector ≠ r.selector
  applies : r.selector.Applies h mode
  leads : ∃ s ∈ r.specs, s.leading? = some c

def SuppliesNewest (rs : List Registration) (h : Hierarchy) (mode : Mode) (c : Char) (i : Nat)
    (r : Registration) : Prop :=
  Supplies rs h mode c i r ∧ ∀ j q, Supplies rs h mode c j q → j ≤ i

section Supply

variable {h : Hierarchy} {mode : Mode} {c : Char} {r : Registration} {later : List Registration}

theorem supplies_succ {i : Nat} {q : Registration} :
    Supplies (r :: later) h mode c (i + 1) q ↔ Supplies later h mode c i q := by
  constructor
  · rintro ⟨made, accepted, last, applies, leads⟩
    refine ⟨by simpa using made, accepted, ?_, applies, leads⟩
    intro j x less hx
    exact last (j + 1) x (by omega) (by simpa using hx)
  · rintro ⟨made, accepted, last, applies, leads⟩
    refine ⟨by simpa using made, accepted, ?_, applies, leads⟩
    intro j x less hx
    obtain ⟨k, rfl⟩ : ∃ k, j = k + 1 := ⟨j - 1, by omega⟩
    exact last k x (by omega) (by simpa using hx)

theorem supplies_zero {q : Registration} :
    Supplies (r :: later) h mode c 0 q ↔ q = r ∧ r.Accepted ∧
      (∀ x ∈ later, x.Accepted → x.selector ≠ r.selector) ∧ r.selector.Applies h mode ∧
      ∃ s ∈ r.specs, s.leading? = some c := by
  constructor
  · rintro ⟨made, accepted, last, applies, leads⟩
    obtain rfl : r = q := by simpa using made
    refine ⟨rfl, accepted, ?_, applies, leads⟩
    intro x hx
    obtain ⟨j, hj⟩ := List.mem_iff_getElem?.mp hx
    exact last (j + 1) x (by omega) (by simpa using hj)
  · rintro ⟨rfl, accepted, last, applies, leads⟩
    refine ⟨rfl, accepted, ?_, applies, leads⟩
    intro j x less hx
    obtain ⟨k, rfl⟩ : ∃ k, j = k + 1 := ⟨j - 1, by omega⟩
    exact last x (List.mem_iff_getElem?.mpr ⟨k, by simpa using hx⟩)

theorem supply_cons :
    supply h mode c (r :: later) = (supply h mode c later).or
      (if (r.Accepted ∧ ∀ q ∈ later, q.Accepted → q.selector ≠ r.selector) ∧
          (r.selector.appliesTo h mode).value = true then r.group.get? c else none) := by
  by_cases stands : r.Accepted ∧ ∀ q ∈ later, q.Accepted → q.selector ≠ r.selector
  · rw [supply, standing, if_pos stands, List.reverse_cons, List.findSome?_append]
    by_cases applies : (r.selector.appliesTo h mode).value = true
    · rw [if_pos ⟨stands, applies⟩]
      simp [supply, applies]
    · rw [if_neg fun all => applies all.2]
      simp [supply, applies]
  · rw [supply, standing, if_neg stands, if_neg fun all => stands all.1, Option.or_none]
    rfl

theorem Registration.isSome_group (accepted : r.Accepted)
    (leads : ∃ s ∈ r.specs, s.leading? = some c) : (r.group.get? c).isSome = true := by
  obtain ⟨g, hg⟩ := accepted
  rw [Registration.group_eq hg]
  exact (isSome_compileRules hg c).mpr leads

theorem supply_eq_none {rs : List Registration} (none : ∀ i r, ¬ Supplies rs h mode c i r) :
    supply h mode c rs = .none := by
  induction rs with
  | nil => rfl
  | cons x later ih =>
    rw [supply_cons, ih fun i q hq => none (i + 1) q (supplies_succ.mpr hq), Option.none_or]
    split
    · rename_i stands
      obtain ⟨⟨⟨g, hg⟩, last⟩, applies⟩ := stands
      rw [Registration.group_eq hg, ← Option.not_isSome_iff_eq_none, isSome_compileRules hg c]
      intro leads
      exact none 0 x (supplies_zero.mpr ⟨rfl, ⟨g, hg⟩, last,
        (ModeSelector.value_appliesTo_iff ..).mp applies, leads⟩)
    · rfl

theorem supply_eq_newest {rs : List Registration} {i : Nat}
    (newest : SuppliesNewest rs h mode c i r) : supply h mode c rs = r.group.get? c := by
  induction rs generalizing i with
  | nil => simpa using newest.1.made
  | cons x later ih =>
    rw [supply_cons]
    cases i with
    | zero =>
      obtain ⟨rfl, accepted, last, applies, leads⟩ := supplies_zero.mp newest.1
      have nothing : supply h mode c later = none := by
        apply supply_eq_none
        intro j q hq
        have := newest.2 (j + 1) q (supplies_succ.mpr hq)
        omega
      rw [nothing, Option.none_or,
        if_pos ⟨⟨accepted, last⟩, (ModeSelector.value_appliesTo_iff ..).mpr applies⟩]
    | succ i =>
      have newest' : SuppliesNewest later h mode c i r := by
        refine ⟨supplies_succ.mp newest.1, fun j q hq => ?_⟩
        have := newest.2 (j + 1) q (supplies_succ.mpr hq)
        omega
      rw [ih newest', Option.or_of_isSome]
      exact Registration.isSome_group newest.1.accepted newest.1.leads

end Supply

/-- Whatever was asked before, a table that is generated has for every leading character the
pattern that the newest registration in question compiled, and no entry where there is none. -/
theorem generated_entry_newest (history : List Request) (mode : Mode) :
    let table := ((RuleTables.run history).generate mode).value.1.value
    table.mode = mode ∧ ∀ c,
      (∀ i r, SuppliesNewest (registrations history) (hierarchyOf history) mode c i r →
        ∃ g p, compileRules r.expander r.specs = .ok g ∧ g.get? c = some p ∧
          table.get? c = some p) ∧
      ((∀ i r, ¬ Supplies (registrations history) (hierarchyOf history) mode c i r) →
        table.get? c = none) := by
  intro table
  have built : table = _ := RuleTables.generate_run_eq_build history mode
  have entry : ∀ c, table.get? c =
      supply (hierarchyOf history) mode c (registrations history) := by
    intro c
    rw [built]
    exact get?_buildTable (RuleTables.reflects_run history) mode c
  refine ⟨by rw [built]; rfl, fun c => ⟨?_, ?_⟩⟩
  · intro i r newest
    obtain ⟨g, hg⟩ := newest.1.accepted
    obtain ⟨p, hp⟩ := Option.isSome_iff_exists.mp
      (Registration.isSome_group newest.1.accepted newest.1.leads)
    rw [entry, supply_eq_newest newest]
    rw [Registration.group_eq hg] at hp ⊢
    exact ⟨g, p, hg, hp, hp⟩
  · intro none
    rw [entry]
    exact supply_eq_none none

end Ligature.Rules
