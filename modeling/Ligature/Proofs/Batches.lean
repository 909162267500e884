import Mathlib.Data.List.Forall2
import Ligature.Proofs.Refusals

/-!
# What a batch compiles to

The group of a batch has an entry for each leading character: the tails of its literals and the
texts of its patterns, each in the order given and as often as they were given. So a batch may be
cut in two, and literals may be moved past patterns and past what leads with another character.
-/
namespace Ligature.Rules

/-! ### What leads with a character -/

def Spec.tail? (c : Char) : Spec → Option (List Char)
  | .literal text => match text.toList with
    | d :: tail => if d = c then some tail else none
    | [] => none
  | .pattern _ _ => none

def tailsOf (c : Char) (specs : List Spec) : List (List Char) := specs.filterMap (Spec.tail? c)

def Spec.pattern? (c : Char) : Spec → Option PatternSource
  | .literal _ => none
  | .pattern d source => if d = c then some source else none

def patternsOf (c : Char) (specs : List Spec) : List PatternSource :=
  specs.filterMap (Spec.pattern? c)

def PatternSource.text (expand : Expander) : PatternSource → Except ExpansionError String
  | .regex source => .ok source
  | .expr e => expand e

def PatternSource.Yields (expand : Expander) (source : PatternSource) (text : String) : Prop :=
  source.text expand = .ok text

section Batch

variable {expand : Expander} {g g' both : RuleGroup} {s : Spec} {specs specs' : List Spec}
  {c : Char}

theorem compileRules_snoc_eq_ok_iff :
    compileRules expand (specs ++ [s]) = .ok g' ↔
      ∃ g, compileRules expand specs = .ok g ∧ addSpec expand g s = .ok g' := by
  rw [compileRules, List.foldlM_append, ← compileRules]
  simp only [List.foldlM_cons, List.foldlM_nil, bind_pure]
  cases compileRules expand specs with
  | error e => simp [bind, Except.bind]
  | ok g => simp [bind, Except.bind]

/-! ### Literal tails -/

def RuleGroup.tails (g : RuleGroup) (c : Char) : List (List Char) :=
  ((g.get? c).getD .empty).literals.map String.toList

theorem tails_extend_addRegex (g : RuleGroup) (d : Char) (source : String) (c : Char) :
    (g.extend d (·.addRegex source)).tails c = g.tails c := by
  by_cases same : d = c
  · subst same
    simp [RuleGroup.tails, RuleGroup.extend, CompiledPattern.addRegex]
  · simp [RuleGroup.tails, RuleGroup.extend, same]

theorem tails_extend_addLiteral (g : RuleGroup) (d : Char) (tail : List Char) (c : Char) :
    (g.extend d (·.addLiteral (String.ofList tail))).tails c =
      g.tails c ++ if d = c then [tail] else [] := by
  by_cases same : d = c
  · subst same
    simp [RuleGroup.tails, RuleGroup.extend, CompiledPattern.addLiteral]
  · simp [RuleGroup.tails, RuleGroup.extend, same]

theorem tails_addSpec (h : addSpec expand g s = .ok g') (c : Char) :
    g'.tails c = g.tails c ++ (s.tail? c).toList := by
  unfold addSpec at h
  split at h
  · split at h
    · rename_i text d e tail cs
      cases h
      rw [tails_extend_addLiteral]
      by_cases same : d = c <;> simp [Spec.tail?, cs, same]
    · cases h
  · cases h
    rw [tails_extend_addRegex]
    simp [Spec.tail?]
  · split at h
    · cases h
      rw [tails_extend_addRegex]
      simp [Spec.tail?]
    · cases h

theorem tails_compileRules (h : compileRules expand specs = .ok g) (c : Char) :
    g.tails c = tailsOf c specs := by
  induction specs using List.reverseRecOn generalizing g with
  | nil =>
    cases h
    rfl
  | append_singleton specs s ih =>
    obtain ⟨g₀, before, added⟩ := compileRules_snoc_eq_ok_iff.mp h
    rw [tails_addSpec added, ih before, tailsOf, tailsOf, List.filterMap_append]
    cases own : s.tail? c <;> simp [own]

theorem leading?_eq_some_iff : s.leading? = some c ↔
    (s.tail? c).isSome = true ∨ (s.pattern? c).isSome = true := by
  cases s with
  | literal text =>
    cases cs : text.toList with
    | nil => simp [Spec.leading?, Spec.tail?, Spec.pattern?, cs]
    | cons d tail =>
      by_cases same : d = c <;> simp [Spec.leading?, Spec.tail?, Spec.pattern?, cs, same]
  | pattern d source =>
    by_cases same : d = c <;> simp [Spec.leading?, Spec.tail?, Spec.pattern?, same]

theorem led_iff : (∃ s ∈ specs, s.leading? = some c) ↔
    tailsOf c specs ≠ [] ∨ patternsOf c specs ≠ [] := by
  simp only [leading?_eq_some_iff, tailsOf, patternsOf, ne_eq, List.filterMap_eq_nil_iff,
    not_forall, Option.isSome_iff_ne_none, and_or_left, exists_or, exists_prop]

theorem ne_nil_of_mem_tailsOf (h : compileRules expand specs = .ok g) {tail : List Char}
    (mem : tail ∈ tailsOf c specs) : tail ≠ [] := by
  rintro rfl
  -- A literal with nothing behind its leading character would have had the batch refused.
  obtain ⟨s, hs, own⟩ := List.mem_filterMap.mp mem
  have accepted : ∀ e, ¬ s.Refused expand e := by
    intro e refused
    obtain ⟨e', first⟩ := exists_firstRefused_iff.mpr ⟨s, hs, e, refused⟩
    exact nomatch h.symm.trans (compileRules_eq_error_iff.mpr first)
  unfold Spec.tail? at own
  split at own
  · rename_i text
    split at own
    · rename_i d tail cs
      split at own
      · cases own
        refine accepted _ (.short ?_)
        rw [← String.length_toList, cs]
        exact Nat.lt_succ_self 1
      · cases own
    · cases own
  · cases own

/-! ### Regex texts -/

def RuleGroup.sources (g : RuleGroup) (c : Char) : List String :=
  ((g.get? c).getD .empty).regexes

theorem sources_extend_addLiteral (g : RuleGroup) (d : Char) (tail : String) (c : Char) :
    (g.extend d (·.addLiteral tail)).sources c = g.sources c := by
  by_cases same : d = c
  · subst same
    simp [RuleGroup.sources, RuleGroup.extend, CompiledPattern.addLiteral]
  · simp [RuleGroup.sources, RuleGroup.extend, same]

theorem sources_extend_addRegex (g : RuleGroup) (d : Char) (source : String) (c : Char) :
    (g.extend d (·.addRegex source)).sources c =
      g.sources c ++ if d = c then [source] else [] := by
  by_cases same : d = c
  · subst same
    simp [RuleGroup.sources, RuleGroup.extend, CompiledPattern.addRegex]
  · simp [RuleGroup.sources, RuleGroup.extend, same]

theorem sources_addSpec (h : addSpec expand g s = .ok g') (c : Char) :
    ∃ texts, List.Forall₂ (PatternSource.Yields expand) (s.pattern? c).toList texts ∧
      g'.sources c = g.sources c ++ texts := by
  cases s with
  | literal text =>
    simp only [addSpec] at h
    split at h
    · cases h
      exact ⟨[], .nil, by rw [sources_extend_addLiteral, List.append_nil]⟩
    · cases h
  | pattern d source =>
    obtain ⟨text, yields, rfl⟩ : ∃ text, source.Yields expand text ∧
        g.extend d (·.addRegex text) = g' := by
      cases source with
      | regex text =>
        cases h
        exact ⟨text, rfl, rfl⟩
      | expr e =>
        simp only [addSpec] at h
        split at h
        · rename_i text expanded
          cases h
          exact ⟨text, expanded, rfl⟩
        · cases h
    refine ⟨if d = c then [text] else [], ?_, sources_extend_addRegex g d text c⟩
    by_cases same : d = c
    · simpa [Spec.pattern?, same] using yields
    · simp [Spec.pattern?, same]

theorem sources_compileRules (h : compileRules expand specs = .ok g) (c : Char) :
    List.Forall₂ (PatternSource.Yields expand) (patternsOf c specs) (g.sources c) := by
  induction specs using List.reverseRecOn generalizing g with
  | nil =>
    cases h
    exact .nil
  | append_singleton specs s ih =>
    obtain ⟨g₀, before, added⟩ := compileRules_snoc_eq_ok_iff.mp h
    obtain ⟨texts, yields, same⟩ := sources_addSpec added c
    have split : patternsOf c (specs ++ [s]) = patternsOf c specs ++ (s.pattern? c).toList := by
      rw [patternsOf, patternsOf, List.filterMap_append]
      cases own : s.pattern? c <;> simp [own]
    rw [split, same]
    exact List.rel_append (ih before) yields

theorem texts_unique {sources : List PatternSource} {texts texts' : List String}
    (h : List.Forall₂ (PatternSource.Yields expand) sources texts)
    (h' : List.Forall₂ (PatternSource.Yields expand) sources texts') : texts = texts' := by
  induction h generalizing texts' with
  | nil =>
    cases h'
    rfl
  | cons first _ ih =>
    cases h' with
    | cons first' rest' =>
      rw [Except.ok.inj (first.symm.trans first'), ih rest']

/-! ### Groups by their entries -/

theorem get?_eq_of_parts (filed : (g.get? c).isSome = (g'.get? c).isSome)
    (tails : g.tails c = g'.tails c) (sources : g.sources c = g'.sources c) :
    g.get? c = g'.get? c := by
  unfold RuleGroup.tails at tails
  unfold RuleGroup.sources at sources
  cases own : g.get? c with
  | none =>
    cases own' : g'.get? c with
    | none => rfl
    | some p' => simp [own, own'] at filed
  | some p =>
    cases own' : g'.get? c with
    | none => simp [own, own'] at filed
    | some p' =>
      rw [own, own'] at tails sources
      have literals : p.literals = p'.literals :=
        List.map_injective_iff.mpr (fun _ _ => String.toList_inj.mp) tails
      obtain ⟨regexes, _⟩ := p
      cases literals
      cases sources
      rfl

/-- Literals and patterns may be interleaved in any way. -/
theorem compileRules_interleaved (h : compileRules expand specs = .ok g)
    (h' : compileRules expand specs' = .ok g')
    (same : ∀ c, tailsOf c specs = tailsOf c specs' ∧ patternsOf c specs = patternsOf c specs') :
    g = g' := by
  refine CharMap.eq_of_get? fun c => ?_
  obtain ⟨tails, patterns⟩ := same c
  have sources := sources_compileRules h' c
  rw [← patterns] at sources
  refine get?_eq_of_parts ?_ ?_ (texts_unique (sources_compileRules h c) sources)
  · rw [Bool.eq_iff_iff, isSome_compileRules h, isSome_compileRules h', led_iff, led_iff,
      tails, patterns]
  · rw [tails_compileRules h, tails_compileRules h', tails]

/-! ### One batch after another -/

def CompiledPattern.append (p p' : CompiledPattern) : CompiledPattern :=
  ⟨p.regexes ++ p'.regexes, p.literals ++ p'.literals⟩

theorem exists_compileRules_iff :
    (∃ g, compileRules expand specs = .ok g) ↔ ∀ s ∈ specs, ∀ e, ¬ s.Refused expand e := by
  have refused : (∃ e, compileRules expand specs = .error e) ↔
      ∃ s ∈ specs, ∃ e, s.Refused expand e := by
    rw [← exists_firstRefused_iff]
    exact exists_congr fun e => compileRules_eq_error_iff
  have passed := not_congr refused
  push Not at passed
  rw [← passed]
  cases compileRules expand specs <;> simp

theorem exists_compileRules_append_iff :
    (∃ g, compileRules expand (specs ++ specs') = .ok g) ↔
      (∃ g, compileRules expand specs = .ok g) ∧ ∃ g, compileRules expand specs' = .ok g := by
  simp only [exists_compileRules_iff, List.mem_append, or_imp, forall_and]

theorem get?_compileRules_append (h : compileRules expand specs = .ok g)
    (h' : compileRules expand specs' = .ok g')
    (together : compileRules expand (specs ++ specs') = .ok both) (c : Char) :
    both.get? c = Option.merge CompiledPattern.append (g.get? c) (g'.get? c) := by
  let joined : RuleGroup :=
    match Option.merge CompiledPattern.append (g.get? c) (g'.get? c) with
    | none => .empty
    | some p => CharMap.empty.insert c p
  have own : joined.get? c = Option.merge CompiledPattern.append (g.get? c) (g'.get? c) := by
    unfold joined
    split
    · rename_i none
      rw [none, CharMap.get?_empty]
    · rename_i p some
      rw [some, CharMap.get?_insert, if_pos rfl]
  rw [← own]
  refine get?_eq_of_parts ?_ ?_ ?_
  · rw [own, Bool.eq_iff_iff, isSome_compileRules together]
    simp only [List.mem_append, or_and_right, exists_or, ← isSome_compileRules h,
      ← isSome_compileRules h']
    cases g.get? c <;> cases g'.get? c <;> simp
  · have tails : joined.tails c = g.tails c ++ g'.tails c := by
      unfold RuleGroup.tails
      rw [own]
      cases g.get? c <;> cases g'.get? c <;> simp [CompiledPattern.append, CompiledPattern.empty]
    rw [tails, tails_compileRules together, tails_compileRules h, tails_compileRules h', tailsOf,
      List.filterMap_append]
    rfl
  · have sources : joined.sources c = g.sources c ++ g'.sources c := by
      unfold RuleGroup.sources
      rw [own]
      cases g.get? c <;> cases g'.get? c <;> simp [CompiledPattern.append, CompiledPattern.empty]
    have each := List.rel_append (sources_compileRules h c) (sources_compileRules h' c)
    have whole := sources_compileRules together c
    rw [patternsOf, List.filterMap_append] at whole
    rw [sources]
    exact texts_unique whole each

end Batch

/-- A batch that compiles files each specification under its leading character and nowhere else,
with its literals and its patterns each in the order given. How the two are interleaved makes no
difference, and a batch may be cut in two anywhere. -/
theorem batch_entries (expand : Expander) (specs specs' : List Spec) :
    (∀ g, compileRules expand specs = .ok g →
      (∀ c, (g.get? c).isSome = true ↔ ∃ s ∈ specs, s.leading? = some c) ∧
      (∀ c p, g.get? c = some p →
        p.literals.map String.toList = tailsOf c specs ∧ [] ∉ tailsOf c specs ∧
        List.Forall₂ (PatternSource.Yields expand) (patternsOf c specs) p.regexes) ∧
      ∀ g', compileRules expand specs' = .ok g' →
        (∀ c, tailsOf c specs = tailsOf c specs' ∧ patternsOf c specs = patternsOf c specs') →
        g = g') ∧
    ((∃ g, compileRules expand (specs ++ specs') = .ok g) ↔
      (∃ g, compileRules expand specs = .ok g) ∧ ∃ g, compileRules expand specs' = .ok g) ∧
    ∀ g g' both, compileRules expand specs = .ok g → compileRules expand specs' = .ok g' →
      compileRules expand (specs ++ specs') = .ok both → ∀ c,
        both.get? c = Option.merge CompiledPattern.append (g.get? c) (g'.get? c) := by
  refine ⟨fun g h => ⟨isSome_compileRules h, fun c p own => ?_, fun g' h' => ?_⟩,
    exists_compileRules_append_iff, fun g g' both h h' => get?_compileRules_append h h'⟩
  · have tails := tails_compileRules h c
    have sources := sources_compileRules h c
    rw [RuleGroup.tails, own] at tails
    rw [RuleGroup.sources, own] at sources
    exact ⟨tails, fun mem => ne_nil_of_mem_tailsOf h mem rfl, sources⟩
  · exact compileRules_interleaved h h'

end Ligature.Rules
