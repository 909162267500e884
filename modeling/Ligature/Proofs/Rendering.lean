import Ligature.Proofs.ExpressionReading
import Ligature.Rules.Spec

/-!
# Rendered patterns

The regex text of a pattern is read as a choice of its regexes followed by its literal tails, the
longest first, provided the regexes may be joined. What the regexes are read as is given; literal
tails are escaped and may always be joined.
-/
namespace Ligature.Rules

open Regex (Pattern Reader Syntax Flags Joinable Cursor groupTree)
open Fragment (holding)

namespace CompiledPattern

def tails (p : CompiledPattern) : List (List Char) := byLength (p.literals.map String.toList)

def tailReaders (p : CompiledPattern) : List Reader :=
  p.tails.map fun t => holding (t.map (Syntax.literal · false))

/-- What the groups of a pattern are read as, given this for its regexes. A pattern without groups
is one empty text. -/
def groupReaders (p : CompiledPattern) (es : List Reader) : List Reader :=
  if p.hasRegexes || p.hasLiterals then
    (if p.hasRegexes then [Reader.ofGroup es] else []) ++
      if p.hasLiterals then [Reader.ofGroup p.tailReaders] else []
  else [holding []]

def groupPatterns (p : CompiledPattern) (outs : List (List Pattern × Flags)) : List Pattern :=
  if p.hasRegexes || p.hasLiterals then
    (if p.hasRegexes then [.alternation (outs.flatMap (·.1))] else []) ++
      if p.hasLiterals then [.choice (p.tails.map .ofText)] else []
  else [.empty]

theorem groupReaders_ne_nil (p : CompiledPattern) (es : List Reader) : p.groupReaders es ≠ [] := by
  unfold groupReaders
  cases p.hasRegexes <;> cases p.hasLiterals <;> simp

theorem mem_tails {p : CompiledPattern} {t : List Char} :
    t ∈ p.tails ↔ ∃ s ∈ p.literals, s.toList = t := by
  simp [tails, byLength]

theorem tails_ne_nil {p : CompiledPattern} (literals : p.hasLiterals = true) : p.tails ≠ [] := by
  intro none
  have some : p.literals ≠ [] := by simpa [hasLiterals] using literals
  obtain ⟨t, rest, front⟩ := List.exists_cons_of_ne_nil some
  have mem : t.toList ∈ p.tails := mem_tails.mpr ⟨t, by simp [front], rfl⟩
  rw [none] at mem
  cases mem

theorem tails_eq_nil {p : CompiledPattern} (none : p.hasLiterals = false) : p.tails = [] := by
  have blank : p.literals = [] := by simpa [hasLiterals] using none
  simp [tails, blank, byLength]

/-! ### Reading -/

theorem joinable_tails (p : CompiledPattern) :
    Joinable .alternation (p.tails.map Regex.escape) p.tailReaders
      (p.tails.map fun t => ([.ofText t], Flags.initial)) :=
  Fragment.joinable_of_yields (fun t _ => Fragment.yields_text t) fun t _ => Fragment.resolve_text t

theorem joinable_groups (p : CompiledPattern) {es : List Reader}
    {outs : List (List Pattern × Flags)}
    (regexes : Joinable .alternation (p.regexes.map String.toList) es outs) :
    ∃ css, joinWith ['|'] css = joinWith ['|'] p.groups ∧
      Joinable .alternation css (p.groupReaders es)
        ((p.groupPatterns outs).map fun q => ([q], Flags.initial)) := by
  have filled : p.hasRegexes = true → es ≠ [] := by
    rintro some rfl
    have fits := regexes.fits
    cases h : p.regexes with
    | nil => simp [hasRegexes, h] at some
    | cons =>
      rw [h] at fits
      cases fits
  have filled' : p.hasLiterals = true → p.tailReaders ≠ [] := by
    intro some
    simpa [tailReaders] using tails_ne_nil some
  have flat : (p.tails.map fun t => ([Pattern.ofText t], Flags.initial)).flatMap (·.1) =
      p.tails.map .ofText := by
    rw [List.flatMap_map, List.map_eq_flatMap]
  have nameless : (Reader.ofGroup p.tailReaders).names = [] := by
    refine Reader.namesBefore_of_nameless ?_ []
    intro e he
    obtain ⟨t, -, rfl⟩ := List.mem_map.mp he
    rfl
  have alone : ∀ p, Pattern.alternation [p] = p := fun _ => rfl
  unfold groupReaders groupPatterns groups
  cases hr : p.hasRegexes <;> cases hl : p.hasLiterals
  · have blank : Joinable .alternation [[]] [holding []] [([Pattern.empty], .initial)] :=
      @Fragment.joinable_of_yields .alternation _ [[]] _ _ _ (fun t _ => Fragment.yields_text t)
        fun t _ => Fragment.resolve_text t
    exact ⟨[[]], rfl, blank⟩
  · have group := (joinable_tails p).group alone (filled' hl)
    rw [flat, Pattern.alternation_texts] at group
    exact ⟨_, rfl, group⟩
  · have group := regexes.group alone (filled hr)
    exact ⟨_, rfl, group⟩
  · have first := regexes.group alone (filled hr)
    have second := (joinable_tails p).group alone (filled' hl)
    rw [flat, Pattern.alternation_texts] at second
    refine ⟨_, rfl, first.append second nameless ?_ ?_⟩
    · simp [Reader.ofGroup]
    · simp

def meaning (p : CompiledPattern) (outs : List (List Pattern × Flags)) : Pattern :=
  .choice (p.groupPatterns outs)

theorem alternation_groupPatterns (p : CompiledPattern) (outs : List (List Pattern × Flags)) :
    Pattern.alternation (p.groupPatterns outs) = p.meaning outs := by
  unfold meaning groupPatterns
  cases hr : p.hasRegexes <;> cases hl : p.hasLiterals
  · rfl
  · rfl
  · rfl
  · exact Pattern.alternation_before_texts _ (tails_ne_nil hl)

/-- A rendered pattern can be read, alone and anchored, if its regexes may be joined. -/
theorem render_reads (p : CompiledPattern) {es : List Reader} {outs : List (List Pattern × Flags)}
    (regexes : Joinable .alternation (p.regexes.map String.toList) es outs) :
    Syntax.parse p.render = .ok (groupTree (p.groupReaders es)) ∧
      Syntax.parse ('^' :: p.render) =
        .ok (.concat [.assertion .startLine, groupTree (p.groupReaders es)]) ∧
      (groupTree (p.groupReaders es)).translate .initial = .ok (p.meaning outs, .initial) := by
  obtain ⟨css, text, joinable⟩ := p.joinable_groups regexes
  have filled := p.groupReaders_ne_nil es
  have flat : ((p.groupPatterns outs).map fun q => ([q], Flags.initial)).flatMap (·.1) =
      p.groupPatterns outs := by
    rw [List.flatMap_map, List.flatMap_singleton']
  have resolves := joinable.resolve_groupTree (fun _ => rfl) filled
  rw [flat, alternation_groupPatterns] at resolves
  rw [render, ← text]
  exact ⟨joinable.parse filled, joinable.parse_anchored filled, resolves⟩

theorem translate_anchored {tree : Syntax} {p : Pattern}
    (translates : tree.translate .initial = .ok (p, .initial)) :
    (Syntax.concat [.assertion .startLine, tree]).translate .initial =
      .ok (Pattern.append (.look Pattern.textStart) p, .initial) := by
  have mode : Regex.Assertion.look .initial .startLine = Pattern.textStart := rfl
  simp [Syntax.resolveWith, Syntax.resolveListWith, translates, mode, Except.bind, Except.map,
    Pattern.sequence]

/-! ### Matching -/

theorem matchEnd?_alternation_nil (c : Cursor) :
    (Pattern.alternation []).matchEnd? c = none :=
  Pattern.matchEnd?_choice [] c

/-- What the regexes match decides, or else the first tail that comes next. A pattern without any of
them matches the empty text. -/
theorem matchEnd?_meaning (p : CompiledPattern) {outs : List (List Pattern × Flags)}
    (regexes : outs.length = p.regexes.length) (c : Cursor) :
    (p.meaning outs).matchEnd? c =
      if p.hasRegexes || p.hasLiterals then
        ((Pattern.alternation (outs.flatMap (·.1))).matchEnd? c).or (p.tails.findSome? c.past?)
      else some c := by
  have none : p.hasRegexes = false → outs = [] := by
    intro none
    have blank : p.regexes = [] := by simpa [hasRegexes] using none
    simpa [blank] using regexes
  have second : (Pattern.choice (p.tails.map .ofText)).matchEnd? c =
      p.tails.findSome? c.past? := by
    simp only [Pattern.matchEnd?_choice, List.findSome?_map, Function.comp_def,
      Pattern.matchEnd?_ofText]
  unfold meaning groupPatterns
  cases hr : p.hasRegexes <;> cases hl : p.hasLiterals
  · simp [Pattern.choice]
  · simp [none hr, Pattern.choice, second, matchEnd?_alternation_nil]
  · simp [tails_eq_nil hl, Pattern.choice]
  · simp [Pattern.choice, Pattern.matchEnd?_alt, second]

theorem past?_of_prefix {text tail : List Char} (front : tail <+: text) :
    ∃ d, (Cursor.start text).past? tail = some d :=
  Option.isSome_iff_exists.mp (Cursor.isSome_past?.mpr front)

theorem past?_of_not_prefix {text tail : List Char} (other : ¬ tail <+: text) :
    (Cursor.start text).past? tail = none := by
  have := mt (Cursor.isSome_past? (c := .start text)).mp other
  simpa using this

theorem findSome?_tails {p : CompiledPattern} {text : List Char} {s : String}
    (mem : s ∈ p.literals) (front : s.toList <+: text)
    (longest : ∀ u ∈ p.literals, u.toList <+: text → u.toList.length ≤ s.toList.length) :
    p.tails.findSome? (Cursor.start text).past? = (Cursor.start text).past? s.toList := by
  have sorted : p.tails.Pairwise fun a b => b.length ≤ a.length := by
    let le (a b : List Char) : Bool := b.length ≤ a.length
    have transitive : ∀ a b c, le a b → le b c → le a c := by
      intro a b c
      simp only [le, decide_eq_true_eq]
      omega
    have total : ∀ a b, le a b || le b a := by
      intro a b
      simp only [le, Bool.or_eq_true, decide_eq_true_eq]
      omega
    have pairs := List.pairwise_mergeSort transitive total (p.literals.map String.toList)
    simpa [tails, byLength, le] using pairs
  have here := mem_tails.mpr ⟨s, mem, rfl⟩
  obtain ⟨d, past⟩ := past?_of_prefix front
  cases found : p.tails.findSome? (Cursor.start text).past? with
  | none =>
    have miss := List.findSome?_eq_none_iff.mp found _ here
    rw [miss] at past
    cases past
  | some e =>
    obtain ⟨before, a, behind, split, first, missed⟩ := List.findSome?_eq_some_iff.mp found
    have front' : a <+: text := Cursor.isSome_past?.mp (by rw [first]; rfl)
    -- What is found is no longer than `s`, and `s` was not passed over, so they are the same.
    obtain ⟨u, hu, rfl⟩ := mem_tails.mp (split ▸ List.mem_append_right _ List.mem_cons_self)
    have shorter := longest u hu front'
    rw [split] at here sorted
    have longer : s.toList.length ≤ u.toList.length := by
      rcases List.mem_append.mp here with earlier | later
      · rw [missed _ earlier] at past
        cases past
      · rcases List.mem_cons.mp later with same | later
        · exact Nat.le_of_eq (congrArg List.length same)
        · exact (List.pairwise_cons.mp (List.pairwise_append.mp sorted).2.1).1 _ later
    have same := (List.prefix_of_prefix_length_le front front' longer).eq_of_length (by omega)
    rw [same, first]

theorem findSome?_tails_eq_none {p : CompiledPattern} {text : List Char}
    (none : ∀ s ∈ p.literals, ¬ s.toList <+: text) :
    p.tails.findSome? (Cursor.start text).past? = Option.none := by
  refine List.findSome?_eq_none_iff.mpr fun t ht => ?_
  obtain ⟨s, hs, rfl⟩ := mem_tails.mp ht
  exact past?_of_not_prefix (none s hs)

end CompiledPattern

end Ligature.Rules
