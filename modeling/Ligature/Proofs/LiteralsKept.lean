import Ligature.Proofs.LongestLiteral

/-!
# Literals beside regexes

The regexes of a leading character are tried before its literals, and an empty match is no
ligature. So a literal makes a ligature wherever it stands, of its own or of greater or lesser
length, unless the regexes match the empty text there. This takes regexes that stay within their
group: one that ends in a comment may swallow the literals behind it.
-/
namespace Ligature.Rules.CompiledPattern

open Regex (Cursor Joinable Pattern Separable)

variable {p : CompiledPattern}

def joinedRegexes (p : CompiledPattern) : List Char := joinWith ['|'] (p.regexes.map String.toList)

def merged (p : CompiledPattern) : CompiledPattern :=
  if p.hasRegexes then ⟨[String.ofList p.joinedRegexes], p.literals⟩ else p

def regexesEnd? (p : CompiledPattern) (text : List Char) : Option Cursor :=
  if p.hasRegexes then Regex.ownEnd? (.start text) p.joinedRegexes else none

@[simp] theorem literals_merged (p : CompiledPattern) : p.merged.literals = p.literals := by
  unfold merged
  split <;> rfl

theorem tails_merged (p : CompiledPattern) : p.merged.tails = p.tails := by
  rw [tails, tails, literals_merged]

theorem render_merged (p : CompiledPattern) : p.merged.render = p.render := by
  unfold merged
  split
  · rename_i some
    simp [render, groups, hasRegexes, hasLiterals, joinedRegexes, joinWith] at some ⊢
    simp [some]
  · rfl

theorem regexes_merged (p : CompiledPattern) :
    p.merged.regexes.map String.toList = if p.hasRegexes then [p.joinedRegexes] else [] := by
  unfold merged
  split
  · simp
  · rename_i none
    simpa [hasRegexes] using none

theorem separable_merged (contained : Separable [p.joinedRegexes]) :
    Separable (p.merged.regexes.map String.toList) := by
  rw [regexes_merged]
  split
  · exact contained
  · exact ⟨by simp, by simp, by simp, by simp, .nil⟩

/-- What the regexes match by themselves comes first, and then the longest tail. -/
theorem matchEnd?_merged (contained : Separable [p.joinedRegexes]) {t : String}
    (mem : t ∈ p.literals) (text : List Char) :
    (p.merged.meaning ((p.merged.regexes.map String.toList).map Regex.branchesOf)).matchEnd?
      (.start text) = (p.regexesEnd? text).or (p.tails.findSome? (Cursor.start text).past?) := by
  have some : p.merged.hasLiterals = true := by
    simp [hasLiterals, List.ne_nil_of_mem mem]
  have alone : Regex.FairlyJoined (p.merged.regexes.map String.toList) := by
    intro several
    rw [regexes_merged] at several
    split at several <;> simp at several
  rw [matchEnd?_meaning _ (by simp), some, Bool.or_true, if_pos rfl,
    Regex.matchEnd?_branchesOf (separable_merged contained).own alone, regexes_merged, regexesEnd?,
    tails_merged]
  split <;> simp

end Ligature.Rules.CompiledPattern

namespace Ligature.Dispatch.Matcher

open Ligature.Regex (Cursor Pattern Separable)
open Rules (CompiledPattern Expander RuleGroup Spec Table longestFront?)

variable {p : CompiledPattern} {rest : List Char}

theorem lengthTo_ne_start {stop : Cursor} (ahead : (Cursor.start rest).Ahead stop)
    (moved : stop ≠ .start rest) : ∃ n, lengthTo rest stop = some n ∧ 2 ≤ n := by
  have less : stop.left ≤ rest.length := ahead.left_le
  have other : stop.left ≠ rest.length := fun same =>
    moved (ahead.eq_of_left_eq (.here _) same)
  refine ⟨_, if_neg (by omega), ?_⟩
  omega

theorem ahead_of_regexesEnd? {stop : Cursor} (ends : p.regexesEnd? rest = some stop) :
    (Cursor.start rest).Ahead stop := by
  unfold CompiledPattern.regexesEnd? at ends
  split at ends
  · obtain ⟨q, -, stops⟩ := Option.bind_eq_some_iff.mp ends
    obtain ⟨e, first, rfl⟩ := Option.map_eq_some_iff.mp stops
    exact q.forward_walk _ _ e (List.mem_of_mem_head? first)
  · cases ends

theorem lengthTo_tails_of_prefix (solid : ∀ s ∈ p.literals, s.toList ≠ []) {s : String}
    (mem : s ∈ p.literals) (front : s.toList <+: rest) :
    ∃ n, (p.tails.findSome? (Cursor.start rest).past?).bind (lengthTo rest) = some n ∧ 2 ≤ n := by
  rw [lengthTo_tails solid]
  cases longest : longestFront? (p.literals.map String.toList) rest with
  | none =>
    exact absurd front (Rules.longestFront?_eq_none_iff.mp longest _ (List.mem_map_of_mem mem))
  | some k =>
    have most := (Rules.longestFront?_eq_some_iff.mp longest).2 _ (List.mem_map_of_mem mem) front
    have filled := List.length_pos_iff.mpr (solid s mem)
    refine ⟨1 + k, rfl, ?_⟩
    omega

/-- Wherever a literal of a batch stands there is a ligature, as long as the regexes of its leading
character stay within their group; only an empty match of the regexes comes before it. -/
theorem literal_kept {t : Table} {cache : RegexCache} {expand : Expander} {specs : List Spec}
    {g : RuleGroup} {literal : String} {c : Char} {q : Pattern} {text : List Char} {i : Nat}
    (reachable : cache.Reachable) (registered : Rules.compileRules expand specs = .ok g)
    (given : Spec.literal literal ∈ specs) (leads : literal.toList.head? = some c)
    (own : g.get? c = some p) (entry : t.get? c = some p)
    (compiled : Pattern.compile ('^' :: p.render) = .ok q)
    (contained : Separable [p.joinedRegexes]) (here : literal.toList <+: text.drop i) :
    let m := (ofTable t cache).value.1
    let rest := text.drop (i + 1)
    (p.regexesEnd? rest = some (.start rest) → m.lengthAt text i = none) ∧
      (p.regexesEnd? rest ≠ some (.start rest) → ∃ n, m.lengthAt text i = some n ∧ 2 ≤ n) := by
  intro m rest
  obtain ⟨tail, text_eq⟩ : ∃ tail, literal.toList = c :: tail := by
    cases text_eq : literal.toList with
    | nil => simp [text_eq] at leads
    | cons d tail =>
      rw [text_eq] at leads
      cases leads
      exact ⟨tail, rfl⟩
  obtain ⟨leading, front⟩ : text[i]? = some c ∧ tail <+: rest := by
    obtain ⟨behind, split⟩ := here
    have later : rest = (text.drop i).tail := List.tail_drop.symm
    rw [← List.head?_drop, later, ← split, text_eq]
    exact ⟨rfl, behind, rfl⟩
  have literals : p.literals.map String.toList = Rules.tailsOf c specs := by
    rw [← Rules.tails_compileRules registered c, RuleGroup.tails, own, Option.getD_some]
  have solid : ∀ s ∈ p.literals, s.toList ≠ [] := fun s hs =>
    Rules.ne_nil_of_mem_tailsOf registered (literals ▸ List.mem_map_of_mem hs)
  obtain ⟨s, mem, rfl⟩ : ∃ s ∈ p.literals, s.toList = tail := by
    refine List.mem_map.mp (literals ▸ List.mem_filterMap.mpr ⟨_, given, ?_⟩)
    rw [Spec.tail?, text_eq]
    exact if_pos rfl
  have length : m.lengthAt text i =
      ((p.regexesEnd? rest).or (p.tails.findSome? (Cursor.start rest).past?)).bind
        (lengthTo rest) := by
    have joinable := (CompiledPattern.separable_merged contained).joinable
    rw [← CompiledPattern.render_merged] at compiled
    obtain ⟨-, anchored, -⟩ := CompiledPattern.compile_anchored joinable compiled
    rw [CompiledPattern.render_merged] at compiled
    rw [lengthAt_eq leading, lengthFrom_anchored
      (get?_ofTable_of_compile reachable entry compiled) anchored,
      CompiledPattern.matchEnd?_merged contained mem]
  rw [length]
  refine ⟨fun nothing => ?_, fun moved => ?_⟩
  · rw [nothing]
    exact lengthTo_start rest
  · cases ends : p.regexesEnd? rest with
    | none =>
      rw [Option.none_or]
      exact lengthTo_tails_of_prefix solid mem front
    | some stop =>
      rw [ends] at moved
      exact lengthTo_ne_start (ahead_of_regexesEnd? ends) fun same => moved (congrArg some same)

/-- A literal between two regexes, the second of which matches the empty text elsewhere. -/
def besideSpecs : List Spec :=
  [.pattern '=' (.regex "x+?"), .literal "=>", .pattern '=' (.regex "=*>?")]

def beside : CompiledPattern := ⟨["x+?", "=*>?"], [">"]⟩

def besideGroup : RuleGroup := CharMap.empty.insert '=' beside

theorem literal_kept_beside : ∃ n,
    (ofTable ⟨"any", besideGroup.register 0⟩ (.ofCapacity 1)).value.1.lengthAt
      ['a', '=', '>', 'y'] 1 = some n ∧ 2 ≤ n := by
  have registered : Rules.compileRules Rules.expandRegex besideSpecs = .ok besideGroup := by
    decide +kernel
  have own : besideGroup.get? '=' = some beside := by decide +kernel
  have entry : (Table.mk "any" (besideGroup.register 0)).get? '=' = some beside := by
    decide +kernel
  obtain ⟨q, compiled⟩ : ∃ q, Pattern.compile ('^' :: beside.render) = .ok q :=
    Ligature.Regex.isOk_iff.mp (by decide +kernel)
  have contained : Separable [beside.joinedRegexes] := by decide +kernel
  have moved : beside.regexesEnd? ['>', 'y'] ≠ some (.start ['>', 'y']) := by decide +kernel
  have given : Spec.literal "=>" ∈ besideSpecs := by simp [besideSpecs]
  have leads : "=>".toList.head? = some '=' := by decide
  have here : "=>".toList <+: ['a', '=', '>', 'y'].drop 1 := by decide
  have kept := literal_kept (.start 1) registered given leads own entry compiled contained here
  exact kept.2 moved

/-- Wherever a literal of a batch stands there is a ligature, provided that the pattern of its
leading character compiles. -/
def KeepsLiterals (specs : List Spec) : Prop :=
  ∀ (g : RuleGroup) (literal : String) (c : Char) (p : CompiledPattern) (text : List Char)
      (i : Nat), Rules.compileRules Rules.expandRegex specs = .ok g →
    Spec.literal literal ∈ specs → literal.toList.head? = some c → g.get? c = some p →
    (Pattern.compile ('^' :: p.render)).isOk = true → literal.toList <+: text.drop i →
    ∃ n, (ofTable ⟨"any", g.register 0⟩ (.ofCapacity 1)).value.1.lengthAt text i = some n ∧ 2 ≤ n

/-- A literal is lost behind a regex that matches the empty text, that ends in a comment, or that
closes its group. -/
theorem literals_lost :
    ¬ KeepsLiterals [.pattern '=' (.regex "=*"), .literal "=>"] ∧
      ¬ KeepsLiterals [.pattern '=' (.regex "(?x)b#"), .literal "=\n"] ∧
      ¬ KeepsLiterals [.pattern '=' (.regex "a))((?:b"), .literal "=>"] := by
  have lost (source tail : String) (specs : List Spec)
      (registered : Rules.compileRules Rules.expandRegex specs =
        .ok (CharMap.empty.insert '=' ⟨[source], [tail]⟩))
      (given : Spec.literal (String.ofList ('=' :: tail.toList)) ∈ specs)
      (compiled : (Pattern.compile ('^' :: CompiledPattern.render ⟨[source], [tail]⟩)).isOk = true)
      (none : (ofTable ⟨"any", RuleGroup.register (CharMap.empty.insert '=' ⟨[source], [tail]⟩) 0⟩
        (.ofCapacity 1)).value.1.lengthAt ('=' :: tail.toList) 0 = none) :
      ¬ KeepsLiterals specs := by
    intro keeps
    have leads : (String.ofList ('=' :: tail.toList)).toList.head? = some '=' := by
      rw [String.toList_ofList, List.head?_cons]
    have own : CharMap.get? (CharMap.empty.insert '=' ⟨[source], [tail]⟩) '=' =
        some (⟨[source], [tail]⟩ : CompiledPattern) := by
      rw [CharMap.get?_insert, if_pos rfl]
    have here : (String.ofList ('=' :: tail.toList)).toList <+: ('=' :: tail.toList).drop 0 := by
      simp
    obtain ⟨n, length, -⟩ := keeps _ _ '=' _ ('=' :: tail.toList) 0 registered given leads own
      compiled here
    rw [none] at length
    cases length
  exact ⟨lost "=*" ">" _ (by decide +kernel) (by decide +kernel) (by decide +kernel)
      (by decide +kernel),
    lost "(?x)b#" "\n" _ (by decide +kernel) (by decide +kernel) (by decide +kernel)
      (by decide +kernel),
    lost "a))((?:b" ">" _ (by decide +kernel) (by decide +kernel) (by decide +kernel)
      (by decide +kernel)⟩

end Ligature.Dispatch.Matcher
