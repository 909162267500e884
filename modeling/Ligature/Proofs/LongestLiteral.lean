import Ligature.Proofs.Batches
import Ligature.Proofs.OrderedChoice

/-!
# The longest literal

The literals of a batch are filed as tails under their first characters. A leading character that
has no regexes makes a ligature with the longest of its tails that comes next, in whatever order
the literals were given, however often, and whatever characters they are made of.
-/
namespace Ligature.Rules

/-! ### The longest of some tails -/

def longestFront? (fronts : List (List Char)) (text : List Char) : Option Nat :=
  ((fronts.filter (·.isPrefixOf text)).map List.length).max?

theorem longestFront?_eq_some_iff {fronts : List (List Char)} {text : List Char} {n : Nat} :
    longestFront? fronts text = some n ↔
      (∃ front ∈ fronts, front <+: text ∧ front.length = n) ∧
        ∀ front ∈ fronts, front <+: text → front.length ≤ n := by
  rw [longestFront?, List.max?_eq_some_iff, List.forall_mem_map]
  simp only [List.mem_map, List.mem_filter, List.isPrefixOf_iff_prefix, and_assoc, and_imp]

theorem longestFront?_eq_none_iff {fronts : List (List Char)} {text : List Char} :
    longestFront? fronts text = none ↔ ∀ front ∈ fronts, ¬ front <+: text := by
  simp [longestFront?, List.filter_eq_nil_iff]

theorem longestFront?_congr {fronts fronts' : List (List Char)}
    (same : ∀ front, front ∈ fronts ↔ front ∈ fronts') (text : List Char) :
    longestFront? fronts text = longestFront? fronts' text := by
  refine Option.ext fun n => ?_
  simp only [longestFront?_eq_some_iff, same]

end Ligature.Rules

namespace Ligature.Dispatch.Matcher

open Ligature.Regex (Cursor Pattern)
open Rules (CompiledPattern Expander RuleGroup Spec Table longestFront? tailsOf)

variable {p : CompiledPattern} {rest : List Char}

theorem lengthTo_tails (solid : ∀ s ∈ p.literals, s.toList ≠ []) (rest : List Char) :
    (p.tails.findSome? (Cursor.start rest).past?).bind (lengthTo rest) =
      (longestFront? (p.literals.map String.toList) rest).map (1 + ·) := by
  cases longest : longestFront? (p.literals.map String.toList) rest with
  | none =>
    have none := Rules.longestFront?_eq_none_iff.mp longest
    have missed : ∀ s ∈ p.literals, ¬ s.toList <+: rest := fun s hs =>
      none _ (List.mem_map_of_mem hs)
    rw [CompiledPattern.findSome?_tails_eq_none missed]
    rfl
  | some n =>
    obtain ⟨⟨front, mem, comes, rfl⟩, most⟩ := Rules.longestFront?_eq_some_iff.mp longest
    obtain ⟨s, hs, rfl⟩ := List.mem_map.mp mem
    obtain ⟨stop, past⟩ := CompiledPattern.past?_of_prefix comes
    have split : rest = s.toList ++ stop.rest := Cursor.past?_eq_some past
    have size : rest.length - stop.left = s.toList.length := by
      rw [split, Cursor.left, List.length_append, Nat.add_sub_cancel]
    have filled := List.length_pos_iff.mpr (solid s hs)
    rw [CompiledPattern.findSome?_tails hs comes (List.forall_mem_map.mp most), past,
      Option.bind_some, lengthTo, size, if_neg (by omega), Option.map_some, Nat.add_comm]

/-- The longest of the tails that come next decides how long a ligature is, and none is found if
none of them does. The tails may be listed in any order and any number of times. -/
theorem lengthAt_longest_tail {t : Table} {cache : RegexCache} {expand : Expander}
    {specs : List Spec} {g : RuleGroup} {c : Char} {q : Pattern} {text : List Char} {i : Nat}
    (reachable : cache.Reachable) (registered : Rules.compileRules expand specs = .ok g)
    (own : g.get? c = some p) (entry : t.get? c = some p) (noRegexes : p.regexes = [])
    (compiled : Pattern.compile ('^' :: p.render) = .ok q) (leading : text[i]? = some c)
    (tails : List (List Char)) (same : ∀ tail, tail ∈ tails ↔ tail ∈ tailsOf c specs) :
    (ofTable t cache).value.1.lengthAt text i =
      (longestFront? tails (text.drop (i + 1))).map (1 + ·) := by
  have literals : p.literals.map String.toList = tailsOf c specs := by
    rw [← Rules.tails_compileRules registered c, RuleGroup.tails, own, Option.getD_some]
  have solid : ∀ s ∈ p.literals, s.toList ≠ [] := fun s hs =>
    Rules.ne_nil_of_mem_tailsOf registered (literals ▸ List.mem_map_of_mem hs)
  have alone : p = p.literalsOnly := by
    rw [CompiledPattern.literalsOnly, ← noRegexes]
  rw [alone] at entry compiled
  rw [lengthAt_joined reachable entry CompiledPattern.joinable_none compiled leading,
    CompiledPattern.matchEnd?_literalsOnly, Rules.longestFront?_congr same, ← literals,
    ← lengthTo_tails solid]
  by_cases some : p.hasLiterals = true
  · rw [if_pos some]
  · -- Without tails either the empty match is left, which makes no ligature.
    rw [if_neg some, CompiledPattern.tails_eq_nil (by simpa using some)]
    exact lengthTo_start _

/-- Tails that begin alike, made of characters that mean something in a regex. -/
def starred : CompiledPattern := ⟨[], ["*", "**+", "**", "*", "|"]⟩

def starredSpecs : List Spec :=
  [.literal "=*", .literal "=**+", .literal "-x", .literal "=**", .literal "=*", .literal "=|"]

def starredGroup : RuleGroup := (CharMap.empty.insert '=' starred).insert '-' ⟨[], ["x"]⟩

theorem lengthAt_starred :
    Rules.compileRules Rules.expandRegex starredSpecs = .ok starredGroup ∧
      (ofTable ⟨"any", starredGroup.register 0⟩ (.ofCapacity 1)).value.1.lengthAt
        ['a', '=', '*', '*', '*'] 1 = some 3 := by
  have registered : Rules.compileRules Rules.expandRegex starredSpecs = .ok starredGroup := by
    decide +kernel
  have entry : (Table.mk "any" (starredGroup.register 0)).get? '=' = some starred := by
    decide +kernel
  have sorted : CompiledPattern.byLength (starred.literals.map String.toList) =
      [['*', '*', '+'], ['*', '*'], ['*'], ['*'], ['|']] := by
    simp [CompiledPattern.byLength, starred, List.mergeSort, List.MergeSort.Internal.splitInTwo]
  have rendered : starred.render = "(?:(?:\\*\\*\\+|\\*\\*|\\*|\\*|\\|))".toList := by
    rw [CompiledPattern.render, CompiledPattern.groups, sorted]
    rfl
  obtain ⟨q, compiled⟩ : ∃ q, Pattern.compile ('^' :: starred.render) = .ok q := by
    rw [rendered]
    exact Ligature.Regex.isOk_iff.mp (by decide +kernel)
  -- listed in another order, and only once each
  have same : ∀ tail, tail ∈ [['|'], ['*', '*', '+'], ['*', '*'], ['*']] ↔
      tail ∈ tailsOf '=' starredSpecs := by
    have tails : tailsOf '=' starredSpecs =
        [['*'], ['*', '*', '+'], ['*', '*'], ['*'], ['|']] := by decide +kernel
    intro tail
    simp only [tails, List.mem_cons, List.not_mem_nil, or_false]
    tauto
  have leading : ['a', '=', '*', '*', '*'][1]? = some '=' := rfl
  exact ⟨registered, lengthAt_longest_tail (.start 1) registered (by decide +kernel) entry rfl
    compiled leading _ same⟩

end Ligature.Dispatch.Matcher
