import Ligature.Proofs.Alternatives
import Ligature.Proofs.CompiledRegexes

/-!
# Expressions beside literals

How long a ligature is whose leading character has regexes made of expressions: the first
expression that matches decides, be it with an empty match, and if none does the literal tails are
left as if there were no regexes. This needs expressions that do not all begin with the same part,
unless that part matches in one way.
-/
namespace Ligature.Regex.Pattern

/-! ### Fewer branches, smaller programs -/

end Ligature.Regex.Pattern

namespace Ligature.Rules

open Regex (Pattern Reader Syntax Flags Joinable Cursor groupTree)

/-! ### Regexes made of expressions -/

/-- A regex text is what the expander makes of an expression without embedded text. -/
def PatternExpr.Expands (e : PatternExpr) (source : String) : Prop :=
  e.plain = true ∧ expandRegex e = .ok source

theorem PatternExpr.Expands.reads {e : PatternExpr} {source : String} (h : e.Expands source) :
    ∃ f : Fragment, f.source = source.toList ∧
      f.ReadsNaming .alternation [] (PatternExpr.embedded source) ∧
      Pattern.parse source.toList = .ok (PatternExpr.embedded source) ∧
      (e.Fair → (PatternExpr.embedded source).SameEnds e.reading) := by
  obtain ⟨plain, accepted⟩ := h
  obtain ⟨f, lowered, rfl⟩ := Regex.map_eq_ok.mp accepted
  obtain ⟨reads, agree⟩ := e.lower_plain joins_alternation plain lowered
  obtain ⟨s, parsed, translates⟩ := reads.parse
  have own : Pattern.parse f.source = .ok (e.readWith .alternation) :=
    Pattern.parse_eq_ok.mpr ⟨s, _, parsed, translates⟩
  have text : (String.ofList f.source).toList = f.source := String.toList_ofList
  rw [← text] at own
  have same := PatternExpr.embedded_eq own
  refine ⟨f, text.symm, ?_, ?_, ?_⟩ <;> rw [same]
  · exact reads
  · exact own
  · exact fun fair => (agree fair).ends

namespace CompiledPattern

variable {p : CompiledPattern} {es : List PatternExpr}

def literalsOnly (p : CompiledPattern) : CompiledPattern := ⟨[], p.literals⟩

theorem joinable_none : Joinable .alternation [] [] [] := ⟨.nil, .nil, by simp, by simp, .nil⟩

theorem matchEnd?_literalsOnly (p : CompiledPattern) (c : Cursor) :
    (p.literalsOnly.meaning []).matchEnd? c =
      if p.hasLiterals then p.tails.findSome? c.past? else some c := by
  have none : p.literalsOnly.hasRegexes = false := rfl
  rw [matchEnd?_meaning _ rfl, none, Bool.false_or, List.flatMap_nil, matchEnd?_alternation_nil,
    Option.none_or]
  rfl

theorem compile_anchored {rows : List Reader} {outs : List (List Pattern × Flags)}
    (regexes : Joinable .alternation (p.regexes.map String.toList) rows outs) {q : Pattern}
    (compiled : Pattern.compile ('^' :: p.render) = .ok q) :
    (Syntax.concat [.assertion .startLine, groupTree (p.groupReaders rows)]).depth ≤
        Regex.depthLimit ∧
      q = .append (.look Pattern.textStart) (p.meaning outs) ∧ q.fits = true := by
  obtain ⟨-, anchored, resolves⟩ := p.render_reads regexes
  obtain ⟨s, f, read, deep, meaning, fits⟩ := Pattern.compile_eq_ok.mp compiled
  rw [anchored] at read
  cases read
  rw [translate_anchored resolves] at meaning
  cases meaning
  exact ⟨deep, rfl, fits⟩

end CompiledPattern

end Ligature.Rules

namespace Ligature.Dispatch

open Ligature.Regex (Cursor Pattern Reader Flags Joinable)
open Rules (CompiledPattern PatternExpr Table)

namespace Matcher

/-- The length of a ligature whose match ends at a place of the text behind its leading character.
An empty match makes no ligature. -/
def lengthTo (rest : List Char) (stop : Cursor) : Option Nat :=
  if rest.length - stop.left = 0 then none else some (rest.length - stop.left + 1)

theorem lengthTo_start (rest : List Char) : lengthTo rest (.start rest) = none := by
  simp [lengthTo, Cursor.start, Cursor.left]

theorem lengthFrom_anchored {m : Matcher} {c : Char} {r : Regex} {q : Pattern}
    (regex : m.regexes.get? c = some r) (anchored : r.pattern = .append (.look Pattern.textStart) q)
    (rest : List Char) :
    m.lengthFrom c rest = (q.matchEnd? (.start rest)).bind (lengthTo rest) := by
  simp only [lengthFrom, regex, anchored, Pattern.find_anchored]
  cases q.matchEnd? (.start rest) with
  | none => rfl
  | some stop =>
    have size : (rest.take (rest.length - stop.left)).length = rest.length - stop.left := by
      rw [List.length_take]
      omega
    simp only [Option.map_some, Option.bind_some, lengthTo, Pattern.Found.upTo,
      List.isEmpty_iff_length_eq_zero, size]

theorem lengthAt_eq {text : List Char} {i : Nat} {c : Char} (leading : text[i]? = some c)
    (m : Matcher) : m.lengthAt text i = m.lengthFrom c (text.drop (i + 1)) := by
  obtain ⟨inside, rfl⟩ := List.getElem?_eq_some_iff.mp leading
  rw [lengthAt, List.drop_eq_getElem_cons inside]

theorem lengthAt_joined {t : Table} {cache : RegexCache} (reachable : cache.Reachable) {c : Char}
    {p : CompiledPattern} (entry : t.get? c = some p) {rows : List Reader}
    {outs : List (List Pattern × Flags)}
    (regexes : Joinable .alternation (p.regexes.map String.toList) rows outs) {q : Pattern}
    (compiled : Pattern.compile ('^' :: p.render) = .ok q) {text : List Char} {i : Nat}
    (leading : text[i]? = some c) :
    (ofTable t cache).value.1.lengthAt text i =
      ((p.meaning outs).matchEnd? (.start (text.drop (i + 1)))).bind
        (lengthTo (text.drop (i + 1))) := by
  obtain ⟨-, anchored, -⟩ := Rules.CompiledPattern.compile_anchored regexes compiled
  have regex := get?_ofTable_of_compile reachable entry compiled
  rw [lengthAt_eq leading, lengthFrom_anchored regex anchored]

end Matcher

end Ligature.Dispatch
