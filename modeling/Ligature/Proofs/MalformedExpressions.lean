import Ligature.Proofs.FirstFaults
import Ligature.Rules.Expr

/-!
# Malformed expressions

Three kinds of nodes have no regex text: a choice without alternatives, a character set without
characters, and a repetition whose bounds are the wrong way round. An expression is refused for the
first such node in it, a node coming before what it is made of, and for no other reason.
-/
namespace Ligature.Rules

namespace PatternExpr

inductive Malformed : PatternExpr → ExpansionError → Prop where
  | alternation : Malformed (.or []) .emptyAlternation
  | charSet : Malformed (.chars []) .emptyCharSet
  | bounds {inner : PatternExpr} {min max : UInt32} (inverted : max < min) :
      Malformed (.repeat inner min (some max)) (.invalidRepeat min max)

mutual

def nodes : PatternExpr → List PatternExpr
  | .str text => [.str text]
  | .chars cs => [.chars cs]
  | .or alternatives => .or alternatives :: nodesOf alternatives
  | .seq items => .seq items :: nodesOf items
  | .optional inner => .optional inner :: inner.nodes
  | .zeroOrMore inner => .zeroOrMore inner :: inner.nodes
  | .oneOrMore inner => .oneOrMore inner :: inner.nodes
  | .repeat inner min max => .repeat inner min max :: inner.nodes
  | .regex source => [.regex source]

def nodesOf : List PatternExpr → List PatternExpr
  | [] => []
  | e :: es => e.nodes ++ nodesOf es

end

theorem Malformed.error_eq (n : PatternExpr) (error error' : ExpansionError)
    (h : n.Malformed error) (h' : n.Malformed error') : error = error' := by
  cases h <;> cases h' <;> rfl

/-! ### Lowering -/

/-- A result that is what some nodes ask for: an error just if one of them is malformed, and then
the error of the first such node. -/
def Judged {α : Type} (ns : List PatternExpr) : Except ExpansionError α → Prop
  | .ok _ => Faultless Malformed ns
  | .error error => FirstFault Malformed ns error

section Judged

variable {α β : Type} {n : PatternExpr} {ns ns' : List PatternExpr} {x : Except ExpansionError α}

theorem Judged.map (h : Judged ns x) (f : α → β) : Judged ns (x.map f) := by
  cases x with
  | ok a => exact h
  | error error => exact h

theorem Judged.cons (sound : ∀ error, ¬ n.Malformed error) (h : Judged ns x) :
    Judged (n :: ns) x := by
  cases x with
  | ok a => exact faultless_append (faultless_singleton sound) h
  | error error => exact FirstFault.append_left (faultless_singleton sound) h

theorem Judged.bind {f : α → Except ExpansionError β} (h : Judged ns x)
    (next : ∀ a, Judged ns' (f a)) : Judged (ns ++ ns') (x.bind f) := by
  cases x with
  | error error => exact FirstFault.append_right h
  | ok a =>
    have later := next a
    simp only [Except.bind]
    cases y : f a with
    | ok b =>
      rw [y] at later
      exact faultless_append h later
    | error error =>
      rw [y] at later
      exact FirstFault.append_left h later

theorem judged_of_malformed {error : ExpansionError} (wrong : n.Malformed error) :
    Judged (n :: ns) (.error error : Except ExpansionError α) :=
  firstFault_head wrong

theorem judged_singleton (sound : ∀ error, ¬ n.Malformed error) (a : α) :
    Judged [n] (.ok a) :=
  faultless_singleton sound

end Judged

mutual

theorem judged_lower : (e : PatternExpr) → Judged e.nodes e.lower
  | .str text => judged_singleton (n := .str text) nofun _
  | .chars [] => judged_of_malformed .charSet
  | .chars [c] => judged_singleton (n := .chars [c]) nofun _
  | .chars (c :: d :: cs) => judged_singleton (n := .chars (c :: d :: cs)) nofun _
  | .or [] => judged_of_malformed .alternation
  | .or (e :: es) => ((judged_lowerAll (e :: es)).map _).cons nofun
  | .seq es => ((judged_lowerAll es).map _).cons nofun
  | .optional e => ((judged_lower e).map _).cons nofun
  | .zeroOrMore e => ((judged_lower e).map _).cons nofun
  | .oneOrMore e => ((judged_lower e).map _).cons nofun
  | .repeat e min none => ((judged_lower e).map _).cons nofun
  | .repeat e min (some max) => by
    rw [lower, Option.filter_some]
    by_cases inverted : max < min
    · simp only [inverted, decide_true, if_true]
      exact judged_of_malformed (.bounds inverted)
    · simp only [inverted, decide_false, Bool.false_eq_true, if_false]
      refine ((judged_lower e).map _).cons ?_
      intro error wrong
      cases wrong with
      | bounds less => exact inverted less
  | .regex source => judged_singleton (n := .regex source) nofun _

theorem judged_lowerAll : (es : List PatternExpr) → Judged (nodesOf es) (lowerAll es)
  | [] => by
    intro n mem
    cases mem
  | e :: es => (judged_lower e).bind fun f => (judged_lowerAll es).map (f :: ·)

end

end PatternExpr

open PatternExpr (Malformed)

/-- Expanding an expression fails just if some node in it is malformed, and then for the first such
node, a node coming before the nodes below it. -/
theorem expandRegex_error_iff (e : PatternExpr) :
    ((∃ error, expandRegex e = .error error) ↔ ∃ n ∈ e.nodes, ∃ error, n.Malformed error) ∧
    ∀ error, expandRegex e = .error error ↔ FirstFault Malformed e.nodes error := by
  have judged : PatternExpr.Judged e.nodes (expandRegex e) := e.judged_lower.map _
  have first (error : ExpansionError) :
      expandRegex e = .error error ↔ FirstFault Malformed e.nodes error := by
    cases result : expandRegex e with
    | ok source =>
      rw [result] at judged
      refine iff_of_false nofun fun first => ?_
      obtain ⟨n, mem, wrong⟩ := first.exists_faulty
      exact judged n mem error wrong
    | error cause =>
      rw [result] at judged
      constructor
      · intro failed
        cases failed
        exact judged
      · intro other
        rw [FirstFault.unique Malformed.error_eq judged other]
  refine ⟨?_, first⟩
  rw [← exists_firstFault_iff]
  exact exists_congr first

/-- A repetition with wrong bounds is refused before the empty set in its body, and behind what
stands before it. -/
example : expandRegex (.seq [.str "=", .repeat (.chars []) 3 (some 1), .or []]) =
    .error (.invalidRepeat 3 1) := rfl

end Ligature.Rules
