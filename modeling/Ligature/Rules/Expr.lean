import Ligature.Regex.Escape

/-!
# Pattern expressions

Patterns written as small trees instead of regex text, and the regex text that each stands for.
An expression may embed regex text, which is passed on as it is.
-/
namespace Ligature.Rules

inductive PatternExpr where
  | str (text : String)
  | chars (cs : List Char)
  /-- The first of some expressions that matches. -/
  | or (alternatives : List PatternExpr)
  | seq (items : List PatternExpr)
  | optional (inner : PatternExpr)
  | zeroOrMore (inner : PatternExpr)
  | oneOrMore (inner : PatternExpr)
  /-- Between `min` and `max` rounds; without `max`, any number from `min` on. -/
  | repeat (inner : PatternExpr) (min : UInt32) (max : Option UInt32)
  | regex (source : String)
  deriving Repr, Inhabited

namespace PatternExpr

mutual

def same : PatternExpr → PatternExpr → Bool
  | .str a, .str b => a == b
  | .chars a, .chars b => a == b
  | .or a, .or b => sameAll a b
  | .seq a, .seq b => sameAll a b
  | .optional a, .optional b => a.same b
  | .zeroOrMore a, .zeroOrMore b => a.same b
  | .oneOrMore a, .oneOrMore b => a.same b
  | .repeat a min max, .repeat b min' max' => a.same b && min == min' && max == max'
  | .regex a, .regex b => a == b
  | _, _ => false

def sameAll : List PatternExpr → List PatternExpr → Bool
  | [], [] => true
  | a :: as, b :: bs => a.same b && sameAll as bs
  | _, _ => false

end

mutual

theorem same_iff : (a b : PatternExpr) → (a.same b = true ↔ a = b)
  | .str a, b => by cases b <;> simp [same]
  | .chars a, b => by cases b <;> simp [same]
  | .or a, b => by cases b <;> simp [same, sameAll_iff a]
  | .seq a, b => by cases b <;> simp [same, sameAll_iff a]
  | .optional a, b => by cases b <;> simp [same, same_iff a]
  | .zeroOrMore a, b => by cases b <;> simp [same, same_iff a]
  | .oneOrMore a, b => by cases b <;> simp [same, same_iff a]
  | .repeat a min max, b => by cases b <;> simp [same, same_iff a, and_assoc]
  | .regex a, b => by cases b <;> simp [same]

theorem sameAll_iff : (as bs : List PatternExpr) → (sameAll as bs = true ↔ as = bs)
  | [], bs => by cases bs <;> simp [sameAll]
  | a :: as, bs => by cases bs <;> simp [sameAll, same_iff a, sameAll_iff as]

end

instance : DecidableEq PatternExpr := fun a b => decidable_of_iff (a.same b = true) (same_iff a b)

end PatternExpr

inductive ExpansionError where
  | emptyAlternation
  | emptyCharSet
  | invalidRepeat (min max : UInt32)
  deriving DecidableEq, Repr

def ExpansionError.message : ExpansionError → String
  | .emptyAlternation => "alternation has no alternatives"
  | .emptyCharSet => "character set is empty"
  | .invalidRepeat min max =>
    s!"repeat bounds are inverted: min {toString min.toNat} > max {toString max.toNat}"

abbrev Expander := PatternExpr → Except ExpansionError String

def joinWith (sep : List Char) : List (List Char) → List Char
  | [] => []
  | [p] => p
  | p :: ps => p ++ sep ++ joinWith sep ps

structure Fragment where
  source : List Char
  /-- Whether a repetition operator behind the text governs all of it. -/
  atomic : Bool
  deriving DecidableEq, Repr

namespace Fragment

def group (cs : List Char) : List Char := '(' :: '?' :: ':' :: cs ++ [')']

/-- The text in a form that a repetition operator governs as a whole. -/
def grouped (f : Fragment) : List Char := if f.atomic then f.source else group f.source

def quantified (f : Fragment) (operator : List Char) : Fragment := ⟨f.grouped ++ operator, false⟩

end Fragment

def classMember (c : Char) : List Char :=
  if c ∈ ['\\', ']', '[', '^', '-', '&', '~'] then ['\\', c] else [c]

def decimal (n : UInt32) : List Char := Nat.toDigits 10 n.toNat

def boundsOperator (min : UInt32) : Option UInt32 → List Char
  | none => '{' :: decimal min ++ [',', '}']
  | some max =>
    if max = min then '{' :: decimal min ++ ['}']
    else '{' :: decimal min ++ ',' :: decimal max ++ ['}']

mutual

def PatternExpr.lower : PatternExpr → Except ExpansionError Fragment
  | .str text => .ok ⟨Regex.escape text.toList, text.toList.length == 1⟩
  | .chars cs => match cs with
    | [] => .error .emptyCharSet
    | [c] => .ok ⟨Regex.escapeChar c, true⟩
    | cs => .ok ⟨'[' :: cs.flatMap classMember ++ [']'], true⟩
  | .or alternatives =>
    if alternatives.isEmpty then .error .emptyAlternation
    else (PatternExpr.lowerAll alternatives).map fun fs =>
      ⟨Fragment.group (joinWith ['|'] (fs.map (·.source))), true⟩
  | .seq items => (PatternExpr.lowerAll items).map fun
    | [f] => f
    | fs => ⟨fs.flatMap (·.source), false⟩
  | .optional inner => inner.lower.map (·.quantified ['?'])
  | .zeroOrMore inner => inner.lower.map (·.quantified ['*'])
  | .oneOrMore inner => inner.lower.map (·.quantified ['+'])
  | .repeat inner min max => match max.filter (· < min) with
    | some less => .error (.invalidRepeat min less)
    | none => inner.lower.map (·.quantified (boundsOperator min max))
  | .regex source => .ok ⟨Fragment.group source.toList, true⟩

def PatternExpr.lowerAll : List PatternExpr → Except ExpansionError (List Fragment)
  | [] => .ok []
  | e :: rest =>
    e.lower.bind fun f => (PatternExpr.lowerAll rest).map (f :: ·)

end

def expandRegex : Expander := fun e => e.lower.map fun f => String.ofList f.source

end Ligature.Rules
