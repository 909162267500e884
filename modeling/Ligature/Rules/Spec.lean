import Ligature.CharMap
import Ligature.Rules.Expr

/-!
# Ligature specifications and their patterns

A ligature is given as a literal text, or as a leading character with a pattern for what may
follow it. `compileRules` gathers a batch of specifications by their leading characters; a batch
with one bad specification is refused as a whole.
-/
namespace Ligature.Rules

inductive PatternSource where
  | regex (source : String)
  | expr (e : PatternExpr)
  deriving DecidableEq, Repr

inductive Spec where
  | literal (text : String)
  | pattern (leading : Char) (source : PatternSource)
  deriving DecidableEq, Repr

inductive RegistrationError where
  | invalidLength (ligature : String) (length : Nat)
  | expansion (leading : Char) (cause : ExpansionError)
  deriving DecidableEq, Repr

def RegistrationError.message : RegistrationError → String
  | .invalidLength ligature length =>
    s!"Invalid ligature '{ligature}': literal ligatures need at least 2 characters, got {length}"
  | .expansion leading cause =>
    s!"Pattern expansion failed for '{leading}': {cause.message}"

/-! ### Compiled patterns -/

/-- What may follow a leading character: regex alternatives and literal tails, each in the order
they were given. -/
structure CompiledPattern where
  regexes : List String
  literals : List String
  deriving DecidableEq, Repr

namespace CompiledPattern

def empty : CompiledPattern := ⟨[], []⟩

def addRegex (p : CompiledPattern) (source : String) : CompiledPattern :=
  { p with regexes := p.regexes ++ [source] }

def addLiteral (p : CompiledPattern) (tail : String) : CompiledPattern :=
  { p with literals := p.literals ++ [tail] }

def hasRegexes (p : CompiledPattern) : Bool := !p.regexes.isEmpty

def hasLiterals (p : CompiledPattern) : Bool := !p.literals.isEmpty

/-- Literal tails as they are tried: longest first, and in their given order among equals. -/
def byLength (tails : List (List Char)) : List (List Char) :=
  tails.mergeSort fun a b => b.length ≤ a.length

def groups (p : CompiledPattern) : List (List Char) :=
  (if p.hasRegexes then [Fragment.group (joinWith ['|'] (p.regexes.map String.toList))] else []) ++
  if p.hasLiterals then
    [Fragment.group (joinWith ['|'] ((byLength (p.literals.map String.toList)).map Regex.escape))]
  else []

def render (p : CompiledPattern) : List Char := Fragment.group (joinWith ['|'] p.groups)

end CompiledPattern

/-! ### Compilation -/

abbrev RuleGroup := CharMap CompiledPattern

/-- Changes the pattern of a character, which starts out empty. -/
def RuleGroup.extend (g : RuleGroup) (c : Char) (f : CompiledPattern → CompiledPattern) :
    RuleGroup :=
  g.insert c (f ((g.get? c).getD .empty))

def addSpec (expand : Expander) (g : RuleGroup) (s : Spec) : Except RegistrationError RuleGroup :=
  match s with
  | .literal text => match text.toList with
    | c :: d :: tail => .ok (g.extend c (·.addLiteral (String.ofList (d :: tail))))
    | _ => .error (.invalidLength text text.length)
  | .pattern c (.regex source) => .ok (g.extend c (·.addRegex source))
  | .pattern c (.expr e) => match expand e with
    | .ok source => .ok (g.extend c (·.addRegex source))
    | .error cause => .error (.expansion c cause)

def compileRules (expand : Expander) (specs : List Spec) : Except RegistrationError RuleGroup :=
  specs.foldlM (addSpec expand) .empty

end Ligature.Rules
