import Ligature.Config.Default
import Ligature.Config.Value

/-!
# Reading configurations

A document as a configuration. Every field of a configuration that is not written keeps its
default. The entries of a ligature set and the modes of a set are read as values first, because
what they may be is told only by their shape.
-/
namespace Ligature.Config

open Rules (PatternExpr)
open Yaml (Node Document)

/-! ### Expressions -/

def exprNames : List String :=
  ["str", "chars", "or", "seq", "optional", "zero_or_more", "one_or_more", "repeat", "regex"]

def repeatParts? : Value → Option (Value × Value × Option Value)
  | .record entries => do
    let fields ← Value.fields? ["expr", "min", "max"] entries
    pure (← fields.lookup "expr", ← fields.lookup "min", fields.lookup "max")
  | .list [e, min] => some (e, min, none)
  | .list [e, min, max] => some (e, min, some max)
  | _ => none

/-- The upper bound of a repetition; one that is not given or null is none. -/
def upperBound? : Option Value → Option (Option UInt32)
  | none | some .null => some none
  | some v => v.word?.map some

/-- The expression of a value, which is a record of one field; one level of nesting per unit of
fuel. -/
def exprOf? : Nat → Value → Option PatternExpr
  | 0, _ => none
  | fuel + 1, .record [(key, v)] => match key.name? exprNames with
    | some (some name) => match name with
      | "str" => v.text?.map .str
      | "chars" => (v.list?.bind fun items => items.mapM Value.char?).map .chars
      | "or" => (v.list?.bind fun items => items.mapM (exprOf? fuel)).map .or
      | "seq" => (v.list?.bind fun items => items.mapM (exprOf? fuel)).map .seq
      | "optional" => (exprOf? fuel v).map .optional
      | "zero_or_more" => (exprOf? fuel v).map .zeroOrMore
      | "one_or_more" => (exprOf? fuel v).map .oneOrMore
      | "repeat" => do
        let (e, min, max) ← repeatParts? v
        pure (.repeat (← exprOf? fuel e) (← min.word?) (← upperBound? max))
      | "regex" => v.text?.map .regex
      | _ => none
    | _ => none
  | _, _ => none

/-! ### Ligature sets -/

def regexLigature? (entries : List (Value × Value)) : Option LigatureEntry := do
  let fields ← Value.fields? ["char", "regex"] entries
  pure (.regex (← (← fields.lookup "char").char?) (← (← fields.lookup "regex").text?))

def exprLigature? (entries : List (Value × Value)) : Option LigatureEntry := do
  let fields ← Value.fields? ["char", "expr"] entries
  pure (.expr (← (← fields.lookup "char").char?)
    (← exprOf? depthLimit (← fields.lookup "expr")))

/-- A ligature: a text, or a record with a regex or, failing that, an expression. -/
def entryOf? : Value → Option LigatureEntry
  | .text s => some (.literal s)
  | .record entries => (regexLigature? entries).or (exprLigature? entries)
  | _ => none

def modesOf? : Value → Option ModesField
  | .text s => some (.one s)
  | .list items => (items.mapM Value.text?).map .many
  | _ => none

def readAs {α : Type} (d : Document) (depth : Nat) (make : Value → Option α) (n : Node) :
    Reading α := do
  match make (← readValue d depth n) with
  | some a => pure a
  | none => failure

/-- Whether a node stands for nothing. Under the tag of nothing it has to. -/
def isAbsent? : Node → Option Bool
  | .scalar tag .plain text =>
    if tag = some "tag:yaml.org,2002:null" then
      if Yaml.isNull text.toList then some true else none
    else if tag.isSome then some false
    else some (text = "" || Yaml.isNull text.toList)
  | _ => some false

def readModes (d : Document) (depth : Nat) (n : Node) : Reading (Option ModesField) := do
  let n ← follow d n
  match isAbsent? n with
  | none => failure
  | some true => pure none
  | some false => some <$> readAs d depth modesOf? n

def readSet (d : Document) (depth : Nat) (n : Node) : Reading LigatureSet := do
  let fields ← readFields d depth ["modes", "ligatures"] n
  let modes ← readField fields "modes" (readModes d (depth - 1))
  let ligatures ← readField fields "ligatures"
    (readItems d (depth - 1) fun depth => readAs d depth entryOf?)
  pure ⟨modes.join, ligatures.getD []⟩

def readDeclaration (d : Document) (depth : Nat) (n : Node) : Reading ModeDeclaration := do
  let fields ← readFields d depth ["name", "parent"] n
  match ← readField fields "name" (readText d), ← readField fields "parent" (readText d) with
  | some name, some parent => pure ⟨name, parent⟩
  | _, _ => failure

/-- A number of 64 bits without sign, unquoted or as a literal block with the tag of integers. -/
def readSize (d : Document) (n : Node) : Reading UInt64 := do
  match ← follow d n with
  | .scalar tag style text =>
    if style = .plain ∨ (style = .literal ∧ tag = some "tag:yaml.org,2002:int") then
      match Yaml.unsigned? text.toList with
      | some n => if n < UInt64.size then pure n.toUInt64 else failure
      | none => failure
    else failure
  | _ => failure

def readConfig (d : Document) (n : Node) : Reading Config := do
  let fields ← readFields d depthLimit
    ["ligature_sets", "modes", "ignored_modes", "regex_cache_size"] n
  let depth := depthLimit - 1
  let sets ← readField fields "ligature_sets" (readItems d depth (readSet d))
  let modes ← readField fields "modes" (readItems d depth (readDeclaration d))
  let ignored ← readField fields "ignored_modes" (readItems d depth fun _ => readText d)
  let size ← readField fields "regex_cache_size" (readSize d)
  pure ⟨sets.getD defaultSets, modes.getD defaultModes, ignored.getD defaultIgnored,
    size.getD defaultCacheSize⟩

/-- The configuration of a document; without a document, the default one. -/
def ofDocument? : Option Document → Option Config
  | none => some default
  | some d => ((readConfig d d.root).run 0).map (·.1)

end Ligature.Config
