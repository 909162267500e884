import Ligature.Yaml.Node
import Ligature.Yaml.Plain

/-!
# Reading nodes

How the nodes of a document are read as texts, lists, records and values. Reading follows aliases;
how often it has done so is its state, since a document may not be unfolded without bound. Nesting
is bounded as well.
-/
namespace Ligature.Config

open Yaml (Node Document ScalarStyle)

/-- A reading, with the number of aliases followed so far. -/
abbrev Reading := StateT Nat Option

def depthLimit : Nat := 128

/-- Follows an alias, at most a hundred times per place of the document. -/
def follow (d : Document) : Node → Reading Node
  | .alias n => fun jumps =>
    if 100 * d.anchors.size < jumps + 1 then none
    else (d.anchors.node? n).map fun node => (node, jumps + 1)
  | node => pure node

def readText (d : Document) (n : Node) : Reading String := do
  match ← follow d n with
  | .scalar _ _ text => pure text
  | _ => failure

def isBlank : Node → Bool
  | .scalar _ .plain "" => true
  | _ => false

/-- The items of a sequence, each read with one level of nesting less. What is left blank is an
empty sequence. -/
def readItems {α : Type} (d : Document) (depth : Nat) (read : Nat → Node → Reading α) (n : Node) :
    Reading (List α) := do
  match ← follow d n, depth with
  | .sequence _ items, depth + 1 => items.mapM (read depth)
  | node, _ => if isBlank node then pure [] else failure

/-- The entries of a mapping whose names are known. Other entries are passed over, and a known name
may stand once. What is left blank is an empty mapping. -/
def readFields (d : Document) (depth : Nat) (names : List String) (n : Node) :
    Reading (List (String × Node)) := do
  match ← follow d n, depth with
  | .mapping _ entries, _ + 1 => do
    let fields ← entries.mapM fun (k, v) => do pure (← readText d k, v)
    let known := fields.filter fun f => f.1 ∈ names
    if (known.map (·.1)).Nodup then pure known else failure
  | node, _ => if isBlank node then pure [] else failure

def readField {α : Type} (fields : List (String × Node)) (name : String)
    (read : Node → Reading α) : Reading (Option α) :=
  match fields.find? (·.1 == name) with
  | some (_, n) => some <$> read n
  | none => pure none

/-! ### Values -/

inductive Value where
  | null
  | bool (b : Bool)
  | unsigned (n : Nat)
  | negative (n : Int)
  | float
  | text (s : String)
  | list (items : List Value)
  | record (entries : List (Value × Value))
  deriving Repr, Inhabited

/-- The value of an unquoted text. Integers of more than 64 bits are refused. -/
def Value.ofPlain (text : String) : Option Value :=
  match Yaml.plainKind text.toList with
  | .null => some .null
  | .bool b => some (.bool b)
  | .unsigned n => some (.unsigned n)
  | .negative n => some (.negative n)
  | .wide => none
  | .float => some .float
  | .text => some (.text text)

/-- The value of a scalar. A tag of the standard types says what its text has to be; tags that
begin with an exclamation mark are refused. -/
def Value.ofScalar (tag : Option String) (style : ScalarStyle) (text : String) : Option Value :=
  match tag with
  | none => if style = .plain then ofPlain text else some (.text text)
  | some tag => match tag with
    | "tag:yaml.org,2002:bool" => (Yaml.bool? text.toList).map .bool
    | "tag:yaml.org,2002:int" => match Yaml.integerKind? text.toList with
      | some (.unsigned n) => some (.unsigned n)
      | some (.negative n) => some (.negative n)
      | _ => none
    | "tag:yaml.org,2002:float" => if Yaml.isFloat text.toList then some .float else none
    | "tag:yaml.org,2002:null" => if Yaml.isNull text.toList then some .null else none
    | _ => if tag.startsWith "!" then none else some (.text text)

def isForeign (tag : Option String) : Bool := tag.any (·.startsWith "!")

def scalarValue : Node → Reading Value
  | .scalar tag style text => match Value.ofScalar tag style text with
    | some v => pure v
    | none => failure
  | _ => failure

def readValue (d : Document) : Nat → Node → Reading Value
  | 0, n => follow d n >>= scalarValue
  | depth + 1, n => do
    match ← follow d n with
    | .sequence tag items =>
      if isForeign tag then failure else .list <$> items.mapM (readValue d depth)
    | .mapping tag entries =>
      if isForeign tag then failure
      else .record <$> entries.mapM fun (k, v) => do
        pure (← readValue d depth k, ← readValue d depth v)
    | node => scalarValue node

namespace Value

def text? : Value → Option String
  | .text s => some s
  | _ => none

def list? : Value → Option (List Value)
  | .list items => some items
  | _ => none

def char? : Value → Option Char
  | .text s => match s.toList with
    | [c] => some c
    | _ => none
  | _ => none

def word? : Value → Option UInt32
  | .unsigned n => if n < UInt32.size then some n.toUInt32 else none
  | .negative n => if n = 0 then some 0 else none
  | _ => none

/-- The name that a key stands for: a text, or a number that is its index among `names`. A text that
is no such name, and a number beyond them, stand for none of them. -/
def name? (names : List String) : Value → Option (Option String)
  | .text s => some (if s ∈ names then some s else none)
  | .unsigned n => some names[n]?
  | _ => none

def fields? (names : List String) (entries : List (Value × Value)) :
    Option (List (String × Value)) := do
  let named ← entries.mapM fun (k, v) => (k.name? names).map fun name => (name, v)
  let known := named.filterMap fun (name, v) => name.map fun s => (s, v)
  if (known.map (·.1)).Nodup then some known else none

end Value

end Ligature.Config
