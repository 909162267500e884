import Ligature.Yaml.Token

/-!
# YAML nodes

The tokens of a text as a tree. Aliases stay in the tree as references to anchors; a document
carries the nodes that anchors name. A text holds one document or none.
-/
namespace Ligature.Yaml

inductive Node where
  | scalar (tag : Option String) (style : ScalarStyle) (text : String)
  | sequence (tag : Option String) (items : List Node)
  | mapping (tag : Option String) (entries : List (Node × Node))
  /-- The node of the anchor with this number. -/
  | alias (anchor : Nat)
  deriving Repr, Inhabited

def Node.blank : Node := .scalar none .plain ""

/-! ### Anchors -/

structure Anchored where
  number : Nat
  order : Nat
  node : Node
  deriving Repr

/-- The anchors met so far. A new name gets the number of names before it. A name that is used
again gets the number of names so far, which the next new name gets as well. -/
structure Anchors where
  names : List (String × Nat)
  written : Nat
  nodes : List Anchored
  /-- How many places of the tree there are: one per scalar and alias, two per collection. -/
  size : Nat
  deriving Repr

namespace Anchors

def empty : Anchors := ⟨[], 0, [], 0⟩

def number? (a : Anchors) (name : String) : Option Nat :=
  (a.names.find? (·.1 == name)).map (·.2)

def write (a : Anchors) (name : String) : (Nat × Nat) × Anchors :=
  let number := a.names.length
  ((number, a.written),
    { a with names := (name, number) :: a.names.filter (·.1 ≠ name), written := a.written + 1 })

def writeIf (a : Anchors) : Option String → Option (Nat × Nat) × Anchors
  | none => (none, a)
  | some name => let (n, a) := a.write name; (some n, a)

def finish (a : Anchors) (anchor : Option (Nat × Nat)) (places : Nat) (node : Node) : Anchors :=
  { a with
    size := a.size + places
    nodes := match anchor with
      | none => a.nodes
      | some (number, order) => ⟨number, order, node⟩ :: a.nodes }

/-- The node of a number; of several the one written last. -/
def node? (a : Anchors) (number : Nat) : Option Node :=
  ((a.nodes.filter (·.number = number)).foldl (fun (best : Option Anchored) x =>
    match best with
    | some b => if b.order < x.order then some x else best
    | none => some x) none).map (·.node)

end Anchors

/-! ### Properties -/

abbrev TagHandles := List (String × String)

def TagHandles.standard : TagHandles := [("!", "!"), ("!!", "tag:yaml.org,2002:")]

def TagHandles.resolve? (h : TagHandles) (handle suffix : String) : Option String :=
  if handle = "" then some suffix
  else (h.find? (·.1 == handle)).map fun x => x.2 ++ suffix

structure Properties where
  anchor : Option String
  tag : Option String
  deriving Repr

def readProperties (h : TagHandles) (ts : List Token) : Option (Properties × List Token) :=
  match ts with
  | .anchor a :: .tag handle suffix :: rest
  | .tag handle suffix :: .anchor a :: rest =>
    (h.resolve? handle suffix).map fun tag => (⟨some a, some tag⟩, rest)
  | .anchor a :: rest => some (⟨some a, none⟩, rest)
  | .tag handle suffix :: rest =>
    (h.resolve? handle suffix).map fun tag => (⟨none, some tag⟩, rest)
  | rest => some (⟨none, none⟩, rest)

/-! ### The tree -/

abbrev NodeReading (α : Type) := Option (α × List Token × Anchors)

def readBlank (ts : List Token) (a : Anchors) : NodeReading Node :=
  some (.blank, ts, a.finish none 1 .blank)

/-- How an entry of a block mapping may be left blank: by what is in its place. -/
def endsBlockEntry : List Token → Bool
  | .key :: _ | .value :: _ | .blockEnd :: _ => true
  | _ => false

mutual

/-- A node. `block` tells whether it may be a block collection, and `indentless` whether it may be
a sequence as deep as the mapping around it. -/
def readNode (h : TagHandles) (block indentless : Bool) : Nat → List Token → Anchors →
    NodeReading Node
  | 0, _, _ => none
  | fuel + 1, ts, a => match ts with
    | .alias name :: rest => (a.number? name).map fun n =>
        (.alias n, rest, a.finish none 1 (.alias n))
    | ts => (readProperties h ts).bind fun (p, ts) =>
      let (anchor, a) := a.writeIf p.anchor
      let close (places : Nat) (node : Node) (ts : List Token) (a : Anchors) :
          NodeReading Node := some (node, ts, a.finish anchor places node)
      let collection (items : NodeReading (List Node)) : NodeReading Node :=
        items.bind fun (items, ts, a) => close 2 (.sequence p.tag items) ts a
      let mapping (entries : NodeReading (List (Node × Node))) : NodeReading Node :=
        entries.bind fun (entries, ts, a) => close 2 (.mapping p.tag entries) ts a
      match ts with
      | .scalar text style :: rest =>
        close 1 (.scalar (p.tag.filter (· ≠ "!")) style text) rest a
      | .blockEntry :: _ =>
        if indentless then collection (readIndentless h fuel ts a)
        else if p.anchor.isSome || p.tag.isSome then close 1 (.scalar p.tag .plain "") ts a
        else none
      | .flowSequenceStart :: rest => collection (readFlowItems h true fuel rest a)
      | .flowMappingStart :: rest => mapping (readFlowEntries h true fuel rest a)
      | ts =>
        match block, ts with
        | true, .blockSequenceStart :: rest => collection (readBlockItems h fuel rest a)
        | true, .blockMappingStart :: rest => mapping (readBlockEntries h fuel rest a)
        | _, ts =>
          if p.anchor.isSome || p.tag.isSome then close 1 (.scalar p.tag .plain "") ts a
          else none

def readBlockItems (h : TagHandles) : Nat → List Token → Anchors → NodeReading (List Node)
  | 0, _, _ => none
  | fuel + 1, ts, a => match ts with
    | .blockEntry :: rest =>
      let item := match rest with
        | .blockEntry :: _ | .blockEnd :: _ => readBlank rest a
        | _ => readNode h true false fuel rest a
      item.bind fun (node, ts, a) => (readBlockItems h fuel ts a).map fun (nodes, r) =>
        (node :: nodes, r)
    | .blockEnd :: rest => some ([], rest, a)
    | _ => none

/-- The items of a sequence that is as deep as the mapping around it. -/
def readIndentless (h : TagHandles) : Nat → List Token → Anchors → NodeReading (List Node)
  | 0, _, _ => none
  | fuel + 1, ts, a => match ts with
    | .blockEntry :: rest =>
      let item := match rest with
        | .blockEntry :: _ | .key :: _ | .value :: _ | .blockEnd :: _ => readBlank rest a
        | _ => readNode h true false fuel rest a
      item.bind fun (node, ts, a) => (readIndentless h fuel ts a).map fun (nodes, r) =>
        (node :: nodes, r)
    | ts => some ([], ts, a)

def readBlockEntries (h : TagHandles) : Nat → List Token → Anchors →
    NodeReading (List (Node × Node))
  | 0, _, _ => none
  | fuel + 1, ts, a =>
    let value (k : Node) (ts : List Token) (a : Anchors) : NodeReading (List (Node × Node)) :=
      let v := match ts with
        | .value :: rest =>
          if endsBlockEntry rest then readBlank rest a else readNode h true true fuel rest a
        | ts => readBlank ts a
      v.bind fun (v, ts, a) => (readBlockEntries h fuel ts a).map fun (es, r) => ((k, v) :: es, r)
    match ts with
    | .key :: rest =>
      let key := if endsBlockEntry rest then readBlank rest a
        else readNode h true true fuel rest a
      key.bind fun (k, ts, a) => value k ts a
    | .blockEnd :: rest => some ([], rest, a)
    | _ => none

/-- The items of a flow sequence, to its end. An item may be a mapping of one entry. -/
def readFlowItems (h : TagHandles) (first : Bool) : Nat → List Token → Anchors →
    NodeReading (List Node)
  | 0, _, _ => none
  | fuel + 1, ts, a =>
    let more (item : NodeReading Node) : NodeReading (List Node) :=
      item.bind fun (node, ts, a) => (readFlowItems h false fuel ts a).map fun (nodes, r) =>
        (node :: nodes, r)
    let items (ts : List Token) : NodeReading (List Node) := match ts with
      | .flowSequenceEnd :: rest => some ([], rest, a)
      | .key :: rest => more (readFlowPair h fuel rest a)
      | ts => more (readNode h false false fuel ts a)
    match first, ts with
    | _, .flowSequenceEnd :: rest => some ([], rest, a)
    | true, ts => items ts
    | false, .flowEntry :: rest => items rest
    | false, _ => none

def readFlowPair (h : TagHandles) : Nat → List Token → Anchors → NodeReading Node
  | 0, _, _ => none
  | fuel + 1, ts, a =>
    let key := match ts with
      | .value :: rest | .flowEntry :: rest | .flowSequenceEnd :: rest => readBlank rest a
      | ts => readNode h false false fuel ts a
    key.bind fun (k, ts, a) =>
      let value := match ts with
        | .value :: rest => match rest with
          | .flowEntry :: _ | .flowSequenceEnd :: _ => readBlank rest a
          | _ => readNode h false false fuel rest a
        | ts => readBlank ts a
      value.map fun (v, ts, a) =>
        let node := Node.mapping none [(k, v)]
        (node, ts, a.finish none 2 node)

def readFlowEntries (h : TagHandles) (first : Bool) : Nat → List Token → Anchors →
    NodeReading (List (Node × Node))
  | 0, _, _ => none
  | fuel + 1, ts, a =>
    let more (k : Node) (v : NodeReading Node) : NodeReading (List (Node × Node)) :=
      v.bind fun (v, ts, a) => (readFlowEntries h false fuel ts a).map fun (es, r) =>
        ((k, v) :: es, r)
    let entries (ts : List Token) : NodeReading (List (Node × Node)) := match ts with
      | .flowMappingEnd :: rest => some ([], rest, a)
      | .key :: rest =>
        let key := match rest with
          | .value :: _ | .flowEntry :: _ | .flowMappingEnd :: _ => readBlank rest a
          | _ => readNode h false false fuel rest a
        key.bind fun (k, ts, a) => more k (match ts with
          | .value :: rest => match rest with
            | .flowEntry :: _ | .flowMappingEnd :: _ => readBlank rest a
            | _ => readNode h false false fuel rest a
          | ts => readBlank ts a)
      | ts => (readNode h false false fuel ts a).bind fun (k, ts, a) => more k (readBlank ts a)
    match first, ts with
    | _, .flowMappingEnd :: rest => some ([], rest, a)
    | true, ts => entries ts
    | false, .flowEntry :: rest => entries rest
    | false, _ => none

end

/-! ### Documents -/

structure Document where
  root : Node
  anchors : Anchors
  deriving Repr

/-- Reads directives: at most one version, which has to be 1.1 or 1.2, and one tag per handle. -/
def readDirectives (version : Bool) (h : TagHandles) : List Token → Option (TagHandles × List Token)
  | .version major minor :: rest =>
    if version ∨ major ≠ 1 ∨ (minor ≠ 1 ∧ minor ≠ 2) then none
    else readDirectives true h rest
  | .tagDirective handle replacement :: rest =>
    if h.any (·.1 == handle) then none
    else readDirectives version ((handle, replacement) :: h) rest
  | rest => some (h, rest)

def endsText : List Token → Bool
  | .documentEnd :: rest => endsText rest
  | [.streamEnd] => true
  | _ => false

def startsDocument : List Token → Bool
  | .version .. :: _ | .tagDirective .. :: _ | .documentStart :: _ | .documentEnd :: _
  | .streamEnd :: _ => true
  | _ => false

def readDocument (ts : List Token) : Option (Option Document) :=
  if ts = [.streamEnd] then some none
  else (readDirectives false [] ts).bind fun (h, rest) =>
    let explicit := rest.head? = some .documentStart
    if !explicit ∧ rest ≠ ts then none
    else
      let body := if explicit then rest.tail else rest
      let fuel := 2 * body.length + 2
      let handles := h ++ TagHandles.standard
      let blank := explicit && startsDocument body
      let root := if blank then readBlank body .empty
        else readNode handles true false fuel body .empty
      root.bind fun (root, rest, anchors) =>
        if endsText rest then some (some ⟨root, anchors⟩) else none

def readText (text : List Char) : Option (Option Document) :=
  (Token.ofText text).bind readDocument

end Ligature.Yaml
