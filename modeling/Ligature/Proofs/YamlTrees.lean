import Ligature.Config.Value
import Ligature.Proofs.Numerals

/-!
# Trees as nodes and values

What a tree is as the nodes of a document, and as a value that is read from these nodes: the tree
itself, with styles and kinds in the place of the ways to write it. Collections may nest as deep as
reading allows.
-/
namespace Ligature.Yaml

def IsName (key : String) : Prop :=
  plainKind key.toList = .text ∧ (∀ c ∈ key.toList, c.isLower = true ∨ c = '_') ∧
    key.toList.length ≤ 1024

instance (key : String) : Decidable (IsName key) :=
  letI : Decidable (∀ c ∈ key.toList, c.isLower = true ∨ c = '_') := List.decidableBAll _ _
  inferInstanceAs (Decidable (_ ∧ _ ∧ _))

namespace Tree

mutual

def toNode : Tree → Node
  | .null => .scalar none .plain "null"
  | .number n => .scalar none .plain (String.ofList (Nat.toDigits 10 n))
  | .text s => .scalar none (textStyle s.toList) s
  | .quoted s => .scalar none (quoteStyle s.toList) s
  | .sequence items => .sequence none (toNodes items)
  | .mapping entries => .mapping none (entryNodes entries)

def toNodes : List Tree → List Node
  | [] => []
  | t :: rest => t.toNode :: toNodes rest

def entryNodes : List (String × Tree) → List (Node × Node)
  | [] => []
  | (key, t) :: rest => (.scalar none .plain key, t.toNode) :: entryNodes rest

end

mutual

/-- How deep the collections of a tree nest. -/
def depth : Tree → Nat
  | .null | .number _ | .text _ | .quoted _ => 0
  | .sequence items => depths items + 1
  | .mapping entries => entryDepths entries + 1

def depths : List Tree → Nat
  | [] => 0
  | t :: rest => max t.depth (depths rest)

def entryDepths : List (String × Tree) → Nat
  | [] => 0
  | (_, t) :: rest => max t.depth (entryDepths rest)

end

mutual

/-- Keys are names, and numbers have 64 bits. -/
def Fits : Tree → Prop
  | .null | .text _ | .quoted _ => True
  | .number n => n < UInt64.size
  | .sequence items => AllFit items
  | .mapping entries => EntriesFit entries

def AllFit : List Tree → Prop
  | [] => True
  | t :: rest => t.Fits ∧ AllFit rest

def EntriesFit : List (String × Tree) → Prop
  | [] => True
  | (key, t) :: rest => IsName key ∧ t.Fits ∧ EntriesFit rest

end

end Tree

end Ligature.Yaml

namespace Ligature.Config

open Yaml (Tree Node Document ScalarStyle)

mutual

def treeValue : Tree → Value
  | .null => .null
  | .number n => .unsigned n
  | .text s | .quoted s => .text s
  | .sequence items => .list (treeValues items)
  | .mapping entries => .record (entryValues entries)

def treeValues : List Tree → List Value
  | [] => []
  | t :: rest => treeValue t :: treeValues rest

def entryValues : List (String × Tree) → List (Value × Value)
  | [] => []
  | (key, t) :: rest => (.text key, treeValue t) :: entryValues rest

end

variable {d : Document}

@[simp] theorem follow_scalar (tag : Option String) (style : ScalarStyle) (text : String) :
    follow d (.scalar tag style text) = pure (.scalar tag style text) := rfl

@[simp] theorem follow_sequence (tag : Option String) (items : List Node) :
    follow d (.sequence tag items) = pure (.sequence tag items) := rfl

@[simp] theorem follow_mapping (tag : Option String) (entries : List (Node × Node)) :
    follow d (.mapping tag entries) = pure (.mapping tag entries) := rfl

theorem readValue_scalar {depth : Nat} {style : ScalarStyle} {text : String} {v : Value}
    (h : Value.ofScalar none style text = some v) :
    readValue d depth (.scalar none style text) = pure v := by
  cases depth with
  | zero => simp [readValue, scalarValue, h]
  | succ depth => simp [readValue, scalarValue, h]

theorem readValue_sequence (depth : Nat) (items : List Node) :
    readValue d (depth + 1) (.sequence none items) =
      .list <$> items.mapM (readValue d depth) := by
  simp [readValue, isForeign]

def readEntry (d : Document) (depth : Nat) (entry : Node × Node) : Reading (Value × Value) := do
  pure (← readValue d depth entry.1, ← readValue d depth entry.2)

theorem readValue_mapping (depth : Nat) (entries : List (Node × Node)) :
    readValue d (depth + 1) (.mapping none entries) =
      .record <$> entries.mapM (readEntry d depth) := by
  simp only [readValue, follow_mapping, pure_bind, isForeign, Option.any_none, Bool.false_eq_true,
    if_false]
  rfl

theorem ofScalar_plain {text : String} (kind : Yaml.plainKind text.toList = .text) :
    Value.ofScalar none .plain text = some (.text text) := by
  simp [Value.ofScalar, Value.ofPlain, kind]

theorem ofScalar_null : Value.ofScalar none .plain "null" = some .null := by
  have kind : Yaml.plainKind "null".toList = .null := by decide
  simp only [Value.ofScalar, if_true, Value.ofPlain, kind]

theorem ofScalar_number {n : Nat} (small : n < UInt64.size) :
    Value.ofScalar none .plain (String.ofList (Nat.toDigits 10 n)) = some (.unsigned n) := by
  simp [Value.ofScalar, Value.ofPlain, Yaml.plainKind_decimal n small]

theorem plainKind_of_textStyle {cs : List Char} (plain : Yaml.textStyle cs = .plain) :
    Yaml.plainKind cs = .text := by
  unfold Yaml.textStyle at plain
  split at plain
  · split at plain <;> cases plain
  · split at plain
    · rename_i h
      simp only [Bool.and_eq_true, Bool.not_eq_true', Yaml.isAmbiguous, Bool.or_eq_false_iff] at h
      simpa using h.1.1
    · unfold Yaml.quoteStyle at plain
      split at plain <;> cases plain

theorem ofScalar_text (s : String) :
    Value.ofScalar none (Yaml.textStyle s.toList) s = some (.text s) := by
  by_cases plain : Yaml.textStyle s.toList = .plain
  · rw [plain, ofScalar_plain (plainKind_of_textStyle plain)]
  · simp [Value.ofScalar, plain]

theorem ofScalar_quoted (s : String) :
    Value.ofScalar none (Yaml.quoteStyle s.toList) s = some (.text s) := by
  have quotes : Yaml.quoteStyle s.toList ≠ .plain := by
    unfold Yaml.quoteStyle
    split <;> simp
  simp [Value.ofScalar, quotes]

mutual

theorem readValue_node : (t : Tree) → (depth : Nat) → t.Fits → t.depth ≤ depth →
    readValue d depth t.toNode = pure (treeValue t)
  | .null, depth, _, _ => readValue_scalar (ofScalar_null)
  | .number n, depth, fits, _ => readValue_scalar (ofScalar_number fits)
  | .text s, depth, _, _ => readValue_scalar (ofScalar_text s)
  | .quoted s, depth, _, _ => readValue_scalar (ofScalar_quoted s)
  | .sequence items, 0, _, deep => by simp [Tree.depth] at deep
  | .sequence items, depth + 1, fits, deep => by
    have read := readValues_nodes items depth fits (Nat.le_of_succ_le_succ deep)
    rw [Tree.toNode, readValue_sequence, read]
    rfl
  | .mapping entries, 0, _, deep => by simp [Tree.depth] at deep
  | .mapping entries, depth + 1, fits, deep => by
    have read := readEntries_nodes entries depth fits (Nat.le_of_succ_le_succ deep)
    rw [Tree.toNode, readValue_mapping, read]
    rfl

theorem readValues_nodes : (items : List Tree) → (depth : Nat) → Tree.AllFit items →
    Tree.depths items ≤ depth →
    (Tree.toNodes items).mapM (readValue d depth) = pure (treeValues items)
  | [], depth, _, _ => rfl
  | t :: rest, depth, fits, deep => by
    obtain ⟨first, later⟩ := Nat.max_le.mp deep
    rw [Tree.toNodes, List.mapM_cons, readValue_node t depth fits.1 first,
      readValues_nodes rest depth fits.2 later]
    rfl

theorem readEntries_nodes : (entries : List (String × Tree)) → (depth : Nat) →
    Tree.EntriesFit entries → Tree.entryDepths entries ≤ depth →
    (Tree.entryNodes entries).mapM (readEntry d depth) = pure (entryValues entries)
  | [], depth, _, _ => rfl
  | (key, t) :: rest, depth, fits, deep => by
    obtain ⟨first, later⟩ := Nat.max_le.mp deep
    obtain ⟨name, fits, restFits⟩ := fits
    rw [Tree.entryNodes, List.mapM_cons, readEntries_nodes rest depth restFits later, readEntry,
      readValue_scalar (ofScalar_plain name.1), readValue_node t depth fits first]
    rfl

end

end Ligature.Config
