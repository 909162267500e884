import Ligature.Proofs.TreeTokens
import Ligature.Yaml.Node

/-!
# Documents read back

The text that is printed for a mapping is read as the document of this mapping: first its tokens,
then the nodes of these.
-/
namespace Ligature.Yaml

open Scanner

/-! ### Tokens -/

def documentTokens (entries : List (String × Tree)) : List Token :=
  .blockMappingStart :: Tree.entryTokens entries ++ [.blockEnd]

theorem Scanner.run_of_readsValue {text : List Char} {parts : List Token}
    (h : ReadsValue (start text) text.length parts [] 0 [0] [.blockMappingStart]) :
    run (text.length + 2) (start text) =
      some (.blockMappingStart :: parts ++ [.blockEnd, .streamEnd]) := by
  obtain ⟨t, ⟨k, few, passes⟩, index, line, settled⟩ := h
  obtain ⟨fuel, enough⟩ : ∃ fuel, text.length + 2 = fuel + 1 + k :=
    ⟨text.length + 1 - k, by omega⟩
  have last : t.next = some ⟨⟨[], index, line, 0⟩,
      .streamEnd :: .blockEnd :: (parts.reverse ++ [.blockMappingStart]),
      (parts.reverse ++ [Token.blockMappingStart]).length + 1 + 1, [], true, none, []⟩ := by
    rw [next_of_settle_end settled rfl]
    rfl
  rw [enough, passes, run_succ, last]
  simp

theorem ofText_printDocument {entries : List (String × Tree)} (written : entries ≠ [])
    (fit : Tree.EntriesFit entries) :
    Token.ofText (printDocument entries) = some (documentTokens entries ++ [.streamEnd]) := by
  have text : printDocument entries = Tree.printEntries 0 false entries := by
    simp [printDocument, printEntries_pad 0 written, indentation]
  have margin := startsToken_printEntries 0 written fit []
  rw [List.append_nil] at margin
  have allowed : (Tree.printEntries 0 false entries).all isAllowed = true :=
    List.all_eq_true.mpr (allAllowed_printEntries entries 0 false fit)
  have settled : Settled (start (Tree.printEntries 0 false entries))
      (Tree.printEntries 0 false entries ++ (indentation 0 ++ [])) 0 [] [] := by
    have skipped : settle (between ⟨indentation 0 ++ Tree.printEntries 0 false entries, 0, 0, 0⟩ []
        [] true) = _ := settle_spaces margin (by simp [Forgettable])
    have whole : Tree.printEntries 0 false entries ++ (indentation 0 ++ []) = _ :=
      List.append_nil _
    rw [whole]
    exact ⟨0, 0, skipped⟩
  have read := readsEntries entries 0 0 [] [] [] [] written fit (by simp [StartsToken])
    (Nat.le_refl 0) rfl _ settled
  have tokens := run_of_readsValue read
  rw [text, Token.ofText, if_pos allowed, tokens]
  · simp [documentTokens]
  · intro rest mark
    exact absurd rfl (margin '\ufeff' (by rw [mark]; rfl)).2.2

/-! ### Nodes -/

section Nodes

variable {h : TagHandles} {fuel : Nat} {rest : List Token} {a : Anchors}

section Steps

variable {block indentless : Bool}

theorem readNode_scalar (text : String) (style : ScalarStyle) :
    readNode h block indentless (fuel + 1) (.scalar text style :: rest) a =
      some (.scalar none style text, rest, a.finish none 1 (.scalar none style text)) := rfl

theorem readNode_emptySequence :
    readNode h block indentless (fuel + 2) (.flowSequenceStart :: .flowSequenceEnd :: rest) a =
      some (.sequence none [], rest, a.finish none 2 (.sequence none [])) := rfl

theorem readNode_emptyMapping :
    readNode h block indentless (fuel + 2) (.flowMappingStart :: .flowMappingEnd :: rest) a =
      some (.mapping none [], rest, a.finish none 2 (.mapping none [])) := rfl

theorem readNode_blockSequence :
    readNode h true indentless (fuel + 1) (.blockSequenceStart :: rest) a =
      (readBlockItems h fuel rest a).bind fun (items, ts, a) =>
        some (.sequence none items, ts, a.finish none 2 (.sequence none items)) := rfl

theorem readNode_indentless :
    readNode h block true (fuel + 1) (.blockEntry :: rest) a =
      (readIndentless h fuel (.blockEntry :: rest) a).bind fun (items, ts, a) =>
        some (.sequence none items, ts, a.finish none 2 (.sequence none items)) := rfl

theorem readNode_blockMapping :
    readNode h true indentless (fuel + 1) (.blockMappingStart :: rest) a =
      (readBlockEntries h fuel rest a).bind fun (entries, ts, a) =>
        some (.mapping none entries, ts, a.finish none 2 (.mapping none entries)) := rfl

def EndsNode (t : Token) : Prop := t = .blockEnd ∨ t = .key ∨ t = .value

theorem readBlockItems_item {t : Token} (node : ¬EndsNode t) (other : t ≠ .blockEntry) :
    readBlockItems h (fuel + 1) (.blockEntry :: t :: rest) a =
      (readNode h true false fuel (t :: rest) a).bind fun (node, ts, a) =>
        (readBlockItems h fuel ts a).map fun (nodes, r) => (node :: nodes, r) := by
  cases t <;> first | rfl | simp [EndsNode] at node other

theorem readIndentless_item {t : Token} (node : ¬EndsNode t) (other : t ≠ .blockEntry) :
    readIndentless h (fuel + 1) (.blockEntry :: t :: rest) a =
      (readNode h true false fuel (t :: rest) a).bind fun (node, ts, a) =>
        (readIndentless h fuel ts a).map fun (nodes, r) => (node :: nodes, r) := by
  cases t <;> first | rfl | simp [EndsNode] at node other

theorem readIndentless_end (ends : rest.head? ≠ some .blockEntry) :
    readIndentless h (fuel + 1) rest a = some ([], rest, a) := by
  cases rest with
  | nil => rfl
  | cons t rest => cases t <;> first | rfl | simp at ends

theorem readBlockEntries_entry {t : Token} (node : ¬EndsNode t) (key : String)
    (style : ScalarStyle) :
    readBlockEntries h (fuel + 2) (.key :: .scalar key style :: .value :: t :: rest) a =
      (readNode h true true (fuel + 1) (t :: rest) (a.finish none 1 (.scalar none style key))).bind
        fun (v, ts, a) => (readBlockEntries h (fuel + 1) ts a).map fun (entries, r) =>
          ((.scalar none style key, v) :: entries, r) := by
  cases t <;> first | rfl | simp [EndsNode] at node

end Steps

theorem tokens_head (t : Tree) (inMapping : Bool) : ∃ first rest,
    t.tokens inMapping = first :: rest ∧ ¬EndsNode first ∧
      (inMapping = false → first ≠ .blockEntry) := by
  cases t with
  | null | number | text | quoted => exact ⟨_, _, rfl, by simp [EndsNode], by simp⟩
  | sequence items =>
    cases items <;> cases inMapping <;> exact ⟨_, _, rfl, by simp [EndsNode], by simp⟩
  | mapping entries => cases entries <;> exact ⟨_, _, rfl, by simp [EndsNode], by simp⟩

mutual

/-- A node is read from the tokens of its tree, with two units of fuel per token. -/
theorem readNode_tokens : (t : Tree) → (inMapping : Bool) → (fuel : Nat) → (rest : List Token) →
    (a : Anchors) → 2 * (t.tokens inMapping).length + 2 ≤ fuel →
    (inMapping = true → rest.head? ≠ some .blockEntry) →
    ∃ a', readNode h true inMapping fuel (t.tokens inMapping ++ rest) a = some (t.toNode, rest, a')
  | .null, _, fuel + 1, _, _, _, _ => ⟨_, readNode_scalar _ _⟩
  | .number n, _, fuel + 1, _, _, _, _ => ⟨_, readNode_scalar _ _⟩
  | .text s, _, fuel + 1, _, _, _, _ => ⟨_, readNode_scalar _ _⟩
  | .quoted s, _, fuel + 1, _, _, _, _ => ⟨_, readNode_scalar _ _⟩
  | .sequence [], _, fuel + 2, _, _, _, _ => ⟨_, readNode_emptySequence⟩
  | .sequence (item :: items), true, fuel + 1, rest, a, enough, ends => by
    simp only [Tree.tokens, if_true] at enough
    obtain ⟨a', read⟩ := readIndentless_tokens (item :: items) fuel rest a (by omega) (ends rfl)
    refine ⟨a'.finish none 2 (.sequence none (Tree.toNodes (item :: items))), ?_⟩
    simp only [Tree.tokens, if_true, Tree.itemTokens, List.cons_append] at read ⊢
    rw [readNode_indentless, read]
    rfl
  | .sequence (item :: items), false, fuel + 1, rest, a, enough, _ => by
    simp only [Tree.tokens, Bool.false_eq_true, if_false, List.cons_append, List.length_cons,
      List.length_append, List.length_nil] at enough
    obtain ⟨a', read⟩ := readBlockItems_tokens (item :: items) fuel rest a (by omega)
    refine ⟨a'.finish none 2 (.sequence none (Tree.toNodes (item :: items))), ?_⟩
    simp only [Tree.tokens, Bool.false_eq_true, if_false, List.cons_append, List.append_assoc,
      List.nil_append]
    rw [readNode_blockSequence, read]
    rfl
  | .mapping [], _, fuel + 2, _, _, _, _ => ⟨_, readNode_emptyMapping⟩
  | .mapping (entry :: entries), inMapping, fuel + 1, rest, a, enough, _ => by
    simp only [Tree.tokens, List.cons_append, List.length_cons, List.length_append,
      List.length_nil] at enough
    obtain ⟨a', read⟩ := readBlockEntries_tokens (entry :: entries) fuel rest a (by omega)
    refine ⟨a'.finish none 2 (.mapping none (Tree.entryNodes (entry :: entries))), ?_⟩
    simp only [Tree.tokens, List.cons_append, List.append_assoc, List.nil_append]
    rw [readNode_blockMapping, read]
    rfl

theorem readBlockItems_tokens : (items : List Tree) → (fuel : Nat) → (rest : List Token) →
    (a : Anchors) → 2 * (Tree.itemTokens items).length + 1 ≤ fuel →
    ∃ a', readBlockItems h fuel (Tree.itemTokens items ++ .blockEnd :: rest) a =
      some (Tree.toNodes items, rest, a')
  | [], fuel + 1, rest, a, _ => ⟨a, rfl⟩
  | item :: items, fuel + 1, rest, a, enough => by
    simp only [Tree.itemTokens, List.cons_append, List.length_cons, List.length_append] at enough
    obtain ⟨a₁, first⟩ := readNode_tokens item false fuel
      (Tree.itemTokens items ++ .blockEnd :: rest) a (by omega) (by simp)
    obtain ⟨a₂, later⟩ := readBlockItems_tokens items fuel rest a₁ (by omega)
    refine ⟨a₂, ?_⟩
    obtain ⟨t, ts, head, node, other⟩ := tokens_head item false
    rw [head, List.cons_append] at first
    simp only [Tree.itemTokens, head, List.cons_append, List.append_assoc]
    rw [readBlockItems_item node (other rfl), first]
    simp only [Option.bind_some, later]
    rfl

theorem readIndentless_tokens : (items : List Tree) → (fuel : Nat) → (rest : List Token) →
    (a : Anchors) → 2 * (Tree.itemTokens items).length + 1 ≤ fuel →
    rest.head? ≠ some .blockEntry →
    ∃ a', readIndentless h fuel (Tree.itemTokens items ++ rest) a =
      some (Tree.toNodes items, rest, a')
  | [], fuel + 1, rest, a, _, ends => ⟨a, readIndentless_end ends⟩
  | item :: items, fuel + 1, rest, a, enough, ends => by
    simp only [Tree.itemTokens, List.cons_append, List.length_cons, List.length_append] at enough
    obtain ⟨a₁, first⟩ := readNode_tokens item false fuel (Tree.itemTokens items ++ rest) a
      (by omega) (by simp)
    obtain ⟨a₂, later⟩ := readIndentless_tokens items fuel rest a₁ (by omega) ends
    refine ⟨a₂, ?_⟩
    obtain ⟨t, ts, head, node, other⟩ := tokens_head item false
    rw [head, List.cons_append] at first
    simp only [Tree.itemTokens, head, List.cons_append, List.append_assoc]
    rw [readIndentless_item node (other rfl), first]
    simp only [Option.bind_some, later]
    rfl

theorem readBlockEntries_tokens : (entries : List (String × Tree)) → (fuel : Nat) →
    (rest : List Token) → (a : Anchors) → 2 * (Tree.entryTokens entries).length + 1 ≤ fuel →
    ∃ a', readBlockEntries h fuel (Tree.entryTokens entries ++ .blockEnd :: rest) a =
      some (Tree.entryNodes entries, rest, a')
  | [], fuel + 1, rest, a, _ => ⟨a, rfl⟩
  | (key, t) :: entries, fuel + 2, rest, a, enough => by
    simp only [Tree.entryTokens, List.cons_append, List.length_cons, List.length_append] at enough
    have behind : (Tree.entryTokens entries ++ .blockEnd :: rest).head? ≠ some .blockEntry := by
      cases entries with
      | nil => simp [Tree.entryTokens]
      | cons entry entries => simp [Tree.entryTokens]
    obtain ⟨a₁, first⟩ := readNode_tokens t true (fuel + 1)
      (Tree.entryTokens entries ++ .blockEnd :: rest) (a.finish none 1 (.scalar none .plain key))
      (by omega) fun _ => behind
    obtain ⟨a₂, later⟩ := readBlockEntries_tokens entries (fuel + 1) rest a₁ (by omega)
    refine ⟨a₂, ?_⟩
    obtain ⟨t', ts, head, node, -⟩ := tokens_head t true
    rw [head, List.cons_append] at first
    simp only [Tree.entryTokens, head, List.cons_append, List.append_assoc]
    rw [readBlockEntries_entry node, first]
    simp only [Option.bind_some, later]
    rfl

end

end Nodes

/-! ### Documents -/

/-- Without directives and marks around it, a document is the one node that its tokens stand for. -/
theorem readDocument_node {ts : List Token} {node : Node} {a : Anchors}
    (starts : ts.head? = some .blockMappingStart)
    (read : readNode TagHandles.standard true false (2 * ts.length + 2) ts .empty =
      some (node, [.streamEnd], a)) :
    readDocument ts = some (some ⟨node, a⟩) := by
  have written : ts ≠ [.streamEnd] := by
    rintro rfl
    cases starts
  have bare : readDirectives false [] ts = some ([], ts) := by
    cases ts with
    | nil => rfl
    | cons t ts => cases starts; rfl
  rw [readDocument, if_neg written, bare]
  simp [starts, read, endsText]

theorem readText_printDocument {entries : List (String × Tree)} (written : entries ≠ [])
    (fit : Tree.EntriesFit entries) : ∃ anchors,
    readText (printDocument entries) = some (some ⟨(Tree.mapping entries).toNode, anchors⟩) := by
  have tokens : (Tree.mapping entries).tokens false = documentTokens entries := by
    cases entries with
    | nil => exact absurd rfl written
    | cons entry entries => rfl
  obtain ⟨anchors, read⟩ := readNode_tokens (h := TagHandles.standard) (Tree.mapping entries) false
    (2 * (documentTokens entries ++ [Token.streamEnd]).length + 2) [.streamEnd] .empty
    (by rw [tokens, List.length_append]; omega) (by simp)
  rw [tokens] at read
  refine ⟨anchors, ?_⟩
  rw [readText, ofText_printDocument written fit, Option.bind_some]
  exact readDocument_node rfl read

end Ligature.Yaml
