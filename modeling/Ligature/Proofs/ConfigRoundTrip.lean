import Ligature.Config.Text
import Ligature.Proofs.Documents

/-!
# Configurations read back

The tree that is written for a configuration is read as that configuration: no ligature is taken
for one of another kind, no expression for another one, and every field that was written is found.
What is then left to fail is the validation.
-/
namespace Ligature.Config

open Rules (PatternExpr)
open Yaml (Tree Node Document IsName)

variable {d : Document}

/-! ### Lists of trees -/

section Lists

variable {α : Type} {f : α → Tree} {l : List α}

theorem allFit_map (h : ∀ a, (f a).Fits) : Tree.AllFit (l.map f) := by
  induction l with
  | nil => trivial
  | cons a l ih => exact ⟨h a, ih⟩

theorem depth_le_of_mem {k : Nat} (deep : Tree.depths (l.map f) ≤ k) {a : α} (mem : a ∈ l) :
    (f a).depth ≤ k := by
  induction l with
  | nil => cases mem
  | cons b l ih =>
    obtain ⟨first, later⟩ := Nat.max_le.mp deep
    rcases List.mem_cons.mp mem with rfl | mem
    · exact first
    · exact ih later mem

theorem toNodes_eq_map (items : List Tree) : Tree.toNodes items = items.map Tree.toNode := by
  induction items with
  | nil => rfl
  | cons t items ih => rw [Tree.toNodes, ih, List.map_cons]

theorem treeValues_eq_map (items : List Tree) : treeValues items = items.map treeValue := by
  induction items with
  | nil => rfl
  | cons t items ih => rw [treeValues, ih, List.map_cons]

theorem mapM_written {m : Type → Type} [Monad m] [LawfulMonad m] {β : Type} {write : α → β}
    {read : β → m α} (h : ∀ a ∈ l, read (write a) = pure a) :
    (l.map write).mapM read = pure l := by
  induction l with
  | nil => rfl
  | cons a l ih =>
    obtain ⟨first, later⟩ := List.forall_mem_cons.mp h
    rw [List.map_cons, List.mapM_cons, first, ih later, pure_bind, pure_bind]

theorem mapM_nodes {read : Node → Reading α} (h : ∀ a ∈ l, read (f a).toNode = pure a) :
    (Tree.toNodes (l.map f)).mapM read = pure l := by
  rw [toNodes_eq_map, List.map_map]
  exact mapM_written h

theorem mapM_values {make : Value → Option α} (h : ∀ a ∈ l, make (treeValue (f a)) = some a) :
    (treeValues (l.map f)).mapM make = some l := by
  rw [treeValues_eq_map, List.map_map]
  exact mapM_written h

end Lists

/-! ### Expressions -/

theorem fits_word (n : UInt32) : n.toNat < UInt64.size :=
  Nat.lt_trans n.toNat_lt (by decide)

mutual

theorem fits_exprTree : (e : PatternExpr) → (exprTree e).Fits
  | .str s => ⟨by decide, trivial, trivial⟩
  | .chars cs => ⟨by decide, allFit_map fun _ => trivial, trivial⟩
  | .or es => ⟨by decide, allFit_exprTrees es, trivial⟩
  | .seq es => ⟨by decide, allFit_exprTrees es, trivial⟩
  | .optional e => ⟨by decide, fits_exprTree e, trivial⟩
  | .zeroOrMore e => ⟨by decide, fits_exprTree e, trivial⟩
  | .oneOrMore e => ⟨by decide, fits_exprTree e, trivial⟩
  | .repeat e min max => by
    refine ⟨by decide, ⟨by decide, fits_exprTree e, by decide, fits_word min, by decide, ?_,
      trivial⟩, trivial⟩
    cases max with
    | none => trivial
    | some max => exact fits_word max
  | .regex s => ⟨by decide, trivial, trivial⟩

theorem allFit_exprTrees : (es : List PatternExpr) → Tree.AllFit (exprTrees es)
  | [] => trivial
  | e :: es => ⟨fits_exprTree e, allFit_exprTrees es⟩

end

theorem char?_singleton (c : Char) : Value.char? (.text (String.singleton c)) = some c := by
  simp [Value.char?]

theorem word?_toNat (n : UInt32) : Value.word? (.unsigned n.toNat) = some n := by
  simp [Value.word?, n.toNat_lt]

theorem repeatParts?_named (e min max : Value) :
    repeatParts? (.record [(.text "expr", e), (.text "min", min), (.text "max", max)]) =
      some (e, min, some max) := rfl

mutual

theorem exprOf?_exprTree : (e : PatternExpr) → (fuel : Nat) → (exprTree e).depth ≤ fuel →
    exprOf? fuel (treeValue (exprTree e)) = some e
  | e, 0, deep => by cases e <;> simp [exprTree, Tree.depth] at deep
  | .str s, fuel + 1, _ => by
    simp [exprTree, treeValue, entryValues, exprOf?, Value.name?, exprNames, Value.text?]
  | .chars cs, fuel + 1, _ => by
    have read : (treeValues (cs.map fun c => .quoted (String.singleton c))).mapM Value.char? =
        some cs := mapM_values fun c _ => char?_singleton c
    simp [exprTree, treeValue, entryValues, exprOf?, Value.name?, exprNames, Value.list?, read]
  | .or es, fuel + 1, deep => by
    simp only [exprTree, Tree.depth, Tree.entryDepths] at deep
    have read := exprsOf?_exprTrees es fuel (by omega)
    simp [exprTree, treeValue, entryValues, exprOf?, Value.name?, exprNames, Value.list?, read]
  | .seq es, fuel + 1, deep => by
    simp only [exprTree, Tree.depth, Tree.entryDepths] at deep
    have read := exprsOf?_exprTrees es fuel (by omega)
    simp [exprTree, treeValue, entryValues, exprOf?, Value.name?, exprNames, Value.list?, read]
  | .optional e, fuel + 1, deep => by
    simp only [exprTree, Tree.depth, Tree.entryDepths] at deep
    have read := exprOf?_exprTree e fuel (by omega)
    simp [exprTree, treeValue, entryValues, exprOf?, Value.name?, exprNames, read]
  | .zeroOrMore e, fuel + 1, deep => by
    simp only [exprTree, Tree.depth, Tree.entryDepths] at deep
    have read := exprOf?_exprTree e fuel (by omega)
    simp [exprTree, treeValue, entryValues, exprOf?, Value.name?, exprNames, read]
  | .oneOrMore e, fuel + 1, deep => by
    simp only [exprTree, Tree.depth, Tree.entryDepths] at deep
    have read := exprOf?_exprTree e fuel (by omega)
    simp [exprTree, treeValue, entryValues, exprOf?, Value.name?, exprNames, read]
  | .repeat e min max, fuel + 1, deep => by
    simp only [exprTree, Tree.depth, Tree.entryDepths] at deep
    have read := exprOf?_exprTree e fuel (by omega)
    cases max with
    | none =>
      simp [exprTree, treeValue, entryValues, exprOf?, Value.name?, exprNames, repeatParts?_named,
        read, word?_toNat, upperBound?]
    | some max =>
      simp [exprTree, treeValue, entryValues, exprOf?, Value.name?, exprNames, repeatParts?_named,
        read, word?_toNat, upperBound?]
  | .regex s, fuel + 1, _ => by
    simp [exprTree, treeValue, entryValues, exprOf?, Value.name?, exprNames, Value.text?]

theorem exprsOf?_exprTrees : (es : List PatternExpr) → (fuel : Nat) →
    Tree.depths (exprTrees es) ≤ fuel →
    (treeValues (exprTrees es)).mapM (exprOf? fuel) = some es
  | [], fuel, _ => rfl
  | e :: es, fuel, deep => by
    obtain ⟨first, later⟩ := Nat.max_le.mp deep
    rw [exprTrees, treeValues, List.mapM_cons, exprOf?_exprTree e fuel first,
      exprsOf?_exprTrees es fuel later]
    rfl

end

/-! ### Ligature sets -/

theorem fits_entryTree (e : LigatureEntry) : (entryTree e).Fits := by
  cases e with
  | literal s => trivial
  | regex c s => exact ⟨by decide, trivial, by decide, trivial, trivial⟩
  | expr c e => exact ⟨by decide, trivial, by decide, fits_exprTree e, trivial⟩

/-- A ligature is read as one of its own kind: a regex has what an expression lacks. -/
theorem entryOf?_entryTree (e : LigatureEntry) (deep : (entryTree e).depth ≤ depthLimit) :
    entryOf? (treeValue (entryTree e)) = some e := by
  cases e with
  | literal s => rfl
  | regex c s =>
    have fields : Value.fields? ["char", "regex"]
        [(.text "char", .text (String.singleton c)), (.text "regex", .text s)] =
        some [("char", .text (String.singleton c)), ("regex", .text s)] := rfl
    have read : regexLigature?
        [(.text "char", .text (String.singleton c)), (.text "regex", .text s)] =
        some (.regex c s) := by
      simp [regexLigature?, fields, List.lookup_cons, char?_singleton, Value.text?]
    simp [entryTree, treeValue, entryValues, entryOf?, read]
  | expr c e =>
    have inner : exprOf? depthLimit (treeValue (exprTree e)) = some e := by
      apply exprOf?_exprTree
      simp only [entryTree, Tree.depth, Tree.entryDepths] at deep
      omega
    -- a regex is tried first, and fails because no field has its name
    have noRegex : regexLigature?
        [(.text "char", .text (String.singleton c)), (.text "expr", treeValue (exprTree e))] =
        none := by
      have fields : Value.fields? ["char", "regex"]
          [(.text "char", .text (String.singleton c)), (.text "expr", treeValue (exprTree e))] =
          some [("char", .text (String.singleton c))] := rfl
      simp [regexLigature?, fields, List.lookup_cons]
    have fields : Value.fields? ["char", "expr"]
        [(.text "char", .text (String.singleton c)), (.text "expr", treeValue (exprTree e))] =
        some [("char", .text (String.singleton c)), ("expr", treeValue (exprTree e))] := rfl
    have read : exprLigature?
        [(.text "char", .text (String.singleton c)), (.text "expr", treeValue (exprTree e))] =
        some (.expr c e) := by
      simp [exprLigature?, fields, List.lookup_cons, char?_singleton, inner]
    simp [entryTree, treeValue, entryValues, entryOf?, noRegex, read]

theorem fits_modesTree (m : ModesField) : (modesTree m).Fits := by
  cases m with
  | one name => trivial
  | many names => exact allFit_map fun _ => trivial

theorem modesOf?_modesTree (m : ModesField) : modesOf? (treeValue (modesTree m)) = some m := by
  cases m with
  | one name => rfl
  | many names =>
    have read : (treeValues (names.map .text)).mapM Value.text? = some names :=
      mapM_values fun _ _ => rfl
    simp [modesTree, treeValue, modesOf?, read]

theorem isNull_of_plainKind {cs : List Char} (kind : Yaml.plainKind cs = .text) :
    Yaml.isNull cs = false := by
  cases null : Yaml.isNull cs with
  | false => rfl
  | true => simp [Yaml.plainKind, null] at kind

theorem isAbsent?_plain {text : String} (kind : Yaml.plainKind text.toList = .text) :
    isAbsent? (.scalar none .plain text) = some false := by
  have written : text ≠ "" := by
    rintro rfl
    exact absurd kind (by decide)
  simp [isAbsent?, isNull_of_plainKind kind, written]

/-- Modes that are written are never taken for absent ones: a plain text is no null. -/
theorem isAbsent?_modesTree (m : ModesField) : isAbsent? (modesTree m).toNode = some false := by
  cases m with
  | many names => rfl
  | one name =>
    rw [modesTree, Tree.toNode]
    cases style : Yaml.textStyle name.toList with
    | plain => exact isAbsent?_plain (plainKind_of_textStyle style)
    | singleQuoted => rfl
    | doubleQuoted => rfl
    | literal => rfl
    | folded => rfl

/-! ### Reading nodes -/

theorem readAs_node {α : Type} {make : Value → Option α} {depth : Nat} {t : Tree} {a : α}
    (fits : t.Fits) (deep : t.depth ≤ depth) (h : make (treeValue t) = some a) :
    readAs d depth make t.toNode = pure a := by
  simp [readAs, readValue_node t depth fits deep, h]

def readKey (d : Document) (entry : Node × Node) : Reading (String × Node) := do
  pure (← readText d entry.1, entry.2)

def fieldNodes (entries : List (String × Tree)) : List (String × Node) :=
  entries.map fun e => (e.1, e.2.toNode)

theorem readKeys_entryNodes (entries : List (String × Tree)) :
    (Tree.entryNodes entries).mapM (readKey d) = pure (fieldNodes entries) := by
  induction entries with
  | nil => rfl
  | cons e entries ih =>
    rw [Tree.entryNodes, List.mapM_cons, ih]
    rfl

theorem readFields_mapping {names : List String} {entries : List (String × Tree)} (depth : Nat)
    (known : ∀ e ∈ entries, e.1 ∈ names) (distinct : (entries.map (·.1)).Nodup) :
    readFields d (depth + 1) names (Tree.mapping entries).toNode = pure (fieldNodes entries) := by
  have kept : (fieldNodes entries).filter (fun f => f.1 ∈ names) = fieldNodes entries := by
    rw [List.filter_eq_self]
    intro f mem
    obtain ⟨e, written, rfl⟩ := List.mem_map.mp mem
    exact decide_eq_true (known e written)
  have keys : (fieldNodes entries).map (·.1) = entries.map (·.1) := by
    simp [fieldNodes]
  calc readFields d (depth + 1) names (Tree.mapping entries).toNode
      = (Tree.entryNodes entries).mapM (readKey d) >>= fun fields =>
          let known := fields.filter fun f => f.1 ∈ names
          if (known.map (·.1)).Nodup then pure known else failure := rfl
    _ = pure (fieldNodes entries) := by
      rw [readKeys_entryNodes, pure_bind]
      simp only [kept, keys, if_pos distinct]

theorem readItems_sequence {α : Type} {read : Nat → Node → Reading α} (depth : Nat)
    (items : List Tree) :
    readItems d (depth + 1) read (Tree.sequence items).toNode =
      (Tree.toNodes items).mapM (read depth) := by
  simp [readItems, Tree.toNode]

theorem readItems_map {α : Type} {f : α → Tree} {read : Nat → Node → Reading α} {l : List α}
    {depth : Nat} (h : ∀ a ∈ l, read depth (f a).toNode = pure a) :
    readItems d (depth + 1) read (Tree.sequence (l.map f)).toNode = pure l := by
  rw [readItems_sequence, mapM_nodes h]

/-! ### Reading configurations -/

theorem readModes_node {depth : Nat} (m : ModesField) (deep : (modesTree m).depth ≤ depth) :
    readModes d depth (modesTree m).toNode = pure (some m) := by
  have read : readAs d depth modesOf? (modesTree m).toNode = pure m :=
    readAs_node (fits_modesTree m) deep (modesOf?_modesTree m)
  have followed : follow d (modesTree m).toNode = pure (modesTree m).toNode := by
    cases m <;> rfl
  simp [readModes, followed, isAbsent?_modesTree, read]

theorem readLigature_node {depth : Nat} (e : LigatureEntry) (deep : (entryTree e).depth ≤ depth)
    (limited : depth ≤ depthLimit) :
    readAs d depth entryOf? (entryTree e).toNode = pure e :=
  readAs_node (fits_entryTree e) deep (entryOf?_entryTree e (Nat.le_trans deep limited))

/-- A set without modes is written without that field, and is read without it. -/
theorem readSet_node {depth : Nat} (s : LigatureSet) (deep : (setTree s).depth ≤ depth)
    (limited : depth ≤ depthLimit) : readSet d depth (setTree s).toNode = pure s := by
  obtain ⟨modes, ligatures⟩ := s
  have ligaturesRead : ∀ k, Tree.depths (ligatures.map entryTree) ≤ k → k ≤ depthLimit →
      readItems d (k + 1) (fun depth => readAs d depth entryOf?)
        (Tree.sequence (ligatures.map entryTree)).toNode = pure ligatures :=
    fun k deep limited => readItems_map fun e mem =>
      readLigature_node e (depth_le_of_mem deep mem) limited
  cases modes with
  | none =>
    simp only [setTree, Option.map_none, Option.toList_none, List.nil_append, Tree.depth,
      Tree.entryDepths] at deep
    obtain ⟨k, rfl⟩ : ∃ k, depth = k + 2 := ⟨depth - 2, by omega⟩
    have fields : readFields d (k + 2) ["modes", "ligatures"] (setTree ⟨none, ligatures⟩).toNode =
        pure (fieldNodes [("ligatures", .sequence (ligatures.map entryTree))]) :=
      readFields_mapping (k + 1) (by simp) (by simp)
    have items := ligaturesRead k (by omega) (by omega)
    simp [readSet, fields, fieldNodes, readField, items]
  | some m =>
    simp only [setTree, Option.map_some, Option.toList_some, List.cons_append, List.nil_append,
      Tree.depth, Tree.entryDepths] at deep
    obtain ⟨k, rfl⟩ : ∃ k, depth = k + 2 := ⟨depth - 2, by omega⟩
    have fields : readFields d (k + 2) ["modes", "ligatures"] (setTree ⟨some m, ligatures⟩).toNode =
        pure (fieldNodes [("modes", modesTree m),
          ("ligatures", .sequence (ligatures.map entryTree))]) :=
      readFields_mapping (k + 1) (by simp) (by simp)
    have modesRead : readModes d (k + 1) (modesTree m).toNode = pure (some m) :=
      readModes_node m (by omega)
    have items := ligaturesRead k (by omega) (by omega)
    simp [readSet, fields, fieldNodes, readField, modesRead, items]

theorem readDeclaration_node {depth : Nat} (m : ModeDeclaration) :
    readDeclaration d (depth + 1) (declarationTree m).toNode = pure m := by
  have fields : readFields d (depth + 1) ["name", "parent"] (declarationTree m).toNode =
      pure (fieldNodes [("name", .text m.name), ("parent", .text m.parent)]) :=
    readFields_mapping depth (by simp) (by simp)
  simp [readDeclaration, fields, fieldNodes, readField, readText, Tree.toNode]

theorem readSize_node (n : UInt64) : readSize d (Tree.number n.toNat).toNode = pure n := by
  simp [readSize, Tree.toNode, Yaml.unsigned?_decimal, n.toNat_lt]

theorem readConfig_node (c : Config) (deep : (Tree.mapping c.entries).depth ≤ depthLimit) :
    readConfig d (Tree.mapping c.entries).toNode = pure c := by
  obtain ⟨sets, modes, ignored, cacheSize⟩ := c
  simp only [entries, Tree.depth, Tree.entryDepths, depthLimit] at deep
  have fields : readFields d depthLimit ["ligature_sets", "modes", "ignored_modes",
        "regex_cache_size"] (Tree.mapping (entries ⟨sets, modes, ignored, cacheSize⟩)).toNode =
      pure (fieldNodes (entries ⟨sets, modes, ignored, cacheSize⟩)) :=
    readFields_mapping 127 (by simp [entries]) (by simp [entries])
  have setsRead : readItems d 127 (readSet d) (Tree.sequence (sets.map setTree)).toNode =
      pure sets :=
    readItems_map fun s mem => readSet_node s (depth_le_of_mem (by omega) mem) (by decide)
  have modesRead : readItems d 127 (readDeclaration d)
      (Tree.sequence (modes.map declarationTree)).toNode = pure modes :=
    readItems_map fun m _ => readDeclaration_node m
  have ignoredRead : readItems d 127 (fun _ => readText d)
      (Tree.sequence (ignored.map .text)).toNode = pure ignored :=
    readItems_map fun _ _ => rfl
  rw [readConfig, fields]
  simp [fieldNodes, readField, entries, depthLimit, setsRead, modesRead, ignoredRead,
    readSize_node]

theorem ofDocument?_node (c : Config) (deep : (Tree.mapping c.entries).depth ≤ depthLimit)
    (anchors : Yaml.Anchors) :
    ofDocument? (some ⟨(Tree.mapping c.entries).toNode, anchors⟩) = some c := by
  rw [ofDocument?, readConfig_node c deep]
  rfl

/-! ### Texts -/

theorem fits_setTree (s : LigatureSet) : (setTree s).Fits := by
  have ligatures : (Tree.sequence (s.ligatures.map entryTree)).Fits := allFit_map fits_entryTree
  cases written : s.modes with
  | none =>
    simp only [setTree, written]
    exact ⟨by decide, ligatures, trivial⟩
  | some m =>
    simp only [setTree, written]
    exact ⟨by decide, fits_modesTree m, by decide, ligatures, trivial⟩

theorem fits_declarationTree (m : ModeDeclaration) : (declarationTree m).Fits :=
  ⟨by decide, trivial, by decide, trivial, trivial⟩

theorem fits_entries (c : Config) : Tree.EntriesFit c.entries :=
  ⟨by decide, allFit_map fits_setTree, by decide, allFit_map fits_declarationTree, by decide,
    allFit_map fun _ => trivial, by decide, c.cacheSize.toNat_lt, trivial⟩

theorem read_toYaml (c : Config) (deep : (Tree.mapping c.entries).depth ≤ depthLimit) :
    (Yaml.readText c.toYaml.toList).bind ofDocument? = some c := by
  have written : c.entries ≠ [] := by simp [entries]
  obtain ⟨anchors, read⟩ := Yaml.readText_printDocument written c.fits_entries
  rw [toYaml, String.toList_ofList, read, Option.bind_some, ofDocument?_node c deep anchors]

/-- The text that is written for a configuration is read as this configuration if that is valid,
and refused for what makes it invalid otherwise, as long as nothing nests deeper than is read. -/
theorem fromYaml_toYaml (c : Config) (deep : (Tree.mapping c.entries).depth ≤ depthLimit) :
    fromYaml c.toYaml = match c.validate with
      | .ok () => .ok c
      | .error e => .error (.validation e) := by
  have written : c.entries ≠ [] := by simp [entries]
  obtain ⟨anchors, read⟩ := Yaml.readText_printDocument written c.fits_entries
  rw [fromYaml, toYaml, String.toList_ofList, read, Option.bind_some,
    ofDocument?_node c deep anchors]
  cases valid : c.validate <;> simp only [valid]

/-- Ligatures of all kinds, nested repetitions with and without a bound, and modes of all shapes. -/
theorem fromYaml_toYaml_kinds :
    let e : PatternExpr := .repeat (.or [.repeat (.chars ['=', '\n']) 1 none, .str "- a: b"]) 0
      (some 3)
    let ligatures : List LigatureEntry := [.literal "=>", .regex '=' "=+>", .expr '=' e]
    let valid : Config := ⟨[⟨none, ligatures⟩, ⟨some (.one "prog"), []⟩, ⟨some (.many []), []⟩,
      ⟨some (.many ["rust", "null"]), [.literal ""]⟩], [⟨"rust", "prog"⟩], ["text"], 16⟩
    let invalid : Config := { valid with cacheSize := 0 }
    (Tree.mapping valid.entries).depth ≤ depthLimit ∧ fromYaml valid.toYaml = .ok valid ∧
      fromYaml invalid.toYaml = .error (.validation .cacheSize) := by
  intro e ligatures valid invalid
  have shallow : (Tree.mapping valid.entries).depth ≤ depthLimit := by decide
  exact ⟨shallow, fromYaml_toYaml valid shallow, fromYaml_toYaml invalid shallow⟩

end Ligature.Config
