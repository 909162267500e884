import Ligature.Proofs.CommonParts
import Ligature.Proofs.Fragments
import Ligature.Proofs.MatchLaws

/-!
# Expressions as regexes

The regex text of an expression is read as the expression: parentheses stand where a repetition
would else govern too little or a bar divide too much, and characters that mean something are
escaped. Each way to build an expression has its lemma about fragments of text.

This holds of the documented meaning of alternations and of what the engine makes of them, as long
as nothing is lifted out of an alternation that can match in several ways.
-/
namespace Ligature.Rules

open Regex (Pattern Reader Syntax Flags Joinable Cursor)

/-! ### Expressions part by part -/

namespace PatternExpr

mutual

def plain : PatternExpr → Bool
  | .str _ | .chars _ => true
  | .or es | .seq es => plainAll es
  | .optional e | .zeroOrMore e | .oneOrMore e | .repeat e _ _ => e.plain
  | .regex _ => false

def plainAll : List PatternExpr → Bool
  | [] => true
  | e :: es => e.plain && plainAll es

end

mutual

def reading : PatternExpr → Pattern
  | .str text => .ofText text.toList
  | .chars cs => .set (.ofList cs)
  | .or es => .choice (readings es)
  | .seq es => .sequence (readings es)
  | .optional e => .repeated 0 (some 1) true e.reading
  | .zeroOrMore e => .repeated 0 none true e.reading
  | .oneOrMore e => .repeated 1 none true e.reading
  | .repeat e min max => .repeated min.toNat (max.map UInt32.toNat) true e.reading
  | .regex _ => .set .none

def readings : List PatternExpr → List Pattern
  | [] => []
  | e :: es => e.reading :: readings es

end

theorem readings_eq_map (es : List PatternExpr) : readings es = es.map reading := by
  induction es with
  | nil => rfl
  | cons e es ih => rw [readings, ih, List.map_cons]

mutual

def texts : PatternExpr → List String
  | .str _ | .chars _ => []
  | .or es | .seq es => textsAll es
  | .optional e | .zeroOrMore e | .oneOrMore e | .repeat e _ _ => e.texts
  | .regex source => [source]

def textsAll : List PatternExpr → List String
  | [] => []
  | e :: es => e.texts ++ textsAll es

end

mutual

/-- The pattern that an expression describes, part by part, given what embedded texts describe. -/
def meaning (own : String → Pattern) : PatternExpr → Pattern
  | .str text => .ofText text.toList
  | .chars cs => .set (.ofList cs)
  | .or es => .choice (meanings own es)
  | .seq es => .sequence (meanings own es)
  | .optional e => .repeated 0 (some 1) true (e.meaning own)
  | .zeroOrMore e => .repeated 0 none true (e.meaning own)
  | .oneOrMore e => .repeated 1 none true (e.meaning own)
  | .repeat e min max => .repeated min.toNat (max.map UInt32.toNat) true (e.meaning own)
  | .regex source => own source

def meanings (own : String → Pattern) : List PatternExpr → List Pattern
  | [] => []
  | e :: es => e.meaning own :: meanings own es

end

mutual

theorem texts_of_plain : (e : PatternExpr) → e.plain = true → e.texts = []
  | .str _, _ | .chars _, _ => rfl
  | .or es, plain | .seq es, plain => textsAll_of_plain es plain
  | .optional e, plain | .zeroOrMore e, plain | .oneOrMore e, plain | .repeat e _ _, plain =>
    e.texts_of_plain plain
  | .regex _, plain => nomatch plain

theorem textsAll_of_plain : (es : List PatternExpr) → plainAll es = true → textsAll es = []
  | [], _ => rfl
  | e :: es, plain => by
    obtain ⟨first, rest⟩ := Bool.and_eq_true_iff.mp plain
    rw [textsAll, e.texts_of_plain first, textsAll_of_plain es rest, List.append_nil]

end

mutual

theorem reading_eq (own : String → Pattern) :
    (e : PatternExpr) → e.plain = true → e.reading = e.meaning own
  | .str _, _ | .chars _, _ => rfl
  | .or es, plain => congrArg Pattern.choice (readings_eq own es plain)
  | .seq es, plain => congrArg Pattern.sequence (readings_eq own es plain)
  | .optional e, plain => congrArg (Pattern.repeated 0 (some 1) true) (reading_eq own e plain)
  | .zeroOrMore e, plain => congrArg (Pattern.repeated 0 none true) (reading_eq own e plain)
  | .oneOrMore e, plain => congrArg (Pattern.repeated 1 none true) (reading_eq own e plain)
  | .repeat e min max, plain =>
    congrArg (Pattern.repeated min.toNat (max.map UInt32.toNat) true) (reading_eq own e plain)
  | .regex _, plain => nomatch plain

theorem readings_eq (own : String → Pattern) :
    (es : List PatternExpr) → plainAll es = true → readings es = meanings own es
  | [], _ => rfl
  | e :: es, plain => by
    obtain ⟨first, rest⟩ := Bool.and_eq_true_iff.mp plain
    exact congrArg₂ List.cons (reading_eq own e first) (readings_eq own es rest)

end

mutual

/-- The alternations within an expression. Each comes with whether a loop is around it whose rounds
may match the empty text. -/
def alternations (own : String → Pattern) (looped : Bool) :
    PatternExpr → List (Bool × List PatternExpr)
  | .str _ | .chars _ | .regex _ => []
  | .or es => (looped, es) :: alternationsAll own looped es
  | .seq es => alternationsAll own looped es
  | .optional e => e.alternations own looped
  | .zeroOrMore e | .oneOrMore e =>
    e.alternations own (looped || !(e.meaning own).consumes)
  | .repeat e _ max => e.alternations own (looped || max.isNone && !(e.meaning own).consumes)

def alternationsAll (own : String → Pattern) (looped : Bool) :
    List PatternExpr → List (Bool × List PatternExpr)
  | [] => []
  | e :: es => e.alternations own looped ++ alternationsAll own looped es

end

def readWith (join : List Pattern → Pattern) (e : PatternExpr) : Pattern :=
  match e.lower with
  | .ok f =>
    match (Syntax.parse f.source).bind (·.resolveWith join .initial) with
    | .ok (p, _) => p
    | .error _ => .set .none
  | .error _ => .set .none

def embedded (source : String) : Pattern :=
  (Pattern.parse source.toList).toOption.getD (.set .none)

theorem embedded_eq {source : String} {p : Pattern} (own : Pattern.parse source.toList = .ok p) :
    embedded source = p := by
  rw [embedded, own]
  rfl

/-- What the engine lifts out of the alternations within an expression matches in one way. -/
def FairWithin (looped : Bool) (e : PatternExpr) : Prop :=
  ∀ x ∈ e.alternations embedded looped,
    Pattern.FairChoice x.1 (x.2.map (·.readWith .alternation))

def Fair (e : PatternExpr) : Prop := e.FairWithin false

theorem matchEnd?_str (text : String) (c : Cursor) :
    (str text).reading.matchEnd? c = c.past? text.toList :=
  Pattern.matchEnd?_ofText text.toList c

theorem matchEnd?_chars (cs : List Char) (before : Option Char) (x : Char) (rest : List Char) :
    (chars cs).reading.matchEnd? ⟨before, x :: rest⟩ =
      if x ∈ cs then some ⟨some x, rest⟩ else none := by
  simp [reading, Regex.CharSet.mem_ofList]

theorem matchEnd?_or (es : List PatternExpr) (c : Cursor) :
    (or es).reading.matchEnd? c = es.findSome? fun e => e.reading.matchEnd? c := by
  rw [reading, readings_eq_map, Pattern.matchEnd?_choice, List.findSome?_map]
  rfl

end PatternExpr

/-! ### Fragments and what they are read as -/

namespace Fragment

/-- A fragment that is read as some items wherever it stands outside of verbose mode. A question
mark may follow only what a repetition operator governs as a whole. -/
structure Yields (f : Fragment) (items : List Syntax) : Prop where
  reads : ∀ (r : Reader) (tail : List Char), r.verbose = false →
    (f.atomic = true ∨ tail.head? ≠ some '?') →
    r.Reads (f.source ++ tail) { r with current.items := items.reverse ++ r.current.items } tail
  whole : f.atomic = true → f.source ≠ [] ∧
    ∃ item, items = [item] ∧ ∀ change, item ≠ .setFlags change
  front : f.source.head? ≠ some '?'

def holding (items : List Syntax) : Reader := ⟨⟨[], items.reverse⟩, [], false, []⟩

theorem Yields.naming {f : Fragment} {items : List Syntax} (h : f.Yields items) :
    f.YieldsNaming [] items where
  reads := fun r tail plain stop _ => h.reads r tail plain stop
  whole := h.whole
  front := h.front

theorem escapeChar_front (c : Char) :
    Regex.escapeChar c ≠ [] ∧ (Regex.escapeChar c).head? ≠ some '?' := by
  unfold Regex.escapeChar
  split
  · simp
  · rename_i special
    refine ⟨by simp, ?_⟩
    rintro h
    obtain rfl : c = '?' := by simpa using h
    exact special rfl

variable {join : List Pattern → Pattern}

theorem resolve_literal (c : Char) :
    (Syntax.literal c false).resolveWith join .initial = .ok (.set (.single c), .initial) := by
  simp [Syntax.resolveWith, Regex.literalSet, Flags.initial, Flags.foldCase, Except.map]

theorem ReadsNaming.char (c : Char) :
    ReadsNaming join [] ⟨Regex.escapeChar c, true⟩ (.set (.single c)) := by
  refine .item ?_ (resolve_literal c) (by simp) (escapeChar_front c).1 (escapeChar_front c).2
  intro r tail plain _
  refine Reader.reads_atom plain (Regex.nextToken_escapeChar c tail) ?_
  have := List.length_pos_iff.mpr (escapeChar_front c).1
  simp only [List.length_append]
  omega

theorem resolveUnion_chars (cs : List Char) :
    Regex.ClassSyntax.resolveUnion .initial (cs.map (.char · false)) = .ok (.ofList cs) := by
  induction cs with
  | nil => rfl
  | cons c cs ih =>
    simp only [List.map_cons, Regex.ClassSyntax.resolveUnion, ih]
    rfl

theorem ReadsNaming.chars (c d : Char) (cs : List Char) :
    ReadsNaming join [] ⟨'[' :: (c :: d :: cs).flatMap classMember ++ [']'], true⟩
      (.set (.ofList (c :: d :: cs))) := by
  let item : Syntax := .charClass (.bracketed false (.union ((c :: d :: cs).map (.char · false))))
  refine @ReadsNaming.item join _ _ item (.set (.ofList (c :: d :: cs))) ?_ ?_
    (by simp [item]) (by simp) (by simp)
  · intro r tail plain _
    have text : ('[' :: (c :: d :: cs).flatMap classMember ++ [']']) ++ tail =
        '[' :: ((c :: d :: cs).flatMap classMember ++ ']' :: tail) := by
      simp
    rw [text]
    refine Reader.reads_atom plain ?_ ?_
    · simp only [Regex.nextToken, Regex.skip, Bool.false_eq_true, if_false,
        Regex.readClass_members (List.cons_ne_nil c (d :: cs)) tail]
      rfl
    · simp only [List.length_cons, List.length_append]
      omega
  · simp only [item, Syntax.resolveWith, Regex.ClassSyntax.resolve, resolveUnion_chars]
    rfl

theorem yields_text (cs : List Char) :
    Yields ⟨Regex.escape cs, cs.length == 1⟩ (cs.map (Syntax.literal · false)) := by
  refine ⟨?_, ?_, ?_⟩
  · intro r tail plain stop
    clear stop
    induction cs generalizing r with
    | nil => exact .refl r tail
    | cons c cs ih =>
      have first := Reader.reads_atom plain
        (Regex.nextToken_escapeChar c (Regex.escape cs ++ tail)) (by
          have := List.length_pos_iff.mpr (escapeChar_front c).1
          simp only [List.length_append]
          omega)
      have rest := ih { r with current := r.current.push (.literal c false) } plain
      rw [Regex.escape_cons, List.append_assoc]
      refine first.trans ?_
      simpa [Regex.OpenSequence.push] using rest
  · intro single
    obtain ⟨c, rfl⟩ := List.length_eq_one_iff.mp (eq_of_beq single)
    refine ⟨?_, .literal c false, rfl, by simp⟩
    simpa using (escapeChar_front c).1
  · cases cs with
    | nil => simp
    | cons c cs =>
      rw [Regex.escape_cons, List.head?_append_of_ne_nil _ (escapeChar_front c).1]
      exact (escapeChar_front c).2

theorem resolve_text (cs : List Char) :
    Syntax.resolveListWith join .initial (cs.map (Syntax.literal · false)) =
      .ok (cs.map fun c => .set (.single c), .initial) := by
  induction cs with
  | nil => rfl
  | cons c cs ih => simp [Syntax.resolveListWith, resolve_literal, ih, Except.bind, Except.map]

theorem ReadsNaming.text (cs : List Char) :
    ReadsNaming join [] ⟨Regex.escape cs, cs.length == 1⟩ (.ofText cs) :=
  ⟨_, _, (yields_text cs).naming, resolve_text cs, rfl⟩

theorem joinable_of_yields {α : Type} {xs : List α} {fragment : α → Fragment}
    {items : α → List Syntax} {ps : α → List Pattern}
    (yields : ∀ x ∈ xs, (fragment x).Yields (items x))
    (resolves : ∀ x ∈ xs, Syntax.resolveListWith join .initial (items x) = .ok (ps x, .initial)) :
    Joinable join (xs.map fun x => (fragment x).source) (xs.map fun x => holding (items x))
      (xs.map fun x => ([.sequence (ps x)], .initial)) where
  fits := by
    rw [List.forall₂_map_left_iff, List.forall₂_map_right_iff, List.forall₂_same]
    exact fun x hx => (yields x hx).naming.fits
  resolves := by
    rw [List.forall₂_map_left_iff, List.forall₂_map_right_iff, List.forall₂_same]
    intro x hx
    simp [holding, Regex.OpenSequence.parts_eq, Syntax.resolveListWith,
      Syntax.resolveWith_ofItems, resolves x hx, Except.bind, Except.map]
  quiet := by
    intro e he
    obtain ⟨x, -, rfl⟩ := List.mem_map.mp (List.dropLast_subset _ he)
    rfl
  steady := by
    intro out hout
    obtain ⟨x, -, rfl⟩ := List.mem_map.mp (List.dropLast_subset _ hout)
    rfl
  apart := by
    refine List.pairwise_map.mpr (List.pairwise_of_forall_mem_list fun a _ b _ name hn => ?_)
    cases hn

end Fragment

/-! ### Lowering -/

section Lowering

open Fragment

variable {join : List Pattern → Pattern} {fair : Bool → List Pattern → Prop}
  {rel : Bool → Pattern → Pattern → Prop} {own : String → Pattern} {names : String → List String}

/-- Embedded texts that are each read in their group as they are read alone, and of which no two
give a name to a group in common. -/
structure ReadApart (join : List Pattern → Pattern) (own : String → Pattern)
    (names : String → List String) (texts : List String) : Prop where
  reads : ∀ s ∈ texts, ReadsNaming join (names s) ⟨group s.toList, true⟩ (own s)
  apart : texts.Pairwise fun s t => ∀ name ∈ names t, name ∉ names s

def Among (names : String → List String) (texts : List String) (ns : List String) : Prop :=
  ∀ name ∈ ns, ∃ s ∈ texts, name ∈ names s

/-- Alternations may be put together in this way: by this relation, and if they are fair, they are
as good as the choice of their branches. The relation may ask for more within a loop whose rounds
may match the empty text. -/
structure Joins (join : List Pattern → Pattern) (fair : Bool → List Pattern → Prop)
    (rel : Bool → Pattern → Pattern → Prop) : Prop where
  alone : ∀ p, join [p] = p
  alike : ∀ {looped p q}, p.Alike q → rel looped p q
  choice : ∀ {looped ps qs}, fair looped ps → List.Forall₂ (rel looped) ps qs →
    rel looped (join ps) (.choice qs)
  flatten : ∀ {looped pss qs}, List.Forall₂ (fun ps q => rel looped (.sequence ps) q) pss qs →
    rel looped (.sequence pss.flatten) (.sequence qs)
  repeated : ∀ {looped p q min max}, rel (looped || max.isNone && !q.consumes) p q →
    rel looped (.repeated min max true p) (.repeated min max true q)

theorem joins_choice : Joins .choice (fun _ _ => True) fun _ => Pattern.Alike where
  alone _ := rfl
  alike := id
  choice _ := .choice
  flatten := Pattern.sequence_flatten
  repeated h := h.repeated _ _ true

theorem joins_alternation :
    Joins .alternation Pattern.FairChoice fun looped => Pattern.Agree looped where
  alone _ := rfl
  alike := Pattern.Alike.agree
  choice fair each := (Pattern.agree_alternation fair).trans (.choice each)
  flatten := .sequence_flatten
  repeated h := .repeated true (h.consumes ▸ h)

theorem PatternExpr.readWith_eq {e : PatternExpr} {f : Fragment} {ns : List String} {p : Pattern}
    (lowered : e.lower = .ok f) (reads : f.ReadsNaming join ns p) : e.readWith join = p := by
  obtain ⟨s, parsed, resolves⟩ := reads.parse
  simp only [readWith, lowered, parsed, Except.bind, resolves]

mutual

theorem PatternExpr.lower_reads (joins : Joins join fair rel) :
    (e : PatternExpr) → ReadApart join own names e.texts → ∀ f, e.lower = .ok f →
    ∃ ns p, Among names e.texts ns ∧ f.ReadsNaming join ns p ∧ ∀ looped,
      (∀ x ∈ e.alternations own looped, fair x.1 (x.2.map (·.readWith join))) →
      rel looped p (e.meaning own)
  | .str text, _, f, lowered => by
    cases lowered
    exact ⟨[], _, by simp [Among], .text text.toList, fun _ _ => joins.alike (.refl _)⟩
  | .chars [], _, f, lowered => by cases lowered
  | .chars [c], _, f, lowered => by
    cases lowered
    refine ⟨[], _, by simp [Among], .char c, fun _ _ => joins.alike (.set fun d => ?_)⟩
    simp [Regex.CharSet.ofList, Regex.CharSet.mem]
  | .chars (c :: d :: cs), _, f, lowered => by
    cases lowered
    exact ⟨[], _, by simp [Among], .chars c d cs, fun _ _ => joins.alike (.refl _)⟩
  | .or es, embeds, f, lowered => by
    simp only [PatternExpr.lower] at lowered
    split at lowered
    · cases lowered
    · rename_i filled
      obtain ⟨fs, each, rfl⟩ := Regex.map_eq_ok.mp lowered
      obtain ⟨ns, ps, among, reads, same, related⟩ := lowerAll_reads joins es embeds fs each
      refine ⟨ns, join ps, among, reads.choice joins.alone ?_, fun looped fairs => ?_⟩
      · rintro rfl
        cases es with
        | nil => exact filled rfl
        | cons =>
          cases reads
          cases same
      · obtain ⟨here, within⟩ := List.forall_mem_cons.mp fairs
        exact joins.choice (same ▸ here) (related looped within)
  | .seq es, embeds, f, lowered => by
    obtain ⟨fs, each, rfl⟩ := Regex.map_eq_ok.mp lowered
    obtain ⟨ns, ps, among, reads, -, related⟩ := lowerAll_reads joins es embeds fs each
    split
    · rename_i f
      obtain ⟨p, rfl, alone⟩ : ∃ p, ps = [p] ∧ f.ReadsNaming join ns p := by
        cases reads with
        | cons first rest _ =>
          cases rest
          exact ⟨_, rfl, first⟩
      refine ⟨ns, p, among, alone, fun looped fairs => ?_⟩
      have whole := related looped fairs
      rw [PatternExpr.meaning]
      generalize PatternExpr.meanings own es = qs at whole
      cases whole with
      | cons first rest =>
        cases rest
        rw [Pattern.sequence_singleton]
        exact first
    · obtain ⟨rows, rfl, whole⟩ := reads.concat
      refine ⟨ns, _, among, whole, fun looped fairs => joins.flatten ?_⟩
      exact List.forall₂_map_left_iff.mp (related looped fairs)
  | .optional e, embeds, f, lowered => by
    obtain ⟨inner, body, rfl⟩ := Regex.map_eq_ok.mp lowered
    obtain ⟨ns, p, among, reads, related⟩ := lower_reads joins e embeds inner body
    refine ⟨ns, _, among, reads.quantified joins.alone (repeats_mark fun _ => rfl), ?_⟩
    exact fun looped fairs => joins.repeated (by simpa using related looped fairs)
  | .zeroOrMore e, embeds, f, lowered => by
    obtain ⟨inner, body, rfl⟩ := Regex.map_eq_ok.mp lowered
    obtain ⟨ns, p, among, reads, related⟩ := lower_reads joins e embeds inner body
    refine ⟨ns, _, among, reads.quantified joins.alone (repeats_mark fun _ => rfl), ?_⟩
    exact fun looped fairs => joins.repeated (related _ fairs)
  | .oneOrMore e, embeds, f, lowered => by
    obtain ⟨inner, body, rfl⟩ := Regex.map_eq_ok.mp lowered
    obtain ⟨ns, p, among, reads, related⟩ := lower_reads joins e embeds inner body
    refine ⟨ns, _, among, reads.quantified joins.alone (repeats_mark fun _ => rfl), ?_⟩
    exact fun looped fairs => joins.repeated (related _ fairs)
  | .repeat e min max, embeds, f, lowered => by
    simp only [PatternExpr.lower] at lowered
    split at lowered
    · cases lowered
    · rename_i bounded
      obtain ⟨inner, body, rfl⟩ := Regex.map_eq_ok.mp lowered
      obtain ⟨ns, p, among, reads, related⟩ := lower_reads joins e embeds inner body
      refine ⟨ns, _, among,
        reads.quantified joins.alone (repeats_boundsOperator min max ?_), ?_⟩
      · rintro m rfl
        simpa [Option.filter_eq_none_iff] using bounded
      · exact fun looped fairs => joins.repeated (by simpa using related _ fairs)
  | .regex source, embeds, f, lowered => by
    cases lowered
    exact ⟨names source, _, fun name hn => ⟨source, List.mem_singleton_self _, hn⟩,
      embeds.reads source (List.mem_singleton_self _), fun _ _ => joins.alike (.refl _)⟩

theorem PatternExpr.lowerAll_reads (joins : Joins join fair rel) :
    (es : List PatternExpr) → ReadApart join own names (PatternExpr.textsAll es) →
    ∀ fs, PatternExpr.lowerAll es = .ok fs →
    ∃ ns ps, Among names (PatternExpr.textsAll es) ns ∧ ReadsAll join ns fs ps ∧
      ps = es.map (·.readWith join) ∧ ∀ looped,
      (∀ x ∈ PatternExpr.alternationsAll own looped es,
        fair x.1 (x.2.map (·.readWith join))) →
      List.Forall₂ (rel looped) ps (PatternExpr.meanings own es)
  | [], _, fs, lowered => by
    cases lowered
    exact ⟨[], [], by simp [Among], .nil, rfl, fun _ _ => .nil⟩
  | e :: es, embeds, fs, lowered => by
    obtain ⟨f, first, rest⟩ := Regex.bind_eq_ok.mp lowered
    obtain ⟨fs, each, rfl⟩ := Regex.map_eq_ok.mp rest
    obtain ⟨here, there, across⟩ := List.pairwise_append.mp embeds.apart
    obtain ⟨ns, p, among, reads, related⟩ := lower_reads joins e
      ⟨fun s hs => embeds.reads s (List.mem_append_left _ hs), here⟩ f first
    obtain ⟨ms, ps, among', reads', same, related'⟩ := lowerAll_reads joins es
      ⟨fun s hs => embeds.reads s (List.mem_append_right _ hs), there⟩ fs each
    refine ⟨ms ++ ns, p :: ps, fun name hn => ?_, .cons reads reads' fun name hm hn => ?_, ?_,
      fun looped fairs => ?_⟩
    · rcases List.mem_append.mp hn with hn | hn
      · obtain ⟨s, hs, given⟩ := among' name hn
        exact ⟨s, List.mem_append_right _ hs, given⟩
      · obtain ⟨s, hs, given⟩ := among name hn
        exact ⟨s, List.mem_append_left _ hs, given⟩
    · obtain ⟨s, hs, given⟩ := among name hn
      obtain ⟨t, ht, given'⟩ := among' name hm
      exact across s hs t ht name given' given
    · rw [List.map_cons, same, PatternExpr.readWith_eq first reads]
    · obtain ⟨left, right⟩ := List.forall_mem_append.mp fairs
      exact .cons (related looped left) (related' looped right)

end

theorem PatternExpr.lower_plain (joins : Joins join fair rel) (e : PatternExpr)
    (plain : e.plain = true) {f : Fragment} (lowered : e.lower = .ok f) :
    f.ReadsNaming join [] (e.readWith join) ∧
      ((∀ x ∈ e.alternations embedded false, fair x.1 (x.2.map (·.readWith join))) →
        rel false (e.readWith join) e.reading) := by
  have blank := e.texts_of_plain plain
  have embeds : ReadApart join embedded (fun _ => []) e.texts :=
    ⟨by simp [blank], by simp [blank]⟩
  obtain ⟨ns, p, among, reads, related⟩ := e.lower_reads joins embeds f lowered
  obtain rfl : ns = [] := List.eq_nil_iff_forall_not_mem.mpr fun name hn => by
    simpa using among name hn
  rw [PatternExpr.readWith_eq lowered reads, reading_eq embedded e plain]
  exact ⟨reads, related false⟩

end Lowering

/-- What the expander makes of an expression without embedded text can be read as a regex, which is
alike to the expression read part by part and so matches what that matches. It compiles unless it
nests too deep or its program is too large; what it is compiled as matches the same if what the
engine lifts out of alternations matches in one way. -/
theorem expandRegex_reads (e : PatternExpr) (source : String) (plain : e.plain = true)
    (accepted : expandRegex e = .ok source) :
    ∃ s p q, Syntax.parse source.toList = .ok s ∧ s.resolve .initial = .ok (p, Flags.initial) ∧
      p.Alike e.reading ∧ (∀ c, p.matchEnd? c = e.reading.matchEnd? c) ∧
      s.translate .initial = .ok (q, Flags.initial) ∧
      (Pattern.compile source.toList = .ok q ↔ s.depth ≤ Regex.depthLimit ∧ q.fits = true) ∧
      (e.Fair → q.SameEnds e.reading ∧ ∀ c, q.matchEnd? c = e.reading.matchEnd? c) := by
  obtain ⟨f, lowered, rfl⟩ := Regex.map_eq_ok.mp accepted
  obtain ⟨reads, alike⟩ := e.lower_plain joins_choice plain lowered
  obtain ⟨reads', agree⟩ := e.lower_plain joins_alternation plain lowered
  obtain ⟨s, parsed, resolves⟩ := reads.parse
  obtain ⟨s', parsed', translates⟩ := reads'.parse
  obtain rfl : s = s' := Except.ok.inj (parsed.symm.trans parsed')
  have same := alike fun _ _ => trivial
  rw [String.toList_ofList]
  refine ⟨s, _, _, parsed, resolves, same, same.matchEnd?_eq, translates, ?_, fun fair => ?_⟩
  · simp [Pattern.compile_eq_ok, parsed, translates]
  · have ends := (agree fair).ends
    exact ⟨ends, ends.matchEnd?_eq⟩

theorem expandRegex_reads_nested : ∃ s p,
    Syntax.parse "(?:a\\||[\\-\\]])?(?:ab){2,}".toList = .ok s ∧
      s.resolve .initial = .ok (p, Flags.initial) ∧
      p.Alike (PatternExpr.seq [.optional (.or [.str "a|", .chars ['-', ']']]),
        .repeat (.str "ab") 2 none]).reading := by
  obtain ⟨s, p, _, parsed, resolves, alike, -⟩ := expandRegex_reads
    (.seq [.optional (.or [.str "a|", .chars ['-', ']']]), .repeat (.str "ab") 2 none])
    "(?:a\\||[\\-\\]])?(?:ab){2,}" (by decide) (by decide +kernel)
  exact ⟨s, p, parsed, resolves, alike⟩

end Ligature.Rules
