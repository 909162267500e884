import Ligature.Proofs.Splicing
import Ligature.Proofs.WalkLaws

/-!
# Fragments of regex text

What a fragment is read as wherever it stands: some items, and the pattern that they mean, with
alternations put together in whatever way. A fragment may give names to groups; then it can be read
only where these names are not taken. Each way to put fragments together has its lemma: between bars
in a group, one after the other, and under a repetition operator.
-/
namespace Ligature.Regex

theorem Joinable.cons {join : List Pattern → Pattern} {cs : List Char} {e : Reader}
    {out : List Pattern × Flags} {css : List (List Char)} {es : List Reader}
    {outs : List (List Pattern × Flags)} (first : Joinable join [cs] [e] [out])
    (rest : Joinable join css es outs) (quiet : e.verbose = false) (steady : out.2 = .initial)
    (apart : ∀ x ∈ es, e.Apart x) : Joinable join (cs :: css) (e :: es) (out :: outs) where
  fits := List.rel_append first.fits rest.fits
  resolves := List.rel_append first.resolves rest.resolves
  quiet := by
    have each : ∀ x ∈ e :: es.dropLast, x.verbose = false :=
      List.forall_mem_cons.mpr ⟨quiet, rest.quiet⟩
    cases es with
    | nil => simp
    | cons => exact each
  steady := by
    have each : ∀ x ∈ out :: outs.dropLast, x.2 = .initial :=
      List.forall_mem_cons.mpr ⟨steady, rest.steady⟩
    cases outs with
    | nil => simp
    | cons => exact each
  apart := List.pairwise_cons.mpr ⟨apart, rest.apart⟩

end Ligature.Regex

namespace Ligature.Rules

open Regex (Pattern Reader Syntax Flags Joinable)

namespace Fragment

/-- A fragment that is read as some items wherever it stands outside of verbose mode and the group
names in it are not taken. A question mark may follow only what a repetition operator governs as a
whole. -/
structure YieldsNaming (names : List String) (f : Fragment) (items : List Syntax) : Prop where
  reads : ∀ (r : Reader) (tail : List Char), r.verbose = false →
    (f.atomic = true ∨ tail.head? ≠ some '?') → (∀ name ∈ names, name ∉ r.names) →
    r.Reads (f.source ++ tail) { r with
      current.items := items.reverse ++ r.current.items
      names := names ++ r.names } tail
  whole : f.atomic = true → f.source ≠ [] ∧
    ∃ item, items = [item] ∧ ∀ change, item ≠ .setFlags change
  front : f.source.head? ≠ some '?'

def ReadsNaming (join : List Pattern → Pattern) (names : List String) (f : Fragment) (p : Pattern) :
    Prop :=
  ∃ items ps, f.YieldsNaming names items ∧
    Syntax.resolveListWith join .initial items = .ok (ps, .initial) ∧ Pattern.sequence ps = p

inductive ReadsAll (join : List Pattern → Pattern) :
    List String → List Fragment → List Pattern → Prop where
  | nil : ReadsAll join [] [] []
  | cons {ns ms : List String} {f : Fragment} {p : Pattern} {fs : List Fragment}
      {ps : List Pattern} (first : f.ReadsNaming join ns p) (rest : ReadsAll join ms fs ps)
      (apart : ∀ name ∈ ms, name ∉ ns) : ReadsAll join (ms ++ ns) (f :: fs) (p :: ps)

def holdingNaming (names : List String) (items : List Syntax) : Reader :=
  ⟨⟨[], items.reverse⟩, [], false, names⟩

variable {join : List Pattern → Pattern} {names : List String} {f : Fragment} {p : Pattern}
  {fs : List Fragment} {ps : List Pattern}

theorem YieldsNaming.fits {items : List Syntax} (h : f.YieldsNaming names items) :
    Reader.Fits f.source (holdingNaming names items) := by
  intro r tail begins plain apart barred
  have stop : tail.head? ≠ some '?' := by
    obtain ⟨c, rest, rfl, rfl | rfl⟩ := barred.eq_cons <;> simp
  have reads := h.reads r tail plain (.inr stop) apart
  rw [begins] at reads
  have same : r.resume (holdingNaming names items) =
      { r with current.items := items.reverse ++ [], names := names ++ r.names } := by
    simp [Reader.resume, holdingNaming, plain]
  exact same ▸ reads

theorem ReadsNaming.item {source : List Char} {item : Syntax} {p : Pattern}
    (reads : ∀ (r : Reader) (tail : List Char), r.verbose = false →
      (∀ name ∈ names, name ∉ r.names) →
      r.Reads (source ++ tail) { r with
        current := r.current.push item
        names := names ++ r.names } tail)
    (resolves : item.resolveWith join .initial = .ok (p, .initial))
    (solid : ∀ change, item ≠ .setFlags change) (filled : source ≠ [])
    (front : source.head? ≠ some '?') : ReadsNaming join names ⟨source, true⟩ p := by
  refine ⟨[item], [p], ⟨?_, ?_, front⟩, ?_, Pattern.sequence_singleton p⟩
  · intro r tail plain _ free
    exact reads r tail plain free
  · exact fun _ => ⟨filled, item, rfl, solid⟩
  · simp [Syntax.resolveListWith, resolves, Except.bind, Except.map]

/-! ### Between bars -/

theorem YieldsNaming.joinable {items : List Syntax} (yields : f.YieldsNaming names items)
    (resolves : Syntax.resolveListWith join .initial items = .ok (ps, .initial)) :
    Joinable join [f.source] [holdingNaming names items] [([.sequence ps], .initial)] where
  fits := .cons yields.fits .nil
  resolves := by
    refine .cons ?_ .nil
    simp [holdingNaming, Regex.OpenSequence.parts_eq, Syntax.resolveListWith,
      Syntax.resolveWith_ofItems, resolves, Except.bind, Except.map]
  quiet := by simp
  steady := by simp
  apart := List.pairwise_singleton _ _

theorem ReadsAll.joinable (h : ReadsAll join names fs ps) : ∃ es : List Reader,
    Joinable join (fs.map (·.source)) es (ps.map fun p => ([p], Flags.initial)) ∧
      Reader.namesBefore es [] = names := by
  induction h with
  | nil => exact ⟨[], ⟨.nil, .nil, by simp, by simp, .nil⟩, rfl⟩
  | @cons ns ms f p fs ps first _ apart ih =>
    obtain ⟨items, rs, yields, resolves, rfl⟩ := first
    obtain ⟨es, joinable, same⟩ := ih
    refine ⟨holdingNaming ns items :: es, ?_, ?_⟩
    · refine (yields.joinable resolves).cons joinable rfl rfl fun x hx name hn => ?_
      exact apart name (same ▸ Reader.mem_namesBefore.mpr (.inr ⟨x, hx, hn⟩))
    · have step : Reader.namesBefore (holdingNaming ns items :: es) [] =
          Reader.namesBefore es (ns ++ []) := rfl
      rw [step, Reader.namesBefore_append, same, List.append_nil]

theorem ReadsNaming.group {css : List (List Char)} {es : List Reader}
    {outs : List (List Pattern × Flags)} (joinable : Joinable join css es outs)
    (alone : ∀ p, join [p] = p) (filled : es ≠ []) :
    ReadsNaming join (Reader.namesBefore es []) ⟨Fragment.group (joinWith ['|'] css), true⟩
      (join (outs.flatMap (·.1))) := by
  refine .item ?_ (joinable.resolve_groupTree alone filled) (by simp [Regex.groupTree])
    (by simp [Fragment.group]) (by simp [Fragment.group])
  intro r tail plain free
  have apart : ∀ e ∈ es, r.Apart e := fun e he name hn =>
    free name (Reader.mem_namesBefore.mpr (.inr ⟨e, he, hn⟩))
  rw [← Reader.namesBefore_append]
  exact joinable.reads filled r plain apart tail

theorem ReadsAll.choice (h : ReadsAll join names fs ps) (alone : ∀ p, join [p] = p)
    (filled : fs ≠ []) :
    ReadsNaming join names ⟨group (joinWith ['|'] (fs.map (·.source))), true⟩ (join ps) := by
  obtain ⟨es, joinable, rfl⟩ := h.joinable
  have several : es ≠ [] := by
    rintro rfl
    have fits := joinable.fits
    cases fs with
    | nil => exact filled rfl
    | cons => cases fits
  have reads := ReadsNaming.group joinable alone several
  rwa [List.flatMap_map, List.flatMap_singleton'] at reads

/-! ### Under a repetition operator -/

theorem ReadsAll.single (h : f.ReadsNaming join names p) : ReadsAll join names [f] [p] :=
  .cons h .nil (by simp)

theorem ReadsNaming.grouped (h : f.ReadsNaming join names p) (alone : ∀ p, join [p] = p) :
    ReadsNaming join names ⟨f.grouped, true⟩ p := by
  unfold Fragment.grouped
  split
  · rename_i whole
    obtain ⟨source, atomic⟩ := f
    cases whole
    exact h
  · have reads := (ReadsAll.single h).choice alone (by simp)
    rwa [alone] at reads

def Repeats (operator : List Char) (min : Nat) (max : Option Nat) : Prop :=
  operator ≠ [] ∧ ∀ tail, tail.head? ≠ some '?' →
    Regex.nextToken false (operator ++ tail) = .ok (.repeated min max true, tail)

theorem repeats_mark {min : Nat} {max : Option Nat} {c : Char}
    (read : ∀ tail, Regex.nextToken false (c :: tail) = .ok (Regex.readGreed min max tail)) :
    Repeats [c] min max := by
  refine ⟨by simp, fun tail stop => ?_⟩
  rw [List.singleton_append, read, Regex.readGreed_greedy _ _ stop]

theorem repeats_boundsOperator (min : UInt32) (max : Option UInt32)
    (ordered : ∀ m, max = some m → min ≤ m) :
    Repeats (boundsOperator min max) min.toNat (max.map UInt32.toNat) := by
  obtain ⟨inside, front, bounds⟩ := Regex.readBounds_boundsOperator min max ordered
  refine ⟨by simp [front], fun tail stop => ?_⟩
  simp only [front, List.cons_append, Regex.nextToken, Regex.skip, Bool.false_eq_true, if_false,
    bounds tail, Except.map, Regex.readGreed_greedy _ _ stop]

theorem ReadsNaming.quantified (h : f.ReadsNaming join names p) (alone : ∀ p, join [p] = p)
    {operator : List Char} {min : Nat} {max : Option Nat} (op : Repeats operator min max) :
    ReadsNaming join names (f.quantified operator) (.repeated min max true p) := by
  obtain ⟨items, ps, yields, resolves, rfl⟩ := h.grouped alone
  obtain ⟨filled, item, rfl, solid⟩ := yields.whole rfl
  obtain ⟨q, hq, rfl⟩ : ∃ q, item.resolveWith join .initial = .ok (q, Flags.initial) ∧
      ps = [q] := by
    cases hq : item.resolveWith join .initial with
    | error e => simp [Syntax.resolveListWith, hq, Except.bind] at resolves
    | ok x =>
      simp [Syntax.resolveListWith, hq, Except.bind, Except.map] at resolves
      exact ⟨x.1, by rw [← resolves.2], resolves.1.symm⟩
  rw [Pattern.sequence_singleton]
  refine ⟨[.repetition min max true item], [.repeated min max true q],
    ⟨?_, by simp [Fragment.quantified], ?_⟩, ?_, ?_⟩
  · intro r tail plain stop free
    have stop : tail.head? ≠ some '?' := by simpa [Fragment.quantified] using stop
    have body := yields.reads r (operator ++ tail) plain (.inl rfl) free
    have shorter : tail.length < (operator ++ tail).length := by
      have := List.length_pos_iff.mpr op.1
      simp only [List.length_append]
      omega
    have repetition := Reader.reads_repetition
      (r := { r with current.items := item :: r.current.items, names := names ++ r.names }) plain
      (op.2 tail stop) shorter rfl solid
    rw [Fragment.quantified, List.append_assoc]
    exact body.trans repetition
  · rw [Fragment.quantified, List.head?_append_of_ne_nil _ filled]
    exact yields.front
  · simp only [Syntax.resolveListWith, Syntax.resolveWith, hq]
    rfl
  · exact Pattern.sequence_singleton _

/-! ### One after the other -/

/-- No fragment lets a question mark come first that was not there before. -/
theorem head_flatMap_source {fs : List Fragment} (fronts : ∀ f ∈ fs, f.source.head? ≠ some '?')
    {tail : List Char} (stop : tail.head? ≠ some '?') :
    (fs.flatMap (·.source) ++ tail).head? ≠ some '?' := by
  induction fs with
  | nil => exact stop
  | cons f fs ih =>
    rw [List.flatMap_cons, List.append_assoc]
    cases h : f.source with
    | nil => exact ih fun x hx => fronts x (List.mem_cons_of_mem _ hx)
    | cons c cs => simpa [h] using fronts f List.mem_cons_self

theorem ReadsAll.front (h : ReadsAll join names fs ps) : ∀ f ∈ fs, f.source.head? ≠ some '?' := by
  induction h with
  | nil => simp
  | cons first _ _ ih =>
    obtain ⟨items, rs, yields, -⟩ := first
    exact List.forall_mem_cons.mpr ⟨yields.front, ih⟩

/-- Fragments one after the other. What they are read as is one sequence, with the sequences among
them opened. -/
theorem ReadsAll.concat (h : ReadsAll join names fs ps) :
    ∃ rows : List (List Pattern), rows.map Pattern.sequence = ps ∧
      ReadsNaming join names ⟨fs.flatMap (·.source), false⟩ (.sequence rows.flatten) := by
  obtain ⟨trees, rows, reads, resolves, same⟩ : ∃ (trees : List (List Syntax))
      (rows : List (List Pattern)),
      (∀ (r : Reader) (tail : List Char), r.verbose = false → tail.head? ≠ some '?' →
        (∀ name ∈ names, name ∉ r.names) →
        r.Reads (fs.flatMap (·.source) ++ tail) { r with
          current.items := trees.flatten.reverse ++ r.current.items
          names := names ++ r.names } tail) ∧
      Syntax.resolveListWith join .initial trees.flatten = .ok (rows.flatten, Flags.initial) ∧
      rows.map Pattern.sequence = ps := by
    induction h with
    | nil => exact ⟨[], [], fun r tail _ _ _ => .refl r tail, rfl, rfl⟩
    | @cons ns ms f p fs ps first rest apart ih =>
      obtain ⟨items, row, yields, resolves, same⟩ := first
      obtain ⟨trees, rows, reads, resolves', same'⟩ := ih
      refine ⟨items :: trees, row :: rows, ?_, ?_, congrArg₂ List.cons same same'⟩
      · intro r tail plain stop free
        have next := head_flatMap_source rest.front stop
        have here := yields.reads r (fs.flatMap (·.source) ++ tail) plain (.inr next) fun name hn =>
          free name (List.mem_append_right _ hn)
        have later := reads { r with
            current.items := items.reverse ++ r.current.items
            names := ns ++ r.names } tail plain stop fun name hn => by
          have old := free name (List.mem_append_left _ hn)
          simpa using ⟨apart name hn, old⟩
        rw [List.flatMap_cons, List.append_assoc]
        refine here.trans ?_
        simpa using later
      · simp only [List.flatten_cons, Syntax.resolveListWith_append, resolves, Except.bind,
          resolves', Except.map]
  refine ⟨rows, same, trees.flatten, rows.flatten, ⟨?_, by simp, ?_⟩, resolves, rfl⟩
  · exact fun r tail plain stop free => reads r tail plain (by simpa using stop) free
  · have none : ([] : List Char).head? ≠ some '?' := by simp
    simpa using head_flatMap_source h.front none

theorem ReadsNaming.parse (h : f.ReadsNaming join names p) :
    ∃ s, Syntax.parse f.source = .ok s ∧ s.resolveWith join .initial = .ok (p, Flags.initial) := by
  obtain ⟨items, ps, yields, resolves, rfl⟩ := h
  have reads := yields.reads .start [] rfl (.inr (by simp)) (by simp [Reader.start])
  rw [List.append_nil] at reads
  refine ⟨Syntax.ofItems items, ?_, by rw [Syntax.resolveWith_ofItems, resolves]; rfl⟩
  rw [reads.parse]
  simp [Reader.finish, Reader.start, Regex.OpenSequence.empty, Regex.OpenSequence.close,
    Regex.OpenSequence.bar, Syntax.ofBranches]

end Fragment

end Ligature.Rules
