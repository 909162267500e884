import Mathlib.Data.List.Forall2
import Ligature.Proofs.Reading

/-!
# Texts between bars

A text fits if it is read alike wherever it begins a branch. Texts that fit may stand between bars
in a group: the branches of the group are those of the texts, one after the other, as long as each
text but the last leaves verbose mode off and no two of them use a group name twice.
-/
namespace Ligature.Regex

open Rules (joinWith Fragment)

def OpenSequence.parts (s : OpenSequence) : List Syntax := s.bar.branches.reverse

theorem OpenSequence.parts_eq (s : OpenSequence) :
    s.parts = s.branches.reverse ++ [Syntax.ofItems s.items.reverse] := by
  simp [parts, bar]

theorem OpenSequence.parts_ne_nil (s : OpenSequence) : s.parts ≠ [] := by
  simp [parts_eq]

namespace Reader

/-- A reader that, from the start of a branch, has read what `e` has read on its own. -/
def resume (r e : Reader) : Reader where
  current := ⟨e.current.branches ++ r.current.branches, e.current.items⟩
  groups := r.groups
  verbose := e.verbose
  names := e.names ++ r.names

def Apart (r e : Reader) : Prop := ∀ name ∈ e.names, name ∉ r.names

/-- A text is read as `e` wherever it begins a branch outside of verbose mode, unless one of its
group names is taken. -/
def Fits (cs : List Char) (e : Reader) : Prop :=
  ∀ (r : Reader) (tail : List Char), r.current.items = [] → r.verbose = false → r.Apart e →
    Barred tail → r.Reads (cs ++ tail) (r.resume e) tail

def namesBefore (es : List Reader) (names : List String) : List String :=
  es.foldl (fun names e => e.names ++ names) names

theorem mem_namesBefore {es : List Reader} {names : List String} {name : String} :
    name ∈ namesBefore es names ↔ name ∈ names ∨ ∃ e ∈ es, name ∈ e.names := by
  induction es generalizing names with
  | nil => simp [namesBefore]
  | cons e es ih =>
    have step : namesBefore (e :: es) names = namesBefore es (e.names ++ names) := rfl
    rw [step, ih]
    simp only [List.mem_append, List.mem_cons, exists_eq_or_imp]
    tauto

theorem namesBefore_of_nameless {es : List Reader} (nameless : ∀ e ∈ es, e.names = [])
    (names : List String) : namesBefore es names = names := by
  induction es generalizing names with
  | nil => rfl
  | cons e es ih =>
    have step : namesBefore (e :: es) names = namesBefore es (e.names ++ names) := rfl
    rw [step, nameless e List.mem_cons_self]
    exact ih (fun x hx => nameless x (List.mem_cons_of_mem _ hx)) names

theorem namesBefore_append (es : List Reader) (names : List String) :
    namesBefore es names = namesBefore es [] ++ names := by
  induction es generalizing names with
  | nil => rfl
  | cons e es ih =>
    have step : ∀ names, namesBefore (e :: es) names = namesBefore es (e.names ++ names) :=
      fun _ => rfl
    rw [step, step, ih, ih (e.names ++ []), List.append_nil, List.append_assoc]

theorem reads_joined {css : List (List Char)} {es : List Reader} (fits : List.Forall₂ Fits css es)
    (some : es ≠ []) (quiet : ∀ e ∈ es.dropLast, e.verbose = false) (apart : es.Pairwise Apart)
    (r : Reader) (begins : r.current.items = []) (plain : r.verbose = false)
    (free : ∀ e ∈ es, r.Apart e) (tail : List Char) :
    ∃ r', r.Reads (joinWith ['|'] css ++ ')' :: tail) r' (')' :: tail) ∧ r'.groups = r.groups ∧
      r'.current.parts = r.current.branches.reverse ++ es.flatMap (·.current.parts) ∧
      r'.names = namesBefore es r.names := by
  -- Behind each bar the next text begins a branch of its own, outside of verbose mode.
  induction fits generalizing r with
  | nil => exact absurd rfl some
  | @cons cs e css es first rest ih =>
    cases rest with
    | nil =>
      refine ⟨r.resume e, ?_, rfl, ?_, rfl⟩
      · exact first r _ begins plain (free e List.mem_cons_self) (.close tail)
      · simp [OpenSequence.parts_eq, resume]
    | @cons cs' e' css es next rest =>
      have off : e.verbose = false := quiet e (by simp)
      let barred : Reader := { r.resume e with current := (r.resume e).current.bar }
      have here : r.Reads (joinWith ['|'] (cs :: cs' :: css) ++ ')' :: tail) barred
          (joinWith ['|'] (cs' :: css) ++ ')' :: tail) := by
        have text : joinWith ['|'] (cs :: cs' :: css) ++ ')' :: tail =
            cs ++ '|' :: (joinWith ['|'] (cs' :: css) ++ ')' :: tail) := by
          simp [joinWith]
        rw [text]
        exact (first r _ begins plain (free e List.mem_cons_self) (.bar _)).trans
          (reads_bar (r.resume e) _)
      have apart' := List.pairwise_cons.mp apart
      have free' : ∀ x ∈ e' :: es, barred.Apart x := by
        intro x hx name hn
        have old := free x (List.mem_cons_of_mem _ hx) name hn
        have new := apart'.1 x hx name hn
        simpa [barred, resume] using ⟨new, old⟩
      have quiet' : ∀ x ∈ (e' :: es).dropLast, x.verbose = false := by
        intro x hx
        exact quiet x (by simpa using Or.inr hx)
      obtain ⟨r', reads, groups, parts, names⟩ :=
        ih (by simp) quiet' apart'.2 barred rfl off free'
      refine ⟨r', here.trans reads, groups, ?_, names⟩
      have mine : barred.current.branches.reverse =
          r.current.branches.reverse ++ e.current.parts := by
        simp [barred, OpenSequence.parts_eq, resume, OpenSequence.bar]
      rw [parts, mine, List.append_assoc]
      rfl

theorem reads_group {css : List (List Char)} {es : List Reader} (fits : List.Forall₂ Fits css es)
    (some : es ≠ []) (quiet : ∀ e ∈ es.dropLast, e.verbose = false) (apart : es.Pairwise Apart)
    (r : Reader) (plain : r.verbose = false) (free : ∀ e ∈ es, r.Apart e) (tail : List Char) :
    r.Reads (Fragment.group (joinWith ['|'] css) ++ tail)
      { r with
        current := r.current.push
          (.group (.plain []) (Syntax.ofBranches (es.flatMap (·.current.parts))))
        names := namesBefore es r.names } tail := by
  have text : Fragment.group (joinWith ['|'] css) ++ tail =
      '(' :: '?' :: ':' :: (joinWith ['|'] css ++ ')' :: tail) := by
    simp [Fragment.group]
  obtain ⟨r', reads, groups, parts, names⟩ := reads_joined fits some quiet apart
    (r.openGroup (.plain [])) rfl plain free tail
  have closed := reads_close (r := r') groups tail
  rw [OpenSequence.close, ← OpenSequence.parts, parts, names] at closed
  rw [text]
  exact ((reads_open plain _).trans reads).trans closed

end Reader

/-! ### What the branches mean -/

namespace Syntax

variable (join : List Pattern → Pattern)

theorem resolveListWith_append (f : Flags) (as bs : List Syntax) :
    resolveListWith join f (as ++ bs) = (resolveListWith join f as).bind fun x =>
      (resolveListWith join x.2 bs).map fun y => (x.1 ++ y.1, y.2) := by
  induction as generalizing f with
  | nil =>
    simp only [List.nil_append, resolveListWith, Except.bind]
    cases resolveListWith join f bs <;> rfl
  | cons s as ih =>
    simp only [List.cons_append, resolveListWith]
    cases s.resolveWith join f with
    | error e => rfl
    | ok x =>
      simp only [Except.bind, ih]
      cases resolveListWith join x.2 as with
      | error e => rfl
      | ok y =>
        simp only [Except.map]
        cases resolveListWith join y.2 bs <;> rfl

theorem resolveWith_ofItems (f : Flags) (items : List Syntax) : (ofItems items).resolveWith join f =
    (resolveListWith join f items).map fun x => (Pattern.sequence x.1, x.2) := by
  match items with
  | [] => rfl
  | [s] =>
    simp only [ofItems, resolveListWith]
    cases s.resolveWith join f with
    | error e => rfl
    | ok x => simp [Except.bind, Except.map, Pattern.sequence, Pattern.append]
  | s :: t :: items =>
    have several : ofItems (s :: t :: items) = .concat (s :: t :: items) := rfl
    rw [several, resolveWith]

variable {join}

theorem resolveWith_ofBranches (alone : ∀ p, join [p] = p) (f : Flags) {branches : List Syntax}
    (some : branches ≠ []) : (ofBranches branches).resolveWith join f =
      (resolveListWith join f branches).map fun x => (join x.1, x.2) := by
  match branches with
  | [] => exact absurd rfl some
  | [s] =>
    simp only [ofBranches, resolveListWith]
    cases s.resolveWith join f with
    | error e => rfl
    | ok x => simp [Except.bind, Except.map, alone]
  | s :: t :: branches =>
    have several : ofBranches (s :: t :: branches) = .alternation (s :: t :: branches) := rfl
    rw [several, resolveWith]

/-- A group without flags of its own gives back the flags that it found. -/
theorem resolveWith_group (alone : ∀ p, join [p] = p) {f g : Flags} {branches : List Syntax}
    {ps : List Pattern} (some : branches ≠ [])
    (h : resolveListWith join f branches = .ok (ps, g)) :
    (Syntax.group (.plain []) (ofBranches branches)).resolveWith join f = .ok (join ps, f) := by
  have same : f.apply [] = f := rfl
  rw [resolveWith, same, resolveWith_ofBranches alone f some, h]
  rfl

theorem resolveListWith_flatMap {α : Type} {parts : α → List Syntax} {f : Flags} {es : List α}
    {outs : List (List Pattern × Flags)}
    (each : List.Forall₂ (fun e out => resolveListWith join f (parts e) = .ok out) es outs)
    (quiet : ∀ out ∈ outs.dropLast, out.2 = f) :
    ∃ g, resolveListWith join f (es.flatMap parts) = .ok (outs.flatMap (·.1), g) := by
  induction each with
  | nil => exact ⟨f, rfl⟩
  | @cons e out es outs first rest ih =>
    cases rest with
    | nil => exact ⟨out.2, by simpa using first⟩
    | @cons e' out' es outs next rest =>
      obtain ⟨g, hg⟩ := ih fun x hx => quiet x (by simpa using Or.inr hx)
      have same : out.2 = f := quiet out (by simp)
      refine ⟨g, ?_⟩
      rw [List.flatMap_cons, resolveListWith_append, first]
      simp only [Except.bind, same, hg, Except.map]
      rfl

end Syntax

/-! ### Texts that may be joined -/

structure Joinable (join : List Pattern → Pattern) (css : List (List Char)) (es : List Reader)
    (outs : List (List Pattern × Flags)) : Prop where
  fits : List.Forall₂ Reader.Fits css es
  resolves : List.Forall₂
    (fun e out => Syntax.resolveListWith join .initial e.current.parts = .ok out) es outs
  quiet : ∀ e ∈ es.dropLast, e.verbose = false
  steady : ∀ out ∈ outs.dropLast, out.2 = .initial
  apart : es.Pairwise Reader.Apart

def groupTree (es : List Reader) : Syntax :=
  .group (.plain []) (Syntax.ofBranches (es.flatMap (·.current.parts)))

def Reader.ofGroup (es : List Reader) : Reader :=
  ⟨⟨[], [groupTree es]⟩, [], false, Reader.namesBefore es []⟩

namespace Joinable

variable {join : List Pattern → Pattern} {css : List (List Char)} {es : List Reader}
  {outs : List (List Pattern × Flags)}

theorem reads (h : Joinable join css es outs) (filled : es ≠ []) (r : Reader)
    (plain : r.verbose = false)
    (free : ∀ e ∈ es, r.Apart e) (tail : List Char) :
    r.Reads (Fragment.group (joinWith ['|'] css) ++ tail)
      { r with
        current := r.current.push (groupTree es)
        names := Reader.namesBefore es r.names } tail :=
  Reader.reads_group h.fits filled h.quiet h.apart r plain free tail

theorem resolve_groupTree (h : Joinable join css es outs) (alone : ∀ p, join [p] = p)
    (filled : es ≠ []) :
    (groupTree es).resolveWith join .initial = .ok (join (outs.flatMap (·.1)), .initial) := by
  obtain ⟨g, whole⟩ := Syntax.resolveListWith_flatMap h.resolves h.steady
  refine Syntax.resolveWith_group alone ?_ whole
  obtain ⟨e, rest, rfl⟩ := List.exists_cons_of_ne_nil filled
  simp [OpenSequence.parts_ne_nil]

theorem group (h : Joinable join css es outs) (alone : ∀ p, join [p] = p) (filled : es ≠ []) :
    Joinable join [Fragment.group (joinWith ['|'] css)] [Reader.ofGroup es]
      [([join (outs.flatMap (·.1))], .initial)] where
  fits := by
    refine .cons ?_ .nil
    intro r tail begins plain apart barred
    have free : ∀ e ∈ es, r.Apart e := by
      intro e he name hn
      exact apart name (Reader.mem_namesBefore.mpr (.inr ⟨e, he, hn⟩))
    have reads := h.reads filled r plain free tail
    have same : r.resume (Reader.ofGroup es) =
        { r with
          current := r.current.push (groupTree es)
          names := Reader.namesBefore es r.names } := by
      rw [Reader.namesBefore_append]
      simp [Reader.resume, Reader.ofGroup, OpenSequence.push, begins, plain]
    exact same ▸ reads
  resolves := by
    refine .cons ?_ .nil
    simp [Reader.ofGroup, OpenSequence.parts_eq, Syntax.ofItems, Syntax.resolveListWith,
      h.resolve_groupTree alone filled, Except.bind, Except.map]
  quiet := by simp
  steady := by simp
  apart := List.pairwise_singleton _ _

theorem append {cs : List Char} {e : Reader} {out : List Pattern × Flags}
    (h : Joinable join css es outs) (last : Joinable join [cs] [e] [out]) (nameless : e.names = [])
    (quiet : ∀ e ∈ es, e.verbose = false) (steady : ∀ out ∈ outs, out.2 = .initial) :
    Joinable join (css ++ [cs]) (es ++ [e]) (outs ++ [out]) where
  fits := List.rel_append h.fits last.fits
  resolves := List.rel_append h.resolves last.resolves
  quiet := by simpa using quiet
  steady := by simpa using steady
  apart := by
    refine List.pairwise_append.mpr ⟨h.apart, List.pairwise_singleton _ _, ?_⟩
    intro a _ b hb name hn
    obtain rfl := List.mem_singleton.mp hb
    rw [nameless] at hn
    cases hn

theorem parse (h : Joinable join css es outs) (filled : es ≠ []) :
    Syntax.parse (Fragment.group (joinWith ['|'] css)) = .ok (groupTree es) := by
  have reads := h.reads filled .start rfl (fun _ _ _ _ => by simp [Reader.start]) []
  rw [List.append_nil] at reads
  rw [reads.parse]
  rfl

theorem parse_anchored (h : Joinable join css es outs) (filled : es ≠ []) :
    Syntax.parse ('^' :: Fragment.group (joinWith ['|'] css)) =
      .ok (.concat [.assertion .startLine, groupTree es]) := by
  let anchored : Reader := { Reader.start with
    current := Reader.start.current.push (.assertion .startLine) }
  have anchor : Reader.start.Reads ('^' :: Fragment.group (joinWith ['|'] css)) anchored
      (Fragment.group (joinWith ['|'] css)) :=
    Reader.reads_atom rfl rfl (by simp)
  have reads := h.reads filled anchored rfl (fun _ _ _ _ => by simp [anchored, Reader.start]) []
  rw [List.append_nil] at reads
  rw [(anchor.trans reads).parse]
  rfl

end Joinable

end Ligature.Regex
