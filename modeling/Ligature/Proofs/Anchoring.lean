import Ligature.Proofs.OrderedChoice
import Ligature.Proofs.Scanning

/-!
# Where matches begin

The sign for the start of the text is put before the group of a pattern. It governs all of the
pattern as long as no bar of a regex comes to stand outside of that group: then a match begins right
behind the leading character, and a ligature is the leading character with what its pattern matched.
A regex whose parentheses do not match can close the group and put a bar behind it.
-/
namespace Ligature.Regex

open Rules (Fragment)

/-! ### The first branch of a text -/

inductive OpenSequence.BeginsWith (a : Syntax) : OpenSequence → Prop where
  | only (items : List Syntax) (more : items ≠ []) : BeginsWith a ⟨[], items ++ [a]⟩
  | later (branches items rest : List Syntax) :
      BeginsWith a ⟨branches ++ [.concat (a :: rest)], items⟩

namespace OpenSequence.BeginsWith

variable {a : Syntax} {s : OpenSequence}

theorem push (h : s.BeginsWith a) (item : Syntax) : (s.push item).BeginsWith a := by
  cases h with
  | only items more => exact .only (item :: items) (by simp)
  | later branches items rest => exact .later branches _ rest

theorem ofItems_begins {items : List Syntax} (more : items ≠ []) :
    ∃ rest, Syntax.ofItems (items ++ [a]).reverse = .concat (a :: rest) := by
  obtain ⟨item, rest, back⟩ := List.exists_cons_of_ne_nil (List.reverse_ne_nil_iff.mpr more)
  refine ⟨item :: rest, ?_⟩
  rw [List.reverse_append, back]
  rfl

theorem bar (h : s.BeginsWith a) : s.bar.BeginsWith a := by
  cases h with
  | only items more =>
    obtain ⟨rest, branch⟩ := ofItems_begins (a := a) more
    rw [OpenSequence.bar, branch]
    exact .later [] [] rest
  | later branches items rest => exact .later (_ :: branches) [] rest

theorem replaceLast {item : Syntax} {items : List Syntax} (h : s.BeginsWith a)
    (last : s.items = item :: items) (item' : Syntax) :
    OpenSequence.BeginsWith a { s with items := item' :: items } := by
  cases h with
  | only front more =>
    obtain ⟨x, front, rfl⟩ := List.exists_cons_of_ne_nil more
    cases last
    exact .only (item' :: front) (by simp)
  | later branches _ rest => exact .later branches _ rest

theorem close (h : s.BeginsWith a) :
    (∃ rest, s.close = .concat (a :: rest)) ∨ ∃ branches, s.close = .alternation branches := by
  cases h with
  | only items more =>
    obtain ⟨rest, branch⟩ := ofItems_begins (a := a) more
    refine .inl ⟨rest, ?_⟩
    rw [OpenSequence.close, OpenSequence.bar, branch]
    rfl
  | later branches items rest =>
    obtain ⟨b, bs, back⟩ := List.exists_cons_of_ne_nil
      (List.concat_ne_nil (Syntax.ofItems items.reverse) branches.reverse)
    refine .inr ⟨.concat (a :: rest) :: b :: bs, ?_⟩
    rw [OpenSequence.close, OpenSequence.bar, List.reverse_cons, List.reverse_append,
      List.reverse_singleton, List.singleton_append, List.cons_append, back]
    rfl

end OpenSequence.BeginsWith

namespace Reader

def outermost (s : OpenSequence) : List OpenGroup → OpenSequence
  | [] => s
  | g :: groups => outermost g.around groups

/-- The text behind `a` belongs to a branch that begins with `a`, or to the group right behind
it. -/
def Behind (a : Syntax) (r : Reader) : Prop :=
  (outermost r.current r.groups).BeginsWith a ∨
    r.groups ≠ [] ∧ outermost r.current r.groups = ⟨[], [a]⟩

variable {a : Syntax} {r r' : Reader} {token : Token}

theorem behind_current {s : OpenSequence} (h : r.Behind a)
    (outside : r.groups = [] → r.current.BeginsWith a → s.BeginsWith a) :
    Behind a { r with current := s } := by
  obtain ⟨current, groups, verbose, names⟩ := r
  cases groups with
  | nil =>
    rcases h with begins | ⟨opened, -⟩
    · exact .inl (outside rfl begins)
    · exact absurd rfl opened
  | cons g groups => exact h -- within a group nothing outside of it is changed

theorem behind_close {g : OpenGroup} {groups : List OpenGroup} (h : r.Behind a)
    (opened : r.groups = g :: groups) (item : Syntax) (verbose : Bool) :
    Behind a { r with current := g.around.push item, groups, verbose } := by
  unfold Behind at h ⊢
  rw [opened] at h
  cases groups with
  | nil =>
    refine .inl ?_
    rcases h with begins | ⟨-, only⟩
    · exact begins.push item
    · -- The group right behind the anchor is closed, and becomes the next item of its branch.
      have around : g.around = ⟨[], [a]⟩ := only
      rw [around]
      exact .only [item] (by simp)
  | cons g' groups => simpa [outermost] using h

/-- No token reaches the anchor: before its branch goes on, a group has to be closed. -/
theorem behind_step (h : r.Behind a) (step : r.step token = .ok r') : r'.Behind a := by
  cases token with
  | atom s =>
    cases step
    exact behind_current h fun _ begins => begins.push s
  | repeated min max greedy =>
    obtain ⟨item, items, last, -, rfl⟩ := repeatLast_eq_ok step
    exact behind_current h fun _ begins => begins.replaceLast last _
  | bar =>
    cases step
    exact behind_current h fun _ begins => begins.bar
  | openGroup kind name =>
    have opened : Behind a (r.openGroup kind) := by
      rcases h with begins | ⟨-, only⟩
      · exact .inl begins
      · exact .inr ⟨List.cons_ne_nil _ _, only⟩
    cases name with
    | none =>
      cases step
      exact opened
    | some name =>
      simp only [Reader.step] at step
      split at step <;> cases step
      exact opened
  | closeGroup =>
    simp only [Reader.step] at step
    split at step
    · cases step
    · rename_i g groups opened
      cases step
      exact behind_close h opened _ _
  | setFlags change =>
    cases step
    exact behind_current h fun _ begins => begins.push _
  | done =>
    cases step
    exact h

theorem behind_readAll {fuel : Nat} {cs : List Char} (h : r.Behind a)
    (read : readAll fuel r cs = .ok r') : r'.Behind a := by
  induction fuel generalizing r cs with
  | zero => cases read
  | succ fuel ih =>
    cases first : nextToken r.verbose cs with
    | error e =>
      rw [readAll, first] at read
      cases read
    | ok y =>
      obtain ⟨token, rest⟩ := y
      by_cases last : token = .done
      · subst last
        rw [readAll, first] at read
        cases read
        exact h
      · obtain ⟨r'', step, later⟩ := readAll_token read first last
        exact ih (behind_step h step) later

theorem finish_behind {s : Syntax} (h : r.Behind a) (read : r.finish = .ok s) :
    (∃ rest, s = .concat (a :: rest)) ∨ ∃ branches, s = .alternation branches := by
  unfold finish at read
  split at read
  · rename_i closed
    cases read
    have outside : r.groups = [] := List.isEmpty_iff.mp closed
    rcases h with begins | ⟨opened, -⟩
    · rw [outside] at begins
      exact begins.close
    · exact absurd outside opened
  · cases read

end Reader

theorem Reader.Reads.run_eq {r : Reader} {cs cs' : List Char} (h : Reader.start.Reads cs r cs') :
    ∃ fuel, Syntax.parse cs = Reader.run fuel r cs' := by
  obtain ⟨n, few, runs⟩ := h
  refine ⟨cs.length + 1 - n, ?_⟩
  rw [Syntax.parse, ← runs, Nat.sub_add_cancel (by omega)]

theorem parse_anchored_group {cs : List Char} {s : Syntax}
    (read : Syntax.parse ('^' :: Fragment.group cs) = .ok s) :
    (∃ rest, s = .concat (.assertion .startLine :: rest)) ∨
      ∃ branches, s = .alternation branches := by
  have text : Fragment.group cs = '(' :: '?' :: ':' :: (cs ++ [')']) := by
    simp [Fragment.group]
  have anchor : Reader.start.Reads ('^' :: Fragment.group cs)
      { Reader.start with current := Reader.start.current.push (.assertion .startLine) }
      (Fragment.group cs) := Reader.reads_atom rfl rfl (by simp)
  -- Once the anchor and the bracket are read, the anchor is behind whatever follows.
  rw [text] at anchor read
  obtain ⟨fuel, runs⟩ := (anchor.trans (Reader.reads_open rfl _)).run_eq
  rw [runs, Reader.run_eq_readAll] at read
  obtain ⟨e, reads, finished⟩ := bind_eq_ok.mp read
  refine Reader.finish_behind (Reader.behind_readAll ?_ reads) finished
  exact .inr ⟨List.cons_ne_nil _ _, rfl⟩

/-! ### Anchored matches -/

namespace Pattern

theorem findFrom_congr {p q : Pattern} (same : ∀ c, p.matchEnd? c = q.matchEnd? c)
    (skipped rest : List Char) : p.findFrom skipped rest = q.findFrom skipped rest := by
  induction rest generalizing skipped with
  | nil => simp only [findFrom, same]
  | cons x rest ih => simp only [findFrom, same, ih]

theorem find_begins {rest : List Syntax} {p : Pattern} {f : Flags}
    (translates : (Syntax.concat (.assertion .startLine :: rest)).translate .initial = .ok (p, f))
    (text : List Char) :
    ∃ q : Pattern, p.find text = (q.matchEnd? (.start text)).map (.upTo text) := by
  rw [Syntax.translate, Syntax.resolveWith] at translates
  obtain ⟨⟨ps, g⟩, parts, same⟩ := map_eq_ok.mp translates
  cases same
  rw [Syntax.resolveListWith] at parts
  obtain ⟨⟨anchor, f'⟩, first, others⟩ := bind_eq_ok.mp parts
  cases first
  obtain ⟨⟨qs, _⟩, -, same⟩ := map_eq_ok.mp others
  cases same
  have split := sequence_append [.look textStart] qs
  rw [sequence_singleton] at split
  refine ⟨sequence qs, ?_⟩
  rw [← find_anchored]
  exact findFrom_congr split.matchEnd?_eq [] text

end Pattern

end Ligature.Regex

namespace Ligature.Rules.CompiledPattern

open Regex (Pattern Syntax Separable)

/-- No bar of a regex comes to stand outside of the groups of a pattern. -/
def Enclosed (p : CompiledPattern) : Prop :=
  ∀ branches, Syntax.parse ('^' :: p.render) ≠ .ok (.alternation branches)

theorem enclosed_of_separable {p : CompiledPattern}
    (separable : Separable (p.regexes.map String.toList)) : p.Enclosed := by
  intro branches read
  obtain ⟨-, anchored, -⟩ := p.render_reads separable.joinable
  rw [anchored] at read
  cases read

theorem Enclosed.find_eq {p : CompiledPattern} (h : p.Enclosed) {q : Pattern}
    (compiled : Pattern.compile ('^' :: p.render) = .ok q) (text : List Char) :
    ∃ body : Pattern, q.find text = (body.matchEnd? (.start text)).map (.upTo text) := by
  obtain ⟨s, f, read, -, translates, -⟩ := Pattern.compile_eq_ok.mp compiled
  rcases Regex.parse_anchored_group read with ⟨rest, rfl⟩ | ⟨branches, rfl⟩
  · exact Pattern.find_begins translates text
  · exact absurd read (h branches)

end Ligature.Rules.CompiledPattern

namespace Ligature.Dispatch.Matcher

open Ligature.Regex (Pattern)
open Rules (CompiledPattern RuleGroup Spec Table)

def FindsBehind (m : Matcher) (c : Char) (rest found : List Char) : Prop :=
  ∃ r, m.regexes.get? c = some r ∧ r.pattern.find rest = some ⟨[], found⟩

variable {t : Table} {cache : RegexCache} {c : Char} {p : CompiledPattern}

theorem compile_of_get?_ofTable (reachable : cache.Reachable) (entry : t.get? c = some p)
    {r : Regex} (regex : (ofTable t cache).value.1.regexes.get? c = some r) :
    Pattern.compile ('^' :: p.render) = .ok r.pattern := by
  rw [get?_ofTable t reachable, entry, Option.bind_some, Regex.ofSource, anchoredSource,
    String.toList_ofList] at regex
  cases compiled : Pattern.compile ('^' :: p.render) with
  | error e =>
    rw [compiled] at regex
    cases regex
  | ok q =>
    rw [compiled] at regex
    cases regex
    rfl

theorem findsBehind_of_lengthFrom (reachable : cache.Reachable) (entry : t.get? c = some p)
    (enclosed : p.Enclosed) {rest : List Char} {n : Nat}
    (length : (ofTable t cache).value.1.lengthFrom c rest = some n) :
    (ofTable t cache).value.1.FindsBehind c rest (rest.take (n - 1)) := by
  unfold lengthFrom at length
  split at length
  · cases length
  · rename_i r regex
    obtain ⟨body, finds⟩ := enclosed.find_eq (compile_of_get?_ofTable reachable entry regex) rest
    refine ⟨r, regex, ?_⟩
    rw [finds] at length ⊢
    cases stops : body.matchEnd? (.start rest) with
    | none =>
      rw [stops] at length
      cases length
    | some stop =>
      rw [stops, Option.map_some, Pattern.Found.upTo] at length
      dsimp only at length
      split at length
      · cases length
      · cases length
        simp [Pattern.Found.upTo]

/-- As long as its pattern is enclosed, a ligature is its leading character and what its regex
finds, which begins right behind that character; so is every span of a scan. -/
theorem anchored_matches (reachable : cache.Reachable) (entry : t.get? c = some p)
    (enclosed : p.Enclosed) (text : List Char) :
    let m := (ofTable t cache).value.1
    (∀ i n, text[i]? = some c → m.lengthAt text i = some n →
      2 ≤ n ∧ i + n ≤ text.length ∧
        m.FindsBehind c (text.drop (i + 1)) ((text.drop (i + 1)).take (n - 1))) ∧
    ∀ s ∈ m.scan text, text[s.start]? = some c →
      ∃ found, m.FindsBehind c (text.drop (s.start + 1)) found ∧ s.text = c :: found := by
  intro m
  have alone {i n : Nat} (leading : text[i]? = some c) (length : m.lengthAt text i = some n) :
      m.FindsBehind c (text.drop (i + 1)) ((text.drop (i + 1)).take (n - 1)) := by
    rw [lengthAt_eq leading] at length
    exact findsBehind_of_lengthFrom reachable entry enclosed length
  refine ⟨fun i n leading length => ?_, fun s hs leading => ?_⟩
  · obtain ⟨inside, -⟩ := List.getElem?_eq_some_iff.mp leading
    have bounds := length
    rw [lengthAt_eq leading] at bounds
    obtain ⟨-, least, most⟩ := lengthFrom_bounds bounds
    rw [List.length_drop] at most
    exact ⟨least, by omega, alone leading length⟩
  · obtain ⟨-, ligature⟩ := (greedyFrom_scanFrom (withinTable_ofTable t cache) rfl 0).ligatures s hs
    refine ⟨_, alone leading ligature.matched, ?_⟩
    have long := ligature.long
    obtain ⟨inside, rfl⟩ := List.getElem?_eq_some_iff.mp leading
    obtain ⟨k, size⟩ := Nat.exists_eq_add_of_le' (Nat.le_of_succ_le long)
    rw [ligature.covered, List.drop_eq_getElem_cons inside, size, List.take_succ_cons]
    rfl

/-- A regex that closes the group it is put into and opens another one. -/
def parted : CompiledPattern := ⟨["a)|(?:b"], []⟩

def partedTable : Table := ⟨"any", CharMap.empty.insert '=' ⟨0, parted⟩⟩

theorem anchored_matches_parted :
    (ofTable partedTable (.ofCapacity 1)).value.1.FindsBehind '=' ['b', 'b'] ['b'] := by
  have entry : partedTable.get? '=' = some parted := rfl
  have enclosed : parted.Enclosed := by
    intro branches read
    rw [show Ligature.Regex.Syntax.parse ('^' :: parted.render) = .ok _ from rfl] at read
    cases read
  have length : (ofTable partedTable (.ofCapacity 1)).value.1.lengthAt ['x', '=', 'b', 'b'] 1 =
      some 2 := by decide +kernel
  exact ((anchored_matches (.start 1) entry enclosed _).1 1 2 rfl length).2.2

/-- A regex that closes both groups it is put into and opens two others, behind a bar. -/
def escaping : CompiledPattern := ⟨["a))|(?:(?:b"], []⟩

def escapingGroup : RuleGroup := CharMap.empty.insert '=' escaping

/-- The bar of such a regex keeps the anchor to the branch before it. -/
theorem escaping_match_unanchored :
    ¬ ∀ (specs : List Spec) (g : RuleGroup) (cache : RegexCache) (c : Char) (text : List Char)
        (i n : Nat), Rules.compileRules Rules.expandRegex specs = .ok g → cache.Reachable →
      text[i]? = some c → (ofTable ⟨"any", g.register 0⟩ cache).value.1.lengthAt text i = some n →
      (ofTable ⟨"any", g.register 0⟩ cache).value.1.FindsBehind c (text.drop (i + 1))
        ((text.drop (i + 1)).take (n - 1)) := by
  intro claim
  have registered : Rules.compileRules Rules.expandRegex
      [.pattern '=' (.regex "a))|(?:(?:b")] = .ok escapingGroup := by decide +kernel
  obtain ⟨r, regex, finds⟩ := claim _ _ (.ofCapacity 1) '=' ['=', 'x', 'b'] 0 2 registered
    (.start 1) rfl (by decide +kernel)
  have found : ((ofTable ⟨"any", escapingGroup.register 0⟩
      (.ofCapacity 1)).value.1.regexes.get? '=').bind (·.pattern.find ['x', 'b']) =
        some ⟨['x'], ['b']⟩ := by decide +kernel
  rw [regex, Option.bind_some] at found
  exact nomatch finds.symm.trans found

end Ligature.Dispatch.Matcher
