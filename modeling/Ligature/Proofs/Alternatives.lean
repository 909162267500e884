import Ligature.Proofs.ReaderFrame
import Ligature.Proofs.Rendering

/-!
# Regexes side by side

A regex between bars is read as it is read alone, as long as it does not end in a comment: what it
holds open is closed within it, and its branches join those around it. What may still reach from
one regex into the next are flags that it leaves set and names that it gives to groups. And the
engine lifts out what all of their branches begin with, which decides the match if it can match in
several ways.
-/
namespace Ligature.Regex

open Rules (Fragment)

namespace Reader

/-! ### Reading to the end of a text -/

def readAll : Nat → Reader → List Char → Except CompileError Reader
  | 0, _, _ => .error .malformed
  | fuel + 1, r, cs => match nextToken r.verbose cs with
    | .error e => .error e
    | .ok (.done, _) => .ok r
    | .ok (token, rest) => match r.step token with
      | .error e => .error e
      | .ok r => readAll fuel r rest

theorem readAll_succ {r : Reader} {cs rest : List Char} {token : Token}
    (read : nextToken r.verbose cs = .ok (token, rest)) (more : token ≠ .done) (fuel : Nat) :
    readAll (fuel + 1) r cs = (r.step token).bind (readAll fuel · rest) := by
  rw [readAll, read]
  cases token with
  | done => contradiction
  | _ =>
    dsimp only
    cases r.step _ <;> rfl

theorem run_eq_readAll (fuel : Nat) (r : Reader) (cs : List Char) :
    run fuel r cs = (readAll fuel r cs).bind finish := by
  induction fuel generalizing r cs with
  | zero => rfl
  | succ fuel ih =>
    cases first : nextToken r.verbose cs with
    | error e =>
      rw [run, readAll, first]
      rfl
    | ok y =>
      obtain ⟨token, rest⟩ := y
      by_cases last : token = .done
      · subst last
        rw [run, readAll, first]
        rfl
      · rw [run_succ first last, readAll_succ first last]
        cases r.step token with
        | error e => rfl
        | ok r' => exact ih r' rest

def atEnd (cs : List Char) : Except CompileError Reader := readAll (cs.length + 1) .start cs

/-! ### A reader inside of another -/

def nest (outer : Reader) : OpenSequence → List OpenGroup → OpenSequence × List OpenGroup
  | s, [] => (⟨s.branches ++ outer.current.branches, s.items⟩, outer.groups)
  | s, g :: groups =>
    (s, { g with around := (nest outer g.around groups).1 } :: (nest outer g.around groups).2)

def inside (outer r : Reader) : Reader where
  current := (nest outer r.current r.groups).1
  groups := (nest outer r.current r.groups).2
  verbose := r.verbose
  names := r.names ++ outer.names

theorem inside_eq_resume {outer r : Reader} (closed : r.groups = []) :
    outer.inside r = outer.resume r := by
  simp [inside, resume, nest, closed]

theorem inside_start {outer : Reader} (begins : outer.current.items = [])
    (plain : outer.verbose = false) : outer.inside .start = outer := by
  obtain ⟨⟨branches, items⟩, groups, verbose, names⟩ := outer
  cases begins
  cases plain
  rfl

theorem items_nest (outer : Reader) (s : OpenSequence) (groups : List OpenGroup) :
    (nest outer s groups).1.items = s.items := by
  cases groups <;> rfl

theorem inside_items (outer r : Reader) (items : List Syntax) :
    outer.inside { r with current := { r.current with items } } =
      { outer.inside r with current := { (outer.inside r).current with items } } := by
  obtain ⟨current, groups, verbose, names⟩ := r
  cases groups <;> rfl

theorem nest_push (outer : Reader) (s : OpenSequence) (groups : List OpenGroup) (item : Syntax) :
    nest outer (s.push item) groups =
      ((nest outer s groups).1.push item, (nest outer s groups).2) := by
  cases groups <;> rfl

theorem nest_bar (outer : Reader) (s : OpenSequence) (groups : List OpenGroup) :
    nest outer s.bar groups = ((nest outer s groups).1.bar, (nest outer s groups).2) := by
  cases groups <;> rfl

theorem names_step {r r' : Reader} {token : Token} (step : r.step token = .ok r') {name : String}
    (mem : name ∈ r.names) : name ∈ r'.names := by
  cases token with
  | repeated min max greedy =>
    simp only [Reader.step, repeatLast] at step
    split at step <;> cases step
    exact mem
  | openGroup kind group =>
    cases group with
    | none =>
      cases step
      exact mem
    | some group =>
      simp only [Reader.step] at step
      split at step <;> cases step
      exact List.mem_cons_of_mem _ mem
  | closeGroup =>
    simp only [Reader.step] at step
    split at step <;> cases step
    exact mem
  | _ =>
    cases step
    exact mem

theorem repeatLast_eq_ok {r r' : Reader} {min : Nat} {max : Option Nat} {greedy : Bool}
    (step : r.repeatLast min max greedy = .ok r') :
    ∃ item items, r.current.items = item :: items ∧ (∀ change, item ≠ .setFlags change) ∧
      r' = { r with current.items := .repetition min max greedy item :: items } := by
  unfold repeatLast at step
  split at step
  · cases step
  · cases step
  · rename_i item items solid last
    cases step
    refine ⟨item, items, last, ?_, rfl⟩
    rintro change rfl
    exact solid change rfl

theorem repeatLast_of_solid {r : Reader} {min : Nat} {max : Option Nat} {greedy : Bool}
    {item : Syntax} {items : List Syntax} (last : r.current.items = item :: items)
    (solid : ∀ change, item ≠ .setFlags change) :
    r.repeatLast min max greedy =
      .ok { r with current := { r.current with
        items := .repetition min max greedy item :: items } } := by
  rw [repeatLast, last]
  cases item with
  | setFlags change => exact absurd rfl (solid change)
  | _ => rfl

/-- One step behind what another reader holds is the step that is taken without it. -/
theorem step_inside {outer r r' : Reader} {token : Token} (step : r.step token = .ok r')
    (apart : outer.Apart r') : (outer.inside r).step token = .ok (outer.inside r') := by
  cases token with
  | atom s =>
    cases step
    simp [Reader.step, inside, nest_push]
  | repeated min max greedy =>
    obtain ⟨item, items, last, solid, rfl⟩ := repeatLast_eq_ok step
    have last' : (outer.inside r).current.items = item :: items := by
      rw [inside, items_nest, last]
    exact (repeatLast_of_solid last' solid).trans (congrArg _ (inside_items outer r _).symm)
  | bar =>
    cases step
    simp [Reader.step, inside, nest_bar]
  | openGroup kind group =>
    cases group with
    | none =>
      cases step
      rfl
    | some group =>
      simp only [Reader.step] at step ⊢
      split at step
      · cases step
      · rename_i fresh
        cases step
        have free : group ∉ outer.names := apart group List.mem_cons_self
        have unused : group ∉ (outer.inside r).names := by
          simp only [inside, List.mem_append, not_or]
          exact ⟨fresh, free⟩
        rw [if_neg unused]
        rfl
  | closeGroup =>
    obtain ⟨current, groups, verbose, names⟩ := r
    cases groups with
    | nil => cases step
    | cons g groups =>
      cases step
      simp [Reader.step, inside, nest, nest_push]
  | setFlags change =>
    cases step
    simp [Reader.step, inside, nest_push]
  | done =>
    cases step
    rfl

theorem run_of_skip {r : Reader} {cs ds : List Char} (same : skip r.verbose cs = skip r.verbose ds)
    (fuel : Nat) : run fuel r cs = run fuel r ds := by
  cases fuel with
  | zero => rfl
  | succ fuel =>
    have first : nextToken r.verbose cs = nextToken r.verbose ds := by
      rw [nextToken, nextToken, same]
    rw [run, run, first]

theorem readAll_token {fuel : Nat} {r e : Reader} {cs rest : List Char} {token : Token}
    (read : readAll (fuel + 1) r cs = .ok e)
    (first : nextToken r.verbose cs = .ok (token, rest)) (more : token ≠ .done) :
    ∃ r', r.step token = .ok r' ∧ readAll fuel r' rest = .ok e := by
  rw [readAll_succ first more] at read
  exact bind_eq_ok.mp read

theorem readAll_nil {fuel : Nat} {r e : Reader} (read : readAll fuel r [] = .ok e) : r = e := by
  cases fuel with
  | zero => cases read
  | succ fuel =>
    rw [readAll, nextToken, skip_nil] at read
    cases read
    rfl

theorem names_readAll {fuel : Nat} {r e : Reader} {cs : List Char}
    (read : readAll fuel r cs = .ok e) : ∀ name ∈ r.names, name ∈ e.names := by
  induction fuel generalizing r cs with
  | zero => cases read
  | succ fuel ih =>
    cases first : nextToken r.verbose cs with
    | error e =>
      rw [readAll, first] at read
      cases read
    | ok y =>
      obtain ⟨token, rest⟩ := y
      by_cases last : token = .done
      · subst last
        rw [readAll, first] at read
        cases read
        exact fun _ mem => mem
      · obtain ⟨r', step, later⟩ := readAll_token read first last
        exact fun name mem => ih later name (names_step step mem)

/-- Behind every reader that uses other group names, reading comes from one place to another in
fewer steps than the fuel given. -/
def Follows (fuel : Nat) (r : Reader) (cs : List Char) (e : Reader) (cs' : List Char) : Prop :=
  ∀ outer : Reader, outer.Apart e → ∃ n < fuel, ∀ fuel',
    run (fuel' + n) (outer.inside r) cs = run fuel' (outer.inside e) cs'

theorem Follows.of_skip {e : Reader} {cs cs' : List Char}
    (same : skip e.verbose cs = skip e.verbose cs') (fuel : Nat) :
    Follows (fuel + 1) e cs e cs' := by
  intro outer _
  exact ⟨0, by omega, fun fuel' => run_of_skip (r := outer.inside e) same fuel'⟩

theorem Follows.token {fuel : Nat} {r r' e : Reader} {cs rest cs' : List Char} {token : Token}
    (follows : Follows fuel r' rest e cs') (read : nextToken r.verbose cs = .ok (token, rest))
    (more : token ≠ .done) (step : r.step token = .ok r')
    (names : ∀ name ∈ r'.names, name ∈ e.names) : Follows (fuel + 1) r cs e cs' := by
  intro outer apart
  obtain ⟨n, few, runs⟩ := follows outer apart
  have inner := step_inside step fun name mem => apart name (names name mem)
  have taken := run_token (r := outer.inside r) read more inner
  exact ⟨n + 1, by omega, fun fuel' => (taken (fuel' + n)).trans (runs fuel')⟩

/-- A text that is read to its end alone is read alike behind what another reader holds, if the end
of a branch follows; or else it ends in a comment. -/
theorem readAll_inside {fuel : Nat} {r e : Reader} {cs : List Char}
    (read : readAll fuel r cs = .ok e) :
    (∀ tail, Barred tail → Follows fuel r (cs ++ tail) e tail) ∨
      Follows fuel r (cs ++ [')']) e [] := by
  induction fuel generalizing r cs with
  | zero => cases read
  | succ fuel ih =>
    cases first : nextToken r.verbose cs with
    | error e =>
      rw [readAll, first] at read
      cases read
    | ok y =>
      obtain ⟨token, rest⟩ := y
      by_cases last : token = .done
      · subst last
        rw [readAll, first] at read
        cases read
        have ended := skip_of_done first
        rcases skip_append e.verbose cs with kept | ⟨-, lost⟩
        · refine .inl fun tail barred => .of_skip ?_ fuel
          rw [kept tail (.inr barred), ended, List.nil_append, skip_barred _ barred]
        · refine .inr (.of_skip ?_ fuel)
          rw [lost, skip_nil]
      · obtain ⟨r', step, later⟩ := readAll_token read first last
        have names := names_readAll later
        rcases framed_nextToken first last with kept | ⟨rfl, lost⟩
        · rcases ih later with same | same
          · exact .inl fun tail barred =>
              (same tail barred).token (kept tail barred) last step names
          · exact .inr (same.token (kept _ (.close [])) last step names)
        · -- The token has taken the parenthesis with it, so nothing is left to read.
          have same : r' = e := readAll_nil later
          subst same
          cases fuel with
          | zero => cases later
          | succ fuel => exact .inr ((Follows.of_skip rfl fuel).token lost last step names)

/-! ### Regexes that fit -/

def endOf (cs : List Char) : Reader := (atEnd cs).toOption.getD .start

theorem parse_eq_ok_atEnd {cs : List Char} {s : Syntax} (read : Syntax.parse cs = .ok s) :
    atEnd cs = .ok (endOf cs) ∧ (endOf cs).groups = [] ∧
      s = Syntax.ofBranches (endOf cs).current.parts := by
  rw [Syntax.parse, run_eq_readAll] at read
  obtain ⟨e, ended, finished⟩ := bind_eq_ok.mp read
  have same : endOf cs = e := by rw [endOf, atEnd, ended]; rfl
  rw [finish] at finished
  split at finished
  · rename_i closed
    cases finished
    rw [same]
    exact ⟨ended, List.isEmpty_iff.mp closed, rfl⟩
  · cases finished

/-- A regex that is also one between parentheses is read alike wherever it begins a branch. -/
theorem fits_of_parse {cs : List Char} {s t : Syntax} (own : Syntax.parse cs = .ok s)
    (enclosed : Syntax.parse (Fragment.group cs) = .ok t) : Fits cs (endOf cs) := by
  obtain ⟨ended, closed, -⟩ := parse_eq_ok_atEnd own
  rcases readAll_inside ended with same | lost
  · intro r tail begins plain apart barred
    obtain ⟨n, few, runs⟩ := same tail barred r apart
    refine ⟨n, ?_, ?_⟩
    · rw [List.length_append]
      omega
    · rw [inside_start begins plain, inside_eq_resume closed] at runs
      exact runs
  · exfalso
    let opened := Reader.start.openGroup (.plain [])
    obtain ⟨n, few, runs⟩ := lost opened fun _ _ => by simp [opened, openGroup, start]
    have text : Fragment.group cs = '(' :: '?' :: ':' :: (cs ++ [')']) := by
      simp [Fragment.group]
    have behind : opened.Reads (cs ++ [')']) (opened.inside (endOf cs)) [] := by
      refine ⟨n, ?_, ?_⟩
      · simp only [List.length_append, List.length_nil]
        omega
      · rw [inside_start rfl rfl] at runs
        exact runs
    have open' : (opened.inside (endOf cs)).groups ≠ [] := by
      rw [inside_eq_resume closed]
      exact List.cons_ne_nil _ _
    have unclosed := ((reads_open (r := .start) rfl _).trans behind).parse
    rw [← text, enclosed, finish, if_neg (by simpa using open')] at unclosed
    cases unclosed

end Reader

/-! ### Regexes that do not reach into each other -/

def branchesOf (cs : List Char) : List Pattern × Flags :=
  (Syntax.resolveListWith .alternation .initial
    (Reader.endOf cs).current.parts).toOption.getD ([], .initial)

def ownEnd? (c : Cursor) (cs : List Char) : Option Cursor :=
  (Pattern.parse cs).toOption.bind (·.matchEnd? c)

/-- Regexes of which none reaches into the next ones: none ends in a comment that would swallow a
parenthesis behind it, none but the last leaves flags set at its end, and no two use a group name
in common. -/
structure Separable (css : List (List Char)) : Prop where
  own : ∀ cs ∈ css, ∃ p, Pattern.parse cs = .ok p
  enclosed : ∀ cs ∈ css, ∃ p, Pattern.parse (Fragment.group cs) = .ok p
  quiet : ∀ cs ∈ css.dropLast, (Reader.endOf cs).verbose = false
  steady : ∀ cs ∈ css.dropLast, (branchesOf cs).2 = .initial
  apart : css.Pairwise fun cs ds => (Reader.endOf cs).Apart (Reader.endOf ds)

instance (css : List (List Char)) : Decidable (Separable css) :=
  decidable_of_iff
    ((∀ cs ∈ css, (Pattern.parse cs).isOk = true) ∧
      (∀ cs ∈ css, (Pattern.parse (Fragment.group cs)).isOk = true) ∧
      (∀ cs ∈ css.dropLast, (Reader.endOf cs).verbose = false) ∧
      (∀ cs ∈ css.dropLast, (branchesOf cs).2 = .initial) ∧
      css.Pairwise fun cs ds =>
        ∀ name ∈ (Reader.endOf ds).names, name ∉ (Reader.endOf cs).names)
    ⟨fun ⟨own, enclosed, quiet, steady, apart⟩ => ⟨fun cs hcs => isOk_iff.mp (own cs hcs),
        fun cs hcs => isOk_iff.mp (enclosed cs hcs), quiet, steady, apart⟩,
      fun ⟨own, enclosed, quiet, steady, apart⟩ => ⟨fun cs hcs => isOk_iff.mpr (own cs hcs),
        fun cs hcs => isOk_iff.mpr (enclosed cs hcs), quiet, steady, apart⟩⟩

theorem resolve_branchesOf {cs : List Char} {p : Pattern} (own : Pattern.parse cs = .ok p) :
    Syntax.resolveListWith .alternation .initial (Reader.endOf cs).current.parts =
        .ok (branchesOf cs) ∧
      p = .alternation (branchesOf cs).1 := by
  obtain ⟨s, f, read, resolves⟩ := Pattern.parse_eq_ok.mp own
  obtain ⟨-, -, rfl⟩ := Reader.parse_eq_ok_atEnd read
  rw [Syntax.translate, Syntax.resolveWith_ofBranches (fun _ => rfl) _
    (OpenSequence.parts_ne_nil _)] at resolves
  obtain ⟨x, parts, same⟩ := map_eq_ok.mp resolves
  cases same
  rw [branchesOf, parts]
  exact ⟨rfl, rfl⟩

theorem ownEnd?_eq {cs : List Char} {p : Pattern} (own : Pattern.parse cs = .ok p) (c : Cursor) :
    ownEnd? c cs = (Pattern.alternation (branchesOf cs).1).matchEnd? c := by
  rw [ownEnd?, own, (resolve_branchesOf own).2]
  rfl

/-- What the engine lifts out of regexes side by side matches in one way, be it common to the
branches of all of them or to those of one. A regex alone is what it is. -/
def FairlyJoined (css : List (List Char)) : Prop :=
  1 < css.length → Pattern.FairChoice false ((css.map branchesOf).flatMap (·.1)) ∧
    ∀ cs ∈ css, Pattern.FairChoice false (branchesOf cs).1

theorem findSome?_congr {α β : Type} {xs : List α} {f g : α → Option β}
    (same : ∀ x ∈ xs, f x = g x) : xs.findSome? f = xs.findSome? g := by
  induction xs with
  | nil => rfl
  | cons x xs ih =>
    obtain ⟨first, rest⟩ := List.forall_mem_cons.mp same
    rw [List.findSome?_cons, List.findSome?_cons, first, ih rest]

theorem matchEnd?_branchesOf {css : List (List Char)}
    (own : ∀ cs ∈ css, ∃ p, Pattern.parse cs = .ok p) (fair : FairlyJoined css) (c : Cursor) :
    (Pattern.alternation ((css.map branchesOf).flatMap (·.1))).matchEnd? c =
      css.findSome? (ownEnd? c) := by
  match css with
  | [] => exact Pattern.matchEnd?_choice [] c
  | [cs] =>
    obtain ⟨p, read⟩ := own cs List.mem_cons_self
    simp [ownEnd?_eq read]
  | cs :: ds :: css =>
    obtain ⟨joined, alone⟩ := fair (by simp)
    rw [(Pattern.agree_alternation joined).ends.matchEnd?_eq, Pattern.matchEnd?_choice_flatMap,
      List.findSome?_map]
    refine findSome?_congr fun x hx => ?_
    obtain ⟨p, read⟩ := own x hx
    rw [ownEnd?_eq read, (Pattern.agree_alternation (alone x hx)).ends.matchEnd?_eq]
    rfl

theorem Separable.joinable {css : List (List Char)} (h : Separable css) :
    Joinable .alternation css (css.map Reader.endOf) (css.map branchesOf) where
  fits := by
    refine List.forall₂_map_right_iff.mpr (List.forall₂_same.mpr fun cs hcs => ?_)
    obtain ⟨p, own⟩ := h.own cs hcs
    obtain ⟨q, enclosed⟩ := h.enclosed cs hcs
    obtain ⟨s, -, read, -⟩ := Pattern.parse_eq_ok.mp own
    obtain ⟨t, -, read', -⟩ := Pattern.parse_eq_ok.mp enclosed
    exact Reader.fits_of_parse read read'
  resolves := by
    refine List.forall₂_map_left_iff.mpr (List.forall₂_map_right_iff.mpr
      (List.forall₂_same.mpr fun cs hcs => ?_))
    obtain ⟨p, own⟩ := h.own cs hcs
    exact (resolve_branchesOf own).1
  quiet := by
    rw [← List.map_dropLast]
    exact List.forall_mem_map.mpr h.quiet
  steady := by
    rw [← List.map_dropLast]
    exact List.forall_mem_map.mpr h.steady
  apart := List.pairwise_map.mpr h.apart

end Ligature.Regex

namespace Ligature.Rules.CompiledPattern

open Regex (Pattern Cursor Separable)

end Ligature.Rules.CompiledPattern
