import Ligature.Regex.Escape
import Ligature.Regex.Size
import Ligature.Rules.Expr

/-!
# How a regex text is read

The reader takes a text token by token, so what it makes of a text follows from what it makes of the
parts. Outside of verbose mode an escaped text is read as its characters, a bracketed list of
characters as their class, and a decimal bound as the number it was printed from.
-/
namespace Ligature.Regex

/-! ### Results that are no faults -/

theorem bind_eq_ok {ε α β : Type} {x : Except ε α} {f : α → Except ε β} {b : β} :
    x.bind f = .ok b ↔ ∃ a, x = .ok a ∧ f a = .ok b := by
  cases x <;> simp [Except.bind]

theorem map_eq_ok {ε α β : Type} {x : Except ε α} {f : α → β} {b : β} :
    x.map f = .ok b ↔ ∃ a, x = .ok a ∧ f a = b := by
  cases x <;> simp [Except.map]

theorem isOk_iff {ε α : Type} {x : Except ε α} : x.isOk = true ↔ ∃ a, x = .ok a := by
  cases x <;> simp [Except.isOk, Except.toBool]

/-! ### Reading without limits -/

def Syntax.parse (cs : List Char) : Except CompileError Syntax :=
  Reader.run (cs.length + 1) .start cs

/-- The pattern that the engine makes of a regex text, however deep it nests. -/
def Pattern.parse (cs : List Char) : Except CompileError Pattern :=
  (Syntax.parse cs).bind fun s => (s.translate .initial).map (·.1)

theorem Pattern.parse_eq_ok {cs : List Char} {p : Pattern} :
    Pattern.parse cs = .ok p ↔
      ∃ s f, Syntax.parse cs = .ok s ∧ s.translate .initial = .ok (p, f) := by
  simp [Pattern.parse, bind_eq_ok, map_eq_ok]

/-- A regex compiles if it can be read and keeps to the limits. -/
theorem Pattern.compile_eq_ok {cs : List Char} {p : Pattern} :
    Pattern.compile cs = .ok p ↔ ∃ s f, Syntax.parse cs = .ok s ∧ s.depth ≤ depthLimit ∧
      s.translate .initial = .ok (p, f) ∧ p.fits = true := by
  have read : Pattern.read cs = .ok p ↔ ∃ s f, Syntax.parse cs = .ok s ∧ s.depth ≤ depthLimit ∧
      s.translate .initial = .ok (p, f) := by
    simp only [Pattern.read, Syntax.read, Syntax.parse, bind_eq_ok, map_eq_ok]
    cases Reader.run (cs.length + 1) .start cs with
    | error e => simp
    | ok s => by_cases deep : s.depth ≤ depthLimit <;> simp [deep]
  unfold Pattern.compile
  cases h : Pattern.read cs with
  | error e =>
    simp only [reduceCtorEq, false_iff]
    rintro ⟨s, f, hs, deep, hp, -⟩
    rw [read.mpr ⟨s, f, hs, deep, hp⟩] at h
    cases h
  | ok q =>
    constructor
    · intro ok
      simp only at ok
      split at ok
      · rename_i fits
        cases ok
        obtain ⟨s, f, hs, deep, hq⟩ := read.mp h
        exact ⟨s, f, hs, deep, hq, fits⟩
      · cases ok
    · rintro ⟨s, f, hs, deep, hp, fits⟩
      rw [read.mpr ⟨s, f, hs, deep, hp⟩] at h
      cases h
      exact if_pos fits

/-! ### The ends of branches -/

/-- A text that begins where a branch ends. -/
inductive Barred : List Char → Prop where
  | bar (rest : List Char) : Barred ('|' :: rest)
  | close (rest : List Char) : Barred (')' :: rest)

theorem Barred.eq_cons {tail : List Char} (h : Barred tail) :
    ∃ c rest, tail = c :: rest ∧ (c = '|' ∨ c = ')') := by
  cases h with
  | bar rest => exact ⟨_, rest, rfl, .inl rfl⟩
  | close rest => exact ⟨_, rest, rfl, .inr rfl⟩

theorem isSpace_barred {c : Char} (h : c = '|' ∨ c = ')') : Unicode.isSpace c = false := by
  rcases h with rfl | rfl <;> decide +kernel

theorem skip_barred (verbose : Bool) {tail : List Char} (h : Barred tail) :
    skip verbose tail = tail := by
  obtain ⟨c, rest, rfl, bar⟩ := h.eq_cons
  have solid := isSpace_barred bar
  have mark : c ≠ '#' := by rcases bar with rfl | rfl <;> decide
  cases verbose
  · rfl
  · simp [skip, skipBlanksFuel, solid, mark]

/-! ### From one place to another -/

namespace Reader

theorem run_succ {r : Reader} {cs rest : List Char} {token : Token}
    (read : nextToken r.verbose cs = .ok (token, rest)) (more : token ≠ .done) (fuel : Nat) :
    run (fuel + 1) r cs = (r.step token).bind (run fuel · rest) := by
  rw [run, read]
  cases token with
  | done => contradiction
  | _ =>
    dsimp only
    cases r.step _ <;> rfl

theorem run_token {r r' : Reader} {cs rest : List Char} {token : Token}
    (read : nextToken r.verbose cs = .ok (token, rest)) (more : token ≠ .done)
    (step : r.step token = .ok r') (fuel : Nat) : run (fuel + 1) r cs = run fuel r' rest := by
  rw [run_succ read more, step]
  rfl

/-- Reading comes from one place to another, on whatever fuel is left for the text behind. -/
def Reads (r : Reader) (cs : List Char) (r' : Reader) (cs' : List Char) : Prop :=
  ∃ n, n + cs'.length ≤ cs.length ∧ ∀ fuel, run (fuel + n) r cs = run fuel r' cs'

variable {r r' r'' : Reader} {cs cs' cs'' : List Char}

theorem Reads.refl (r : Reader) (cs : List Char) : r.Reads cs r cs :=
  ⟨0, by omega, fun _ => rfl⟩

theorem Reads.trans (h : r.Reads cs r' cs') (k : r'.Reads cs' r'' cs'') :
    r.Reads cs r'' cs'' := by
  obtain ⟨n, hn, first⟩ := h
  obtain ⟨m, hm, second⟩ := k
  refine ⟨m + n, by omega, fun fuel => ?_⟩
  rw [← Nat.add_assoc, first, second]

theorem Reads.token {token : Token} (read : nextToken r.verbose cs = .ok (token, cs'))
    (more : token ≠ .done) (step : r.step token = .ok r') (shorter : cs'.length < cs.length) :
    r.Reads cs r' cs' :=
  ⟨1, by omega, run_token read more step⟩

theorem Reads.parse (h : Reads .start cs r []) :
    Syntax.parse cs = r.finish := by
  obtain ⟨n, hn, reads⟩ := h
  have enough : cs.length + 1 = (cs.length - n + 1) + n := by
    simp only [List.length_nil] at hn
    omega
  have done : nextToken r.verbose [] = .ok (.done, []) := by cases r.verbose <;> rfl
  rw [Syntax.parse, enough, reads, run, done]

/-! ### Tokens outside of verbose mode -/

theorem reads_atom {s : Syntax} (plain : r.verbose = false)
    (read : nextToken false cs = .ok (.atom s, cs')) (shorter : cs'.length < cs.length) :
    r.Reads cs { r with current := r.current.push s } cs' :=
  .token (plain ▸ read) (by simp) rfl shorter

theorem reads_repetition {min : Nat} {max : Option Nat} {item : Syntax} {items : List Syntax}
    (plain : r.verbose = false) (read : nextToken false cs = .ok (.repeated min max true, cs'))
    (shorter : cs'.length < cs.length) (last : r.current.items = item :: items)
    (solid : ∀ change, item ≠ .setFlags change) :
    r.Reads cs { r with current.items := .repetition min max true item :: items } cs' := by
  refine .token (plain ▸ read) (by simp) ?_ shorter
  simp only [step, repeatLast, last]

theorem reads_bar (r : Reader) (cs : List Char) :
    r.Reads ('|' :: cs) { r with current := r.current.bar } cs := by
  refine @Reads.token _ _ _ _ .bar ?_ (by simp) rfl (by simp)
  rw [nextToken, skip_barred r.verbose (.bar cs)]
  rfl

theorem reads_open (plain : r.verbose = false) (cs : List Char) :
    r.Reads ('(' :: '?' :: ':' :: cs) (r.openGroup (.plain [])) cs := by
  refine @Reads.token _ _ _ _ (.openGroup (.plain []) none) ?_ (by simp) rfl ?_
  · rw [plain]
    rfl
  · simp only [List.length_cons]
    omega

theorem reads_close {r : Reader} {g : OpenGroup} {groups : List OpenGroup}
    (opened : r.groups = g :: groups) (cs : List Char) :
    r.Reads (')' :: cs) { r with
      current := g.around.push (.group g.kind r.current.close), groups, verbose := g.verbose }
      cs := by
  refine @Reads.token _ _ _ _ .closeGroup ?_ (by simp) ?_ (by simp)
  · rw [nextToken, skip_barred r.verbose (.close cs)]
    rfl
  · simp [step, opened]

end Reader

/-! ### Characters that stand for themselves -/

theorem nextToken_escapeChar (c : Char) (tail : List Char) :
    nextToken false (escapeChar c ++ tail) = .ok (.atom (.literal c false), tail) := by
  by_cases special : isMeta c = true
  · rw [escapeChar, if_pos special]
    simp only [isMeta, List.mem_cons, List.not_mem_nil, or_false, decide_eq_true_eq] at special
    rcases special with rfl | rfl | rfl | rfl | rfl | rfl | rfl | rfl | rfl | rfl | rfl | rfl |
      rfl | rfl | rfl | rfl | rfl | rfl <;> rfl
  · rw [escapeChar, if_neg special]
    simp only [isMeta, List.mem_cons, List.not_mem_nil, or_false, decide_eq_true_eq,
      not_or] at special
    simp only [nextToken, skip, Bool.false_eq_true, if_false, List.cons_append, List.nil_append]
    split <;> first | rfl | simp_all

/-! ### Numbers -/

theorem digits_append {ds rest : List Char} (digits : ∀ c ∈ ds, c.isDigit = true)
    (stop : ∀ c, rest.head? = some c → c.isDigit = false) {fuel : Nat} (enough : ds.length < fuel) :
    readDecimal.digits false fuel (ds ++ rest) = (ds, rest) := by
  induction ds generalizing fuel with
  | nil =>
    obtain _ | fuel := fuel
    · cases enough
    · cases rest with
      | nil => rfl
      | cons c rest => simp [readDecimal.digits, stop c rfl]
  | cons d ds ih =>
    obtain _ | fuel := fuel
    · cases enough
    · have more : readDecimal.digits false fuel (ds ++ rest) = (ds, rest) :=
        ih (fun c hc => digits c (List.mem_cons_of_mem _ hc)) (by simpa using enough)
      simp [readDecimal.digits, digits d List.mem_cons_self, skip, more]

theorem isSpace_of_isDigit {c : Char} (digit : c.isDigit = true) : Unicode.isSpace c = false := by
  have each : ∀ n ∈ List.range' 48 10, Unicode.isSpace (Char.ofNat n) = false := by
    decide +kernel
  have code := each c.toNat
  rw [Char.ofNat_toNat] at code
  apply code
  simp only [Char.isDigit, Bool.and_eq_true, decide_eq_true_eq, ge_iff_le, UInt32.le_iff_toNat_le]
    at digit
  exact List.mem_range'_1.mpr ⟨digit.1, Nat.lt_succ_of_le digit.2⟩

theorem readDecimal_decimal (n : UInt32) {c : Char} (rest : List Char)
    (stop : c.isDigit = false) (solid : Unicode.isSpace c = false) :
    readDecimal false (Rules.decimal n ++ c :: rest) = .ok (n.toNat, c :: rest) := by
  have digits : ∀ d ∈ Rules.decimal n, d.isDigit = true := by
    intro d hd
    exact Nat.isDigit_of_mem_toDigits (by omega) (by omega) hd
  have value : (Rules.decimal n).foldl (fun n c => 10 * n + (c.toNat - '0'.toNat)) 0 = n.toNat :=
    Nat.ofDigitChars_ten_toDigits
  have some : Rules.decimal n ≠ [] := Nat.toDigits_ne_nil
  have front : (Rules.decimal n ++ c :: rest).dropWhile Unicode.isSpace =
      Rules.decimal n ++ c :: rest := by
    cases h : Rules.decimal n with
    | nil => exact absurd h some
    | cons d ds =>
      have digit : d.isDigit = true := digits d (h ▸ List.mem_cons_self)
      simp [isSpace_of_isDigit digit]
  have enough : (Rules.decimal n).length < (Rules.decimal n ++ c :: rest).length + 1 := by
    simp only [List.length_append]
    omega
  have ends : ∀ d, (c :: rest).head? = Option.some d → d.isDigit = false := by simpa using stop
  have split := digits_append digits ends enough
  have small : ¬ UInt32.size ≤ n.toNat := Nat.not_le.mpr n.toNat_lt
  simp only [readDecimal, front, split, value]
  rw [if_neg (by simpa [some] using small)]
  simp [skip, solid]

theorem readBounds_boundsOperator (min : UInt32) (max : Option UInt32)
    (ordered : ∀ m, max = some m → min ≤ m) :
    ∃ inside, Rules.boundsOperator min max = '{' :: inside ∧ ∀ tail,
      readBounds false (inside ++ tail) = .ok ((min.toNat, max.map UInt32.toNat), tail) := by
  have comma : Unicode.isSpace ',' = false := by decide +kernel
  have brace : Unicode.isSpace '}' = false := by decide +kernel
  cases max with
  | none =>
    refine ⟨Rules.decimal min ++ [',', '}'], rfl, fun tail => ?_⟩
    have first := readDecimal_decimal min ('}' :: tail) (c := ',') rfl comma
    simp only [List.cons_append, List.append_assoc, List.nil_append, readBounds, skip,
      Bool.false_eq_true, if_false, first]
    rfl
  | some max =>
    by_cases same : max = min
    · refine ⟨Rules.decimal min ++ ['}'], by simp [Rules.boundsOperator, same], fun tail => ?_⟩
      have first := readDecimal_decimal min tail (c := '}') rfl brace
      simp only [same, List.append_assoc, List.cons_append, List.nil_append, readBounds, skip,
        Bool.false_eq_true, if_false, first]
      rfl
    · refine ⟨Rules.decimal min ++ ',' :: Rules.decimal max ++ ['}'],
        by simp [Rules.boundsOperator, same], fun tail => ?_⟩
      have first := readDecimal_decimal min (Rules.decimal max ++ '}' :: tail) (c := ',') rfl comma
      have second := readDecimal_decimal max tail (c := '}') rfl brace
      have ordered : min.toNat ≤ max.toNat := UInt32.le_iff_toNat_le.mp (ordered max rfl)
      obtain ⟨d, ds, front, digit⟩ : ∃ d ds, Rules.decimal max = d :: ds ∧ d.isDigit = true := by
        cases h : Rules.decimal max with
        | nil => exact absurd h Nat.toDigits_ne_nil
        | cons d ds =>
          have mem : d ∈ Rules.decimal max := h ▸ List.mem_cons_self
          exact ⟨d, ds, rfl, Nat.isDigit_of_mem_toDigits (by omega) (by omega) mem⟩
      have open' : d ≠ '}' := by
        rintro rfl
        cases digit
      simp only [List.cons_append, List.append_assoc, List.nil_append, readBounds, skip,
        Bool.false_eq_true, if_false, first]
      simp only [front, List.cons_append] at second ⊢
      simp [bind, Except.bind, second, ordered, open', pure, Except.pure]

theorem readGreed_greedy (min : Nat) (max : Option Nat) {tail : List Char}
    (stop : tail.head? ≠ some '?') : readGreed min max tail = (.repeated min max true, tail) := by
  unfold readGreed
  split
  · exact absurd rfl stop
  · rfl

/-! ### Classes of listed characters -/

theorem classMember_eq (c : Char) : ∃ d ds, Rules.classMember c = d :: ds ∧
    d ∉ [']', '[', '^', '-', '&', '~'] ∧
    ∀ more, readMember false (Rules.classMember c ++ more) = .ok (.literal c false, more) := by
  by_cases special : c ∈ ['\\', ']', '[', '^', '-', '&', '~']
  · refine ⟨'\\', [c], if_pos special, by decide, fun more => ?_⟩
    rw [Rules.classMember, if_pos special]
    simp only [List.mem_cons, List.not_mem_nil, or_false] at special
    rcases special with rfl | rfl | rfl | rfl | rfl | rfl | rfl <;> rfl
  · refine ⟨c, [], if_neg special, fun h => special (List.mem_cons_of_mem _ h), fun more => ?_⟩
    rw [Rules.classMember, if_neg special]
    simp only [List.mem_cons, not_or] at special
    simp only [List.cons_append, List.nil_append, readMember]
    split
    · simp_all
    · simp_all
    · contradiction

theorem readClassBody_member (fuel : Nat) (o : OpenClass) (c : Char) {d : Char}
    (more : List Char) (next : d ≠ '-') :
    readClassBody false (fuel + 1) o [] (Rules.classMember c ++ d :: more) =
      readClassBody false fuel (o.push (.char c false)) [] (d :: more) := by
  obtain ⟨e, es, front, quiet, member⟩ := classMember_eq c
  have item : readClassItem false (Rules.classMember c ++ d :: more) =
      .ok (.char c false, d :: more) := by
    simp only [readClassItem, member, bind, Except.bind, skip, Bool.false_eq_true, if_false]
    split
    · contradiction
    · simp_all
    · simp_all [Primitive.toClassItem, pure, Except.pure]
  simp only [List.mem_cons, List.not_mem_nil, or_false, not_or] at quiet
  rw [readClassBody]
  simp only [skip, Bool.false_eq_true, if_false]
  rw [front] at item ⊢
  split <;> simp_all [bind, Except.bind]

theorem readClassBody_members (cs : List Char) (o : OpenClass) (tail : List Char) {fuel : Nat}
    (enough : cs.length < fuel) :
    readClassBody false fuel o [] (cs.flatMap Rules.classMember ++ ']' :: tail) =
      .ok (.bracketed o.negated
        (cs.foldl (fun o c => o.push (.char c false)) o).value, tail) := by
  induction cs generalizing o fuel with
  | nil =>
    obtain _ | fuel := fuel
    · cases enough
    · simp [readClassBody, skip]
  | cons c cs ih =>
    obtain _ | fuel := fuel
    · cases enough
    · rw [List.flatMap_cons, List.append_assoc, List.foldl_cons]
      have left : cs.length < fuel := by simpa using enough
      have rest := ih (o.push (.char c false)) left
      have step : ∃ d more, cs.flatMap Rules.classMember ++ ']' :: tail = d :: more ∧ d ≠ '-' := by
        cases cs with
        | nil => exact ⟨']', tail, rfl, by decide⟩
        | cons d cs =>
          obtain ⟨e, es, front, quiet, -⟩ := classMember_eq d
          refine ⟨e, es ++ (cs.flatMap Rules.classMember ++ ']' :: tail), ?_, ?_⟩
          · rw [List.flatMap_cons, front]
            simp
          · rintro rfl
            exact quiet (by decide)
      obtain ⟨d, more, front, next⟩ := step
      rw [front] at rest ⊢
      rw [readClassBody_member fuel o c more next, rest]
      rfl

theorem foldl_push_chars (cs : List Char) (o : OpenClass) :
    cs.foldl (fun o c => o.push (.char c false)) o =
      { o with items := (cs.map (ClassSyntax.char · false)).reverse ++ o.items } := by
  induction cs generalizing o with
  | nil => rfl
  | cons c cs ih =>
    rw [List.foldl_cons, ih]
    simp [OpenClass.push]

theorem length_le_members (cs : List Char) :
    cs.length ≤ (cs.flatMap Rules.classMember).length := by
  induction cs with
  | nil => exact Nat.le_refl _
  | cons c cs ih =>
    obtain ⟨d, ds, front, -⟩ := classMember_eq c
    simp only [List.flatMap_cons, List.length_append, front, List.length_cons]
    omega

theorem readClass_members {cs : List Char} (some : cs ≠ []) (tail : List Char) :
    readClass false (cs.flatMap Rules.classMember ++ ']' :: tail) =
      .ok (.bracketed false (.ofItems (cs.map (ClassSyntax.char · false))), tail) := by
  obtain ⟨d, more, front, quiet⟩ : ∃ d more,
      cs.flatMap Rules.classMember ++ ']' :: tail = d :: more ∧
        d ∉ [']', '[', '^', '-', '&', '~'] := by
    cases cs with
    | nil => exact absurd rfl some
    | cons c cs =>
      obtain ⟨d, ds, front, quiet, -⟩ := classMember_eq c
      exact ⟨d, ds ++ (cs.flatMap Rules.classMember ++ ']' :: tail), by simp [front], quiet⟩
  have opened : readClassOpen false (d :: more) = .ok (⟨false, none, []⟩, d :: more) := by
    simp only [List.mem_cons, List.not_mem_nil, or_false, not_or] at quiet
    have hyphens : readHyphens false ((d :: more).length + 1) [] (d :: more) =
        .ok ([], d :: more) := by
      rw [readHyphens] <;> simp_all
    simp only [readClassOpen, skip, Bool.false_eq_true, if_false]
    split
    · simp_all
    · simp only [hyphens, bind, Except.bind]
      split
      · simp_all
      · rfl
  have enough : cs.length < (cs.flatMap Rules.classMember ++ ']' :: tail).length + 1 := by
    have := length_le_members cs
    simp only [List.length_append]
    omega
  have body := readClassBody_members cs ⟨false, none, []⟩ tail enough
  rw [front] at body ⊢
  simp only [readClass, opened, bind, Except.bind, body, foldl_push_chars, OpenClass.value,
    List.append_nil, List.reverse_reverse]

end Ligature.Regex
