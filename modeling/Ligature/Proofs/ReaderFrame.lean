import Ligature.Proofs.Reading

/-!
# What follows a branch

A token reads no further than it has to: behind the end of a branch it may stand before anything.
The one way for a text to reach into what follows it is to end in a comment of verbose mode. So
every reader of a part of a token has a lemma of one form: what it reads from a text it reads from
the same text with more behind it, unless nothing of the text is left and a closing parenthesis
behind it would be lost.
-/
namespace Ligature.Regex

/-! ### Blanks and comments -/

theorem length_dropComment_le (cs : List Char) : (dropComment cs).length ≤ cs.length := by
  have := (List.dropWhile_sublist (l := cs) (· ≠ '\n')).length_le
  simp only [dropComment, List.length_drop]
  omega

theorem skipBlanksFuel_eq {fuel fuel' : Nat} {cs : List Char} (enough : cs.length < fuel)
    (enough' : cs.length < fuel') : skipBlanksFuel fuel cs = skipBlanksFuel fuel' cs := by
  induction fuel generalizing fuel' cs with
  | zero => cases enough
  | succ fuel ih =>
    obtain _ | fuel' := fuel'
    · cases enough'
    · cases cs with
      | nil => rfl
      | cons c r =>
        have shorter := length_dropComment_le r
        simp only [List.length_cons] at enough enough'
        simp only [skipBlanksFuel]
        have blank : skipBlanksFuel fuel r = skipBlanksFuel fuel' r := ih (by omega) (by omega)
        have comment : skipBlanksFuel fuel (dropComment r) = skipBlanksFuel fuel' (dropComment r) :=
          ih (by omega) (by omega)
        rw [blank, comment]

theorem skip_nil (v : Bool) : skip v [] = [] := by cases v <;> rfl

theorem skip_true_cons (c : Char) (r : List Char) :
    skip true (c :: r) = if Unicode.isSpace c then skip true r
      else if c = '#' then skip true (dropComment r) else c :: r := by
  have shorter := length_dropComment_le r
  have blank : skipBlanksFuel (c :: r).length r = skipBlanksFuel (r.length + 1) r :=
    skipBlanksFuel_eq (by simp) (by simp)
  have comment : skipBlanksFuel (c :: r).length (dropComment r) =
      skipBlanksFuel ((dropComment r).length + 1) (dropComment r) :=
    skipBlanksFuel_eq (by simp only [List.length_cons]; omega) (by simp)
  simp only [skip, if_true]
  rw [skipBlanksFuel, blank, comment]

theorem skip_induct {motive : List Char → Prop} (nil : motive [])
    (blank : ∀ c r, Unicode.isSpace c = true → motive r → motive (c :: r))
    (comment : ∀ r, Unicode.isSpace '#' = false → motive (dropComment r) → motive ('#' :: r))
    (other : ∀ c r, Unicode.isSpace c = false → c ≠ '#' → motive (c :: r)) :
    (cs : List Char) → motive cs
  | [] => nil
  | c :: r => by
    by_cases space : Unicode.isSpace c = true
    · exact blank c r space (skip_induct nil blank comment other r)
    · by_cases mark : c = '#'
      · have shorter := length_dropComment_le r
        subst mark
        exact comment r (by simpa using space)
          (skip_induct nil blank comment other (dropComment r))
      · exact other c r (by simpa using space) mark
termination_by cs => cs.length

theorem length_skip_le (v : Bool) (cs : List Char) : (skip v cs).length ≤ cs.length := by
  cases v with
  | false => exact Nat.le_refl _
  | true =>
    induction cs using skip_induct with
    | nil => exact Nat.le_refl _
    | blank c r space ih =>
      rw [skip_true_cons, if_pos space]
      simp only [List.length_cons]
      omega
    | comment r space ih =>
      have shorter := length_dropComment_le r
      rw [skip_true_cons, if_neg (by simp [space]), if_pos rfl]
      simp only [List.length_cons]
      omega
    | other c r space mark =>
      have same : skip true (c :: r) = c :: r := by
        rw [skip_true_cons, if_neg (by simp [space]), if_neg mark]
      exact Nat.le_of_eq (congrArg List.length same)

/-- A comment that does not end takes what follows it along. -/
theorem dropComment_append (cs : List Char) :
    (∀ tail, dropComment (cs ++ tail) = dropComment cs ++ tail) ∨
      (dropComment cs = [] ∧ ∀ tail, dropComment (cs ++ tail) = dropComment tail) := by
  induction cs with
  | nil => exact .inr ⟨rfl, fun _ => rfl⟩
  | cons c cs ih =>
    by_cases line : c = '\n'
    · left
      intro tail
      simp [dropComment, line]
    · have step : ∀ cs, dropComment (c :: cs) = dropComment cs := by
        intro cs
        simp [dropComment, line]
      simpa only [List.cons_append, step] using ih

/-- What is skipped at the end of a branch is skipped whatever follows the branch, unless it ends
in a comment. -/
theorem skip_append (v : Bool) (cs : List Char) :
    (∀ tail, skip v cs ≠ [] ∨ Barred tail → skip v (cs ++ tail) = skip v cs ++ tail) ∨
      (skip v cs = [] ∧ skip v (cs ++ [')']) = []) := by
  cases v with
  | false => exact .inl fun _ _ => rfl
  | true =>
    induction cs using skip_induct with
    | nil =>
      left
      intro tail h
      rcases h with h | barred
      · exact absurd rfl h
      · rw [skip_nil, List.nil_append]
        exact skip_barred true barred
    | blank c r space ih => simpa only [List.cons_append, skip_true_cons, space, if_true] using ih
    | comment r space ih =>
      simp only [List.cons_append, skip_true_cons, space, Bool.false_eq_true, if_false, if_true]
      rcases dropComment_append r with same | ⟨none, lost⟩
      · simpa only [same] using ih
      · right
        rw [none, lost]
        exact ⟨rfl, rfl⟩
    | other c r space mark =>
      left
      intro tail _
      simp only [List.cons_append, skip_true_cons, space, Bool.false_eq_true, if_false, mark]

theorem skip_append_of_ne {v : Bool} {cs : List Char} (more : skip v cs ≠ []) (tail : List Char) :
    skip v (cs ++ tail) = skip v cs ++ tail := by
  rcases skip_append v cs with same | ⟨none, -⟩
  · exact same tail (.inl more)
  · exact absurd none more

theorem skip_append_of_cons {v : Bool} {cs rest : List Char} {c : Char}
    (front : skip v cs = c :: rest) (tail : List Char) :
    skip v (cs ++ tail) = c :: (rest ++ tail) := by
  rw [skip_append_of_ne (by simp [front]), front, List.cons_append]

/-! ### Readers and what follows -/

section Frames

variable {α β : Type}

/-- A reader that reads no further than to the end of a branch. -/
def Steady (f : List Char → Reading α) : Prop :=
  ∀ cs x rest, f cs = .ok (x, rest) → ∀ tail, Barred tail → f (cs ++ tail) = .ok (x, rest ++ tail)

/-- A reader that reads no further than to the end of a branch, unless the text ends in a comment:
then nothing is left of it, nor of a closing parenthesis behind it. -/
def Framed (f : List Char → Reading α) : Prop :=
  ∀ cs x rest, f cs = .ok (x, rest) →
    (∀ tail, Barred tail → f (cs ++ tail) = .ok (x, rest ++ tail)) ∨
      (rest = [] ∧ f (cs ++ [')']) = .ok (x, []))

def SteadyOn (f : Nat → List Char → Reading α) : Prop :=
  ∀ fuel cs x rest, f fuel cs = .ok (x, rest) → ∀ tail fuel', fuel ≤ fuel' → Barred tail →
    f fuel' (cs ++ tail) = .ok (x, rest ++ tail)

variable {f : List Char → Reading α} {cs rest : List Char} {x : α}

theorem Steady.framed (h : Steady f) : Framed f :=
  fun cs x rest read => .inl (h cs x rest read)

theorem Framed.of_ne (h : Framed f) (read : f cs = .ok (x, rest)) (more : rest ≠ [])
    {tail : List Char} (barred : Barred tail) : f (cs ++ tail) = .ok (x, rest ++ tail) := by
  rcases h cs x rest read with same | ⟨none, -⟩
  · exact same tail barred
  · exact absurd none more

theorem Framed.bind (h : Framed f) (g : α → Except CompileError β) :
    Framed fun cs => (f cs).bind fun y => (g y.1).map fun z => (z, y.2) := by
  intro cs x rest read
  obtain ⟨⟨y, r⟩, first, second⟩ := bind_eq_ok.mp read
  obtain ⟨z, last, same⟩ := map_eq_ok.mp second
  cases same
  rcases h cs y r first with same | ⟨none, lost⟩
  · left
    intro tail barred
    simp [same tail barred, last, Except.bind, Except.map]
  · right
    exact ⟨none, by simp [lost, last, Except.bind, Except.map]⟩

theorem Framed.map (h : Framed f) (g : α → β) :
    Framed fun cs => (f cs).map fun y => (g y.1, y.2) := by
  intro cs x rest read
  obtain ⟨⟨y, r⟩, first, same⟩ := map_eq_ok.mp read
  cases same
  rcases h cs y r first with same | ⟨none, lost⟩
  · left
    intro tail barred
    simp [same tail barred, Except.map]
  · right
    exact ⟨none, by simp [lost, Except.map]⟩

theorem Framed.after_skip (h : Framed f) (v : Bool)
    (stop : ∀ x rest, f [] = .ok (x, rest) → rest = []) : Framed fun cs => f (skip v cs) := by
  intro cs x rest (read : f (skip v cs) = .ok (x, rest))
  change (∀ tail, Barred tail → f (skip v (cs ++ tail)) = _) ∨
    (rest = [] ∧ f (skip v (cs ++ [')'])) = _)
  rcases skip_append v cs with same | ⟨none, lost⟩
  · rcases h _ x rest read with steady | ⟨none, lost⟩
    · left
      intro tail barred
      rw [same tail (.inr barred)]
      exact steady tail barred
    · right
      rw [same [')'] (.inr (.close []))]
      exact ⟨none, lost⟩
  · rw [none] at read
    have done := stop x rest read
    subst done
    right
    rw [lost]
    exact ⟨rfl, read⟩

end Frames

/-! ### Numbers -/

theorem dropWhile_append_of_ne {p : Char → Bool} {cs : List Char} (more : cs.dropWhile p ≠ [])
    (tail : List Char) : (cs ++ tail).dropWhile p = cs.dropWhile p ++ tail := by
  simp [List.dropWhile_append, more]

def readWhile (v : Bool) (keep : Char → Bool) : Nat → List Char → List Char × List Char
  | 0, cs => ([], cs)
  | _ + 1, [] => ([], [])
  | fuel + 1, c :: r =>
    if keep c then
      let (ks, rest) := readWhile v keep fuel (skip v r)
      (c :: ks, rest)
    else ([], c :: r)

theorem digits_eq_readWhile (v : Bool) (fuel : Nat) (cs : List Char) :
    readDecimal.digits v fuel cs = readWhile v Char.isDigit fuel cs := by
  induction fuel generalizing cs with
  | zero => rfl
  | succ fuel ih => cases cs <;> simp [readDecimal.digits, readWhile, ih]

theorem readLetters_eq_readWhile (v : Bool) (fuel : Nat) (cs : List Char) :
    readLetters v fuel cs = readWhile v (fun c => c.isAlpha || c == '-') fuel cs := by
  induction fuel generalizing cs with
  | zero => rfl
  | succ fuel ih => cases cs <;> simp [readLetters, readWhile, ih]

theorem readWhile_append_of_ne {v : Bool} {keep : Char → Bool} {fuel : Nat}
    {cs ks rest : List Char} (read : readWhile v keep fuel cs = (ks, rest))
    (enough : cs.length < fuel) (more : rest ≠ []) (tail : List Char) {fuel' : Nat}
    (enough' : (cs ++ tail).length < fuel') :
    readWhile v keep fuel' (cs ++ tail) = (ks, rest ++ tail) := by
  induction fuel generalizing cs ks fuel' with
  | zero => cases enough
  | succ fuel ih =>
    obtain _ | fuel' := fuel'
    · cases enough'
    · cases cs with
      | nil =>
        simp only [readWhile, Prod.mk.injEq] at read
        exact absurd read.2.symm more
      | cons c r =>
        simp only [List.cons_append, readWhile] at read ⊢
        split
        · rename_i kept
          rw [if_pos kept] at read
          obtain ⟨ks', r', next⟩ : ∃ ks' r', readWhile v keep fuel (skip v r) = (ks', r') :=
            ⟨_, _, rfl⟩
          have left : skip v r ≠ [] := by
            intro none
            rw [none] at next
            cases fuel <;> simp_all [readWhile]
          have short := length_skip_le v r
          rw [next] at read
          cases read
          simp only [List.cons_append, List.length_cons, List.length_append] at enough enough'
          have rest : readWhile v keep fuel' (skip v r ++ tail) = (ks', r' ++ tail) :=
            ih next (by omega) (by simp only [List.length_append]; omega)
          rw [skip_append_of_ne left, rest]
        · rename_i other
          rw [if_neg other] at read
          cases read
          rfl

theorem readDecimal_append_of_ne {v : Bool} {cs rest : List Char} {n : Nat}
    (read : readDecimal v cs = .ok (n, rest)) (more : rest ≠ []) (tail : List Char) :
    readDecimal v (cs ++ tail) = .ok (n, rest ++ tail) := by
  obtain ⟨ds, r, digits⟩ : ∃ ds r, readWhile v Char.isDigit
      ((cs.dropWhile Unicode.isSpace).length + 1) (cs.dropWhile Unicode.isSpace) = (ds, r) :=
    ⟨_, _, rfl⟩
  simp only [readDecimal, digits_eq_readWhile, digits] at read
  split at read
  · cases read
  · rename_i number
    cases read
    have spaces : r.dropWhile Unicode.isSpace ≠ [] := by
      intro none
      exact more (by rw [none, skip_nil])
    have some : r ≠ [] := by
      rintro rfl
      exact spaces rfl
    have front : cs.dropWhile Unicode.isSpace ≠ [] := by
      intro none
      rw [none] at digits
      simp only [readWhile, Prod.mk.injEq] at digits
      exact some digits.2.symm
    simp only [readDecimal, digits_eq_readWhile, dropWhile_append_of_ne front,
      readWhile_append_of_ne digits (by simp) some tail (Nat.lt_succ_self _), if_neg number,
      dropWhile_append_of_ne spaces, skip_append_of_ne more]

theorem readDecimal_skip_append {v : Bool} {cs rest : List Char} {n : Nat}
    (read : readDecimal v (skip v cs) = .ok (n, rest)) (more : rest ≠ []) (tail : List Char) :
    readDecimal v (skip v (cs ++ tail)) = .ok (n, rest ++ tail) := by
  have some : skip v cs ≠ [] := by
    intro none
    rw [none] at read
    cases read
  rw [skip_append_of_ne some]
  exact readDecimal_append_of_ne read more tail

theorem steady_readBounds (v : Bool) : Steady (readBounds v) := by
  intro cs x rest read tail _
  unfold readBounds at read ⊢
  obtain ⟨⟨min, r⟩, first, read⟩ := bind_eq_ok.mp read
  simp only at read
  split at read
  · rename_i r
    rw [readDecimal_skip_append first (by simp) tail]
    simp only [bind, Except.bind, List.cons_append]
    split at read
    · rename_i r' front
      cases read
      rw [skip_append_of_cons front]
      rfl
    · rename_i r' open'
      obtain ⟨⟨max, r''⟩, second, read⟩ := bind_eq_ok.mp read
      simp only at read
      split at read
      · rename_i r''
        split at read
        · rename_i ordered
          cases read
          have more := readDecimal_skip_append second (by simp) tail
          split
          · rename_i r' front
            cases hr : skip v r with
            | nil =>
              rw [hr] at second
              cases second
            | cons c rs =>
              rw [skip_append_of_cons hr] at front
              cases front
              exact absurd hr (open' rs)
          · rw [more]
            simp [ordered, pure, Except.pure]
        · cases read
      · cases read
  · rename_i r
    rw [readDecimal_skip_append first (by simp) tail]
    cases read
    rfl
  · cases read

theorem framed_readHexDigits (v : Bool) (count value : Nat) :
    Framed (readHexDigits v count value) := by
  induction count generalizing value with
  | zero =>
    intro cs x rest read
    cases read
    exact .inl fun _ _ => rfl
  | succ count ih =>
    intro cs x rest read
    cases cs with
    | nil => cases read
    | cons c r =>
      simp only [readHexDigits, List.cons_append] at read ⊢
      split at read
      · rename_i d digit
        refine (ih (16 * value + d)).after_skip v ?_ r x rest read
        intro x rest none
        cases count with
        | zero =>
          cases none
          rfl
        | succ => cases none
      · cases read

theorem readHexBraced_cons {c : Char} (inside : c ≠ '}') (v : Bool) (fuel : Nat)
    (ds r : List Char) : readHexBraced v (fuel + 1) ds (c :: r) =
      if (Unicode.hexDigit? c).isSome then readHexBraced v fuel (c :: ds) (skip v r)
      else .error .malformed := by
  rw [readHexBraced]
  simpa using inside

theorem framed_readHexBraced {v : Bool} {fuel : Nat} {ds cs rest : List Char} {n : Nat}
    (read : readHexBraced v fuel ds cs = .ok (n, rest)) :
    (∀ tail fuel', fuel ≤ fuel' → Barred tail →
        readHexBraced v fuel' ds (cs ++ tail) = .ok (n, rest ++ tail)) ∨
      (rest = [] ∧ ∀ fuel', fuel ≤ fuel' →
        readHexBraced v fuel' ds (cs ++ [')']) = .ok (n, [])) := by
  induction fuel generalizing ds cs with
  | zero => cases read
  | succ fuel ih =>
    have raise : ∀ {P : Nat → Prop}, (∀ fuel', fuel ≤ fuel' → P (fuel' + 1)) →
        ∀ fuel', fuel + 1 ≤ fuel' → P fuel' := by
      intro P h fuel' enough
      obtain _ | fuel' := fuel'
      · cases enough
      · exact h fuel' (by omega)
    cases cs with
    | nil => cases read
    | cons c r =>
      by_cases last : c = '}'
      · subst last
        simp only [readHexBraced] at read
        split at read
        · cases read
        · rename_i some
          cases read
          rcases skip_append v r with same | ⟨none, lost⟩
          · left
            intro tail
            refine raise fun fuel' _ barred => ?_
            simp [readHexBraced, some, same tail (.inr barred)]
          · right
            refine ⟨none, raise fun fuel' _ => ?_⟩
            simp [readHexBraced, some, lost]
      · rw [readHexBraced_cons last] at read
        split at read
        · rename_i digit
          have left : skip v r ≠ [] := by
            intro none
            rw [none] at read
            cases fuel <;> cases read
          have step : ∀ fuel' tail, readHexBraced v (fuel' + 1) ds (c :: r ++ tail) =
              readHexBraced v fuel' (c :: ds) (skip v r ++ tail) := by
            intro fuel' tail
            rw [List.cons_append, readHexBraced_cons last, if_pos digit, skip_append_of_ne left]
          rcases ih read with steady | ⟨none, lost⟩
          · left
            intro tail
            refine raise fun fuel' enough barred => ?_
            rw [step]
            exact steady tail fuel' enough barred
          · right
            refine ⟨none, raise fun fuel' enough => ?_⟩
            rw [step]
            exact lost fuel' enough
        · cases read

def hexFrom (v : Bool) (width : Nat) : List Char → Reading (Char × Bool)
  | '{' :: r => (readHexBraced v (r.length + 1) [] (skip v r)).bind fun y =>
      (charOfCode y.1).map fun c => ((c, false), y.2)
  | r => (readHexDigits v width 0 r).bind fun y =>
      ((charOfCode y.1).map fun c => (c, decide (width = 2))).map fun z => (z, y.2)

theorem hexFrom_of_ne {v : Bool} {width : Nat} {cs : List Char} (digits : cs.head? ≠ some '{') :
    hexFrom v width cs = (readHexDigits v width 0 cs).bind fun y =>
      ((charOfCode y.1).map fun c => (c, decide (width = 2))).map fun z => (z, y.2) := by
  unfold hexFrom
  split
  · exact absurd rfl digits
  · rfl

theorem readHex_eq (v : Bool) (width : Nat) (cs : List Char) :
    readHex v width cs = hexFrom v width (skip v cs) := by
  unfold readHex
  split
  · rename_i r front
    rw [front]
    rfl
  · rename_i digits
    rw [hexFrom_of_ne]
    · simp only [bind, Except.bind]
      split
      · rfl
      · rename_i y _
        cases charOfCode y.1 <;> rfl
    · intro front
      cases h : skip v cs with
      | nil => simp [h] at front
      | cons c r =>
        rw [h] at front
        cases front
        exact digits r h

theorem framed_hexFrom (v : Bool) (width : Nat) : Framed (hexFrom v width) := by
  intro cs x rest read
  by_cases brace : cs.head? = some '{'
  · obtain ⟨r, rfl⟩ : ∃ r, cs = '{' :: r := by
      cases cs with
      | nil => cases brace
      | cons c r =>
        cases brace
        exact ⟨r, rfl⟩
    obtain ⟨⟨n, r'⟩, first, second⟩ := bind_eq_ok.mp read
    obtain ⟨c, code, same⟩ := map_eq_ok.mp second
    cases same
    have left : skip v r ≠ [] := by
      intro none
      rw [none] at first
      cases first
    have step : ∀ tail, hexFrom v width ('{' :: r ++ tail) =
        (readHexBraced v ((r ++ tail).length + 1) [] (skip v r ++ tail)).bind fun y =>
          (charOfCode y.1).map fun c => ((c, false), y.2) := by
      intro tail
      rw [← skip_append_of_ne left]
      rfl
    have longer : ∀ tail : List Char, r.length + 1 ≤ (r ++ tail).length + 1 := by
      intro tail
      simp only [List.length_append]
      omega
    rcases framed_readHexBraced first with steady | ⟨none, lost⟩
    · left
      intro tail barred
      rw [step, steady tail _ (longer tail) barred]
      simp [Except.bind, Except.map, code]
    · right
      rw [step, lost _ (longer _)]
      simp [Except.bind, Except.map, code, none]
  · have digits : ∀ tail, Barred tail → (cs ++ tail).head? ≠ some '{' := by
      intro tail barred
      cases cs with
      | nil => obtain ⟨c, r, rfl, rfl | rfl⟩ := barred.eq_cons <;> simp
      | cons c r => simpa using brace
    rw [hexFrom_of_ne brace] at read
    rcases (framed_readHexDigits v width 0).bind
      (fun n => (charOfCode n).map fun c => (c, decide (width = 2))) cs x rest read
      with steady | ⟨none, lost⟩
    · left
      intro tail barred
      rw [hexFrom_of_ne (digits tail barred)]
      exact steady tail barred
    · right
      rw [hexFrom_of_ne (digits _ (.close []))]
      exact ⟨none, lost⟩

theorem framed_readHex (v : Bool) (width : Nat) : Framed (readHex v width) := by
  have same : readHex v width = fun cs => hexFrom v width (skip v cs) :=
    funext (readHex_eq v width)
  rw [same]
  refine (framed_hexFrom v width).after_skip v ?_
  intro x rest none
  obtain ⟨⟨n, r⟩, first, second⟩ := bind_eq_ok.mp none
  obtain ⟨c, -, same⟩ := map_eq_ok.mp second
  cases same
  cases width <;> cases first
  rfl

/-! ### Named classes -/

theorem readBraced_cons {c : Char} (inside : c ≠ '}') (v : Bool) (fuel : Nat)
    (acc r : List Char) :
    readBraced v (fuel + 1) acc (c :: r) = readBraced v fuel (c :: acc) (skip v r) := by
  rw [readBraced]
  simpa using inside

theorem steady_readBraced (v : Bool) (acc : List Char) :
    SteadyOn fun fuel cs => readBraced v fuel acc cs := by
  intro fuel cs x rest read tail fuel' enough barred
  induction fuel generalizing acc cs fuel' with
  | zero => cases read
  | succ fuel ih =>
    obtain _ | fuel' := fuel'
    · cases enough
    · cases cs with
      | nil => cases read
      | cons c r =>
        by_cases last : c = '}'
        · subst last
          cases read
          rfl
        · simp only [List.cons_append, readBraced_cons last] at read ⊢
          have left : skip v r ≠ [] := by
            intro none
            rw [none] at read
            cases fuel <;> cases read
          rw [skip_append_of_ne left]
          exact ih (c :: acc) (skip v r) read fuel' (by omega)

theorem readProperty_letter {v : Bool} {cs r : List Char} {c : Char}
    (front : skip v cs = c :: r) (brace : c ≠ '{') (escape : c ≠ '\\') (negated : Bool) :
    readProperty v negated cs = (querySet [c]).map fun y => ((y.1, negated != y.2), skip v r) := by
  simp only [readProperty, front]
  cases querySet [c] <;> rfl

theorem framed_readProperty (v negated : Bool) : Framed (readProperty v negated) := by
  intro cs x rest read
  unfold readProperty at read ⊢
  split at read
  · rename_i r front
    obtain ⟨⟨query, r'⟩, first, second⟩ := bind_eq_ok.mp read
    obtain ⟨y, set, same⟩ := bind_eq_ok.mp second
    cases same
    have left : skip v r ≠ [] := by
      intro none
      rw [none] at first
      cases first
    left
    intro tail barred
    have braced := steady_readBraced v [] _ _ _ _ first tail ((r ++ tail).length + 1)
      (by simp only [List.length_append]; omega) barred
    simp only [skip_append_of_cons front, skip_append_of_ne left, braced, bind, Except.bind, set]
    rfl
  · cases read
  · rename_i c r brace escape front
    obtain ⟨y, set, same⟩ := bind_eq_ok.mp read
    cases same
    rcases skip_append v r with kept | ⟨none, lost⟩
    · left
      intro tail barred
      have step := readProperty_letter (skip_append_of_cons front tail) brace escape negated
      unfold readProperty at step
      rw [step, set, kept tail (.inr barred)]
      rfl
    · right
      have step := readProperty_letter (skip_append_of_cons front [')']) brace escape negated
      unfold readProperty at step
      rw [step, set, lost]
      exact ⟨none, rfl⟩
  · cases read

/-! ### Escapes -/

theorem steady_readBoundary (v : Bool) : Steady (readBoundary v) := by
  intro cs x rest read tail barred
  unfold readBoundary at read
  split at read
  · rename_i inside
    split at read
    · cases read
    · rename_i c r front
      simp only [List.cons_append, readBoundary, skip_append_of_cons front]
      split at read
      · rename_i letter
        rw [if_pos letter]
        split at read
        · rename_i name r' letters
          have enough : (c :: r ++ tail).length < (r ++ tail).length + 2 := by simp
          rw [readLetters_eq_readWhile] at letters
          have more := readWhile_append_of_ne letters (by simp) (by simp) tail enough
          simp only [List.cons_append] at more
          simp only [readLetters_eq_readWhile, more]
          split at read <;> first | cases read; rfl | cases read
        · cases read
      · rename_i letter
        rw [if_neg letter]
        cases read
        rfl
  · rename_i plain
    cases read
    unfold readBoundary
    split
    · rename_i inside front
      cases cs with
      | nil =>
        obtain ⟨c, r, rfl, bar⟩ := barred.eq_cons
        cases front
        rcases bar with bar | bar <;> cases bar
      | cons c r =>
        cases front
        exact absurd rfl (plain r)
    · rfl

theorem framed_ok {α : Type} (x : α) : Framed fun cs => .ok (x, cs) := by
  intro cs y rest read
  cases read
  exact .inl fun _ _ => rfl

theorem framed_readEscape (v : Bool) : Framed (readEscape v) := by
  have hex : ∀ width, Framed fun r => (readHex v width r).map fun y =>
      (Primitive.literal y.1.1 y.1.2, y.2) := fun width =>
    (framed_readHex v width).map fun y => Primitive.literal y.1 y.2
  have property : ∀ negated, Framed fun r => (readProperty v negated r).map fun y =>
      (Primitive.property y.1.1 y.1.2, y.2) := fun negated =>
    (framed_readProperty v negated).map fun y => Primitive.property y.1 y.2
  intro cs x rest read
  cases cs with
  | nil => cases read
  | cons c r =>
    by_cases named : c ∈ ['x', 'u', 'U', 'p', 'P', 'd', 's', 'w', 'D', 'S', 'W', 'a', 'f', 't',
        'n', 'r', 'v', 'A', 'z', 'b', 'B', '<', '>']
    · simp only [List.mem_cons, List.not_mem_nil, or_false] at named
      rcases named with rfl | rfl | rfl | rfl | rfl | rfl | rfl | rfl | rfl | rfl | rfl | rfl |
        rfl | rfl | rfl | rfl | rfl | rfl | rfl | rfl | rfl | rfl | rfl
      all_goals first
        | exact hex _ r x rest read
        | exact property _ r x rest read
        | exact framed_ok _ r x rest read
        | exact (steady_readBoundary v).framed r x rest read
    · have other : ∀ r, readEscape v (c :: r) =
          if isEscapable c then .ok (.literal c false, r) else .error .malformed := by
        intro r
        rw [readEscape] <;> (rintro rfl; exact named (by decide))
      simp only [List.cons_append, other] at read ⊢
      split at read
      · rename_i escapable
        simp only [if_pos escapable]
        exact framed_ok _ r x rest read
      · cases read

/-! ### Groups and flags -/

theorem steady_readFlags (negating afterMinus : Bool) (change : FlagChange) :
    SteadyOn fun fuel cs => readFlags fuel negating afterMinus change cs := by
  intro fuel cs x rest read tail fuel' enough barred
  induction fuel generalizing negating afterMinus change cs fuel' with
  | zero => cases read
  | succ fuel ih =>
    obtain _ | fuel' := fuel'
    · cases enough
    · cases cs with
      | nil => cases read
      | cons c r =>
        have next := fun n a ch read => ih n a ch r read fuel' (by omega)
        simp only [List.cons_append, readFlags] at read ⊢
        by_cases ends : c = ':' ∨ c = ')'
        · rw [if_pos ends] at read ⊢
          split at read
          · cases read
          · rename_i closed
            rw [if_neg closed]
            cases read
            rfl
        · rw [if_neg ends] at read ⊢
          by_cases minus : c = '-'
          · rw [if_pos minus] at read ⊢
            split at read
            · cases read
            · rename_i first
              rw [if_neg first]
              exact next _ _ _ read
          · rw [if_neg minus] at read ⊢
            cases flag : Flag.ofChar? c with
            | none =>
              rw [flag] at read
              cases read
            | some f =>
              simp only [flag] at read ⊢
              split at read
              · cases read
              · rename_i fresh
                rw [if_neg fresh]
                exact next _ _ _ read

theorem readGroupName_cons {c : Char} (inside : c ≠ '>') (acc : List Char) :
    ∃ fine : Bool, ∀ fuel r, readGroupName (fuel + 1) acc (c :: r) =
      if fine then readGroupName fuel (c :: acc) r else .error .malformed := by
  refine ⟨decide (c = '_' ∨ (if acc.isEmpty then Unicode.isAlphabetic c
    else c = '.' ∨ c = '[' ∨ c = ']' ∨ Unicode.isAlphanumeric c)), fun fuel r => ?_⟩
  rw [readGroupName]
  · simp only [decide_eq_true_eq]
  · simpa using inside

theorem steady_readGroupName (acc : List Char) :
    SteadyOn fun fuel cs => readGroupName fuel acc cs := by
  intro fuel cs x rest read tail fuel' enough barred
  induction fuel generalizing acc cs fuel' with
  | zero => cases read
  | succ fuel ih =>
    obtain _ | fuel' := fuel'
    · cases enough
    · cases cs with
      | nil => cases read
      | cons c r =>
        by_cases last : c = '>'
        · subst last
          simp only [List.cons_append, readGroupName] at read ⊢
          split at read
          · cases read
          · rename_i named
            rw [if_neg named]
            cases read
            rfl
        · obtain ⟨fine, step⟩ := readGroupName_cons last acc
          simp only [List.cons_append, step] at read ⊢
          split at read
          · rename_i nameChar
            rw [if_pos nameChar]
            exact ih (c :: acc) r read fuel' (by omega)
          · cases read

def flagGroup (y : FlagChange × Char) : Except CompileError Token :=
  if y.2 = ':' then .ok (.openGroup (.plain y.1) none)
  else if y.1.isEmpty then .error .malformed
  else .ok (.setFlags y.1)

theorem readGroup_flags {d : Char} (flags : d ∉ ['=', '!', '<', 'P']) (r : List Char) :
    readGroup false ('?' :: d :: r) =
      (readFlags ((d :: r).length + 1) false false [] (d :: r)).bind fun y =>
        (flagGroup y.1).map fun t => (t, y.2) := by
  simp only [List.mem_cons, List.not_mem_nil, or_false, not_or] at flags
  simp only [readGroup, skip, Bool.false_eq_true, if_false]
  split
  · simp_all
  · simp_all
  · simp_all
  · simp_all
  · simp_all
  · simp_all
  · rename_i r' _ _ _ _ _ _ same
    cases same
    simp only [bind]
    cases readFlags ((d :: r).length + 1) false false [] (d :: r) with
    | error e => rfl
    | ok y =>
      simp only [Except.bind, flagGroup]
      split
      · rfl
      · split <;> rfl
  · simp_all

theorem readGroup_name {e : Char} (named : e ≠ '=' ∧ e ≠ '!') (r : List Char) :
    readGroup false ('?' :: '<' :: e :: r) =
      (readGroupName ((e :: r).length + 1) [] (e :: r)).map fun y =>
        (.openGroup .capture (some y.1), y.2) := by
  simp only [readGroup, skip, Bool.false_eq_true, if_false]
  split
  · rename_i same
    cases same
  · rename_i same
    cases same
  · rename_i same
    cases same
    exact absurd rfl named.1
  · rename_i same
    cases same
    exact absurd rfl named.2
  · rename_i same
    cases same
  · rename_i same
    cases same
    simp only [bind]
    cases readGroupName ((e :: r).length + 1) [] (e :: r) <;> rfl
  · rename_i angle same
    cases same
    exact absurd rfl (angle (e :: r))
  · simp_all

theorem readGroup_named (r : List Char) :
    readGroup false ('?' :: 'P' :: '<' :: r) = (readGroupName (r.length + 1) [] r).map fun y =>
      (.openGroup .capture (some y.1), y.2) := by
  have step : readGroup false ('?' :: 'P' :: '<' :: r) =
      (readGroupName (r.length + 1) [] r).bind fun y =>
        .ok (.openGroup .capture (some y.1), y.2) := rfl
  rw [step]
  cases readGroupName (r.length + 1) [] r <;> rfl

theorem readGroup_unnamed {e : Char} (angle : e ≠ '<') (r : List Char) :
    readGroup false ('?' :: 'P' :: e :: r) = .error .malformed := by
  simp only [readGroup, skip, Bool.false_eq_true, if_false]
  split <;> rename_i same
  case h_8 => exact absurd rfl (same _)
  all_goals cases same
  · exact absurd rfl angle
  · rfl

theorem readGroup_plain {c : Char} (mark : c ≠ '?') (r : List Char) :
    readGroup false (c :: r) = .ok (.openGroup .capture none, c :: r) := by
  simp only [readGroup, skip, Bool.false_eq_true, if_false]
  split <;> simp_all [pure, Except.pure]

theorem groupName_append {r rest : List Char} {x : Token} (read :
      (readGroupName (r.length + 1) [] r).map (fun y =>
        (Token.openGroup .capture (some y.1), y.2)) = .ok (x, rest))
    {tail : List Char} (barred : Barred tail) :
    (readGroupName ((r ++ tail).length + 1) [] (r ++ tail)).map (fun y =>
        (Token.openGroup .capture (some y.1), y.2)) = .ok (x, rest ++ tail) := by
  obtain ⟨⟨name, r'⟩, first, same⟩ := map_eq_ok.mp read
  cases same
  have more := steady_readGroupName [] _ _ _ _ first tail ((r ++ tail).length + 1)
    (by simp only [List.length_append]; omega) barred
  simp only [more]
  rfl

theorem steady_readGroup_false : Steady (readGroup false) := by
  intro cs x rest read tail barred
  rcases cs with _ | ⟨c, r⟩
  · cases read
    obtain ⟨c, r, rfl, rfl | rfl⟩ := barred.eq_cons <;> rfl
  by_cases mark : c = '?'
  · subst mark
    rcases r with _ | ⟨d, r⟩
    · cases read
    by_cases flags : d ∈ ['=', '!', '<', 'P']
    · simp only [List.mem_cons, List.not_mem_nil, or_false] at flags
      rcases flags with rfl | rfl | rfl | rfl
      · cases read
      · cases read
      · rcases r with _ | ⟨e, r⟩
        · cases read
        by_cases named : e ≠ '=' ∧ e ≠ '!'
        · rw [readGroup_name named] at read
          simp only [List.cons_append, readGroup_name named]
          exact groupName_append read barred
        · have look : e = '=' ∨ e = '!' := Decidable.or_iff_not_not_and_not.mpr named
          rcases look with rfl | rfl <;> cases read
      · rcases r with _ | ⟨e, r⟩
        · cases read
        by_cases angle : e = '<'
        · subst angle
          rw [readGroup_named] at read
          simp only [List.cons_append, readGroup_named]
          exact groupName_append read barred
        · rw [readGroup_unnamed angle] at read
          cases read
    · rw [readGroup_flags flags] at read
      obtain ⟨⟨y, r'⟩, first, second⟩ := bind_eq_ok.mp read
      obtain ⟨t, token, same⟩ := map_eq_ok.mp second
      cases same
      have more := steady_readFlags false false [] _ _ _ _ first tail ((d :: r ++ tail).length + 1)
        (by simp only [List.length_append]; omega) barred
      simp only [List.cons_append] at more
      simp only [List.cons_append, readGroup_flags flags, more, Except.bind, token, Except.map]
  · rw [readGroup_plain mark] at read
    cases read
    simp only [List.cons_append, readGroup_plain mark]

theorem framed_readGroup (v : Bool) : Framed (readGroup v) := by
  have same : readGroup v = fun cs => readGroup false (skip v cs) := rfl
  rw [same]
  refine steady_readGroup_false.framed.after_skip v ?_
  intro x rest none
  cases none
  rfl

/-! ### Classes in brackets -/

theorem posixRanges?_of_mem {name : List Char} {c : Char} (mem : c ∈ name)
    (bar : c = '|' ∨ c = ')') : posixRanges? (String.ofList name) = none := by
  unfold posixRanges?
  split
  case h_15 => rfl
  all_goals
    rename_i same
    have text := congrArg String.toList same
    rw [String.toList_ofList] at text
    subst text
    rcases bar with rfl | rfl <;> revert mem <;> decide

def posixFrom (negated : Bool) (cs : List Char) : Option (ClassSyntax × List Char) :=
  match cs.dropWhile (· ≠ ':') with
  | ':' :: ']' :: after => (posixRanges? (String.ofList (cs.takeWhile (· ≠ ':')))).map fun ranges =>
      (.posix ranges negated, after)
  | _ => none

theorem posixFrom_append (negated : Bool) (cs : List Char) {tail : List Char}
    (barred : Barred tail) :
    posixFrom negated (cs ++ tail) = (posixFrom negated cs).map fun y => (y.1, y.2 ++ tail) := by
  obtain ⟨c, t, rfl, bar⟩ := barred.eq_cons
  by_cases colon : cs.dropWhile (· ≠ ':') = []
  · have none : posixFrom negated cs = none := by simp only [posixFrom, colon]
    have all : cs.takeWhile (· ≠ ':') = cs := by
      have whole := List.takeWhile_append_dropWhile (p := (· ≠ ':')) (l := cs)
      rwa [colon, List.append_nil] at whole
    have mem : c ∈ (cs ++ c :: t).takeWhile (· ≠ ':') := by
      rw [List.takeWhile_append, if_pos (congrArg List.length all)]
      rcases bar with rfl | rfl <;> simp
    rw [none, posixFrom, posixRanges?_of_mem mem bar]
    split <;> rfl
  · have kept : (cs ++ c :: t).takeWhile (· ≠ ':') = cs.takeWhile (· ≠ ':') := by
      rw [List.takeWhile_append, if_neg]
      intro long
      have whole := congrArg List.length
        (List.takeWhile_append_dropWhile (p := (· ≠ ':')) (l := cs))
      have some := List.length_pos_iff.mpr colon
      simp only [List.length_append] at whole
      omega
    simp only [posixFrom, kept, dropWhile_append_of_ne colon]
    cases h : cs.dropWhile (· ≠ ':') with
    | nil => exact absurd h colon
    | cons d ds =>
      rcases ds with _ | ⟨e, ds⟩
      · rcases bar with rfl | rfl <;> simp
      · by_cases ends : d = ':' ∧ e = ']'
        · obtain ⟨rfl, rfl⟩ := ends
          simp [Option.map_map, Function.comp_def]
        · simp only [List.cons_append]
          split
          · rename_i same
            cases same
            exact absurd ⟨rfl, rfl⟩ ends
          · split
            · rename_i same
              cases same
              exact absurd ⟨rfl, rfl⟩ ends
            · rfl

theorem readPosix?_append (cs : List Char) {tail : List Char} (barred : Barred tail) :
    readPosix? (cs ++ tail) = (readPosix? cs).map fun y => (y.1, y.2 ++ tail) := by
  have negated : ∀ r, readPosix? (':' :: '^' :: r) = posixFrom true r := fun _ => rfl
  have plain : ∀ r : List Char, r.head? ≠ some '^' → readPosix? (':' :: r) = posixFrom false r := by
    intro r front
    cases r with
    | nil => rfl
    | cons c r =>
      have front : c ≠ '^' := by simpa using front
      simp only [readPosix?, List.cons.injEq, front, false_and, imp_false, not_false_eq_true,
        implies_true]
      rfl
  rcases cs with _ | ⟨c, r⟩
  · obtain ⟨c, t, rfl, rfl | rfl⟩ := barred.eq_cons <;> rfl
  · by_cases colon : c = ':'
    · subst colon
      by_cases hat : r.head? = some '^'
      · obtain ⟨r, rfl⟩ : ∃ r', r = '^' :: r' := by
          cases r with
          | nil => cases hat
          | cons d r =>
            cases hat
            exact ⟨r, rfl⟩
        exact posixFrom_append true r barred
      · rw [List.cons_append, plain r hat, plain]
        · exact posixFrom_append false r barred
        · cases r with
          | nil => obtain ⟨c, t, rfl, rfl | rfl⟩ := barred.eq_cons <;> simp
          | cons d r => simpa using hat
    · have none : ∀ r, readPosix? (c :: r) = none := by
        intro r
        unfold readPosix?
        split
        · rename_i same
          cases same
          exact absurd rfl colon
        · rfl
      rw [List.cons_append, none, none]
      rfl

theorem dropWhile_space_append (cs : List Char) {tail : List Char} (barred : Barred tail) :
    (cs ++ tail).dropWhile Unicode.isSpace = cs.dropWhile Unicode.isSpace ++ tail := by
  obtain ⟨c, t, rfl, bar⟩ := barred.eq_cons
  simp only [List.dropWhile_append, List.isEmpty_iff]
  split
  · rename_i none
    simp [none, isSpace_barred bar]
  · rfl

theorem peekPast_solid {c d : Char} {r ds : List Char}
    (front : r.dropWhile Unicode.isSpace = d :: ds) (mark : d ≠ '#') :
    peekPast true (c :: r) = some d := by
  simp only [peekPast, List.drop_one, List.tail_cons, if_true, front]
  split
  · rename_i same
    exact absurd (List.cons.inj same).1 mark
  · rfl

theorem peekPast_append (v : Bool) (c : Char) (r : List Char) {tail : List Char}
    (barred : Barred tail) : peekPast v (c :: r ++ tail) = (peekPast v (c :: r)).or tail.head? := by
  cases v with
  | false => cases r <;> simp [peekPast]
  | true =>
    have whole := dropWhile_space_append r barred
    cases h : r.dropWhile Unicode.isSpace with
    | nil =>
      simp only [peekPast, List.cons_append, List.drop_one, List.tail_cons, if_true, whole, h]
      obtain ⟨c, t, rfl, rfl | rfl⟩ := barred.eq_cons <;> rfl
    | cons d ds =>
      rw [h] at whole
      by_cases mark : d = '#'
      · subst mark
        simp only [peekPast, List.cons_append, List.drop_one, List.tail_cons, if_true, whole, h,
          dropWhile_space_append ds barred, List.head?_append]
      · rw [List.cons_append, peekPast_solid whole mark, peekPast_solid h mark, Option.some_or]

theorem readMember_plain {c : Char} (escape : c ≠ '\\') (v : Bool) (r : List Char) :
    readMember v (c :: r) = .ok (.literal c false, r) := by
  rw [readMember]
  simpa using escape

theorem framed_readMember (v : Bool) : Framed (readMember v) := by
  intro cs x rest read
  cases cs with
  | nil => cases read
  | cons c r =>
    by_cases escape : c = '\\'
    · subst escape
      exact framed_readEscape v r x rest read
    · simp only [List.cons_append, readMember_plain escape] at read ⊢
      exact framed_ok _ r x rest read

theorem readClassItem_single {v : Bool} {cs r rest : List Char} {c : Char} {first : Primitive}
    (member : readMember v cs = .ok (first, r)) (front : skip v r = c :: rest) (single : c ≠ '-') :
    readClassItem v cs = first.toClassItem.map fun item => (item, c :: rest) := by
  simp only [readClassItem, member, bind, Except.bind, front]
  split
  · rename_i same
    cases same
  · rename_i same
    cases same
    contradiction
  · cases first.toClassItem <;> rfl

def rangeItem : Primitive → Primitive → Except CompileError ClassSyntax
  | .literal lo _, .literal hi _ => if lo ≤ hi then .ok (.range lo hi) else .error .malformed
  | _, _ => .error .malformed

theorem readClassItem_hyphen {v : Bool} {cs r after : List Char} {first : Primitive}
    (member : readMember v cs = .ok (first, r)) (front : skip v r = '-' :: after) :
    readClassItem v cs =
      if peekPast v ('-' :: after) = some ']' ∨ peekPast v ('-' :: after) = some '-' then
        first.toClassItem.map fun item => (item, '-' :: after)
      else (readMember v (skip v after)).bind fun y =>
        (rangeItem first y.1).map fun item => (item, y.2) := by
  simp only [readClassItem, member, bind, Except.bind, front]
  split
  · cases first.toClassItem <;> rfl
  · cases readMember v (skip v after) with
    | error e => rfl
    | ok y =>
      obtain ⟨last, r'⟩ := y
      cases first <;> cases last <;> try rfl
      simp only [rangeItem]
      split <;> rfl

theorem readClassItem_append_of_ne {v : Bool} {cs rest : List Char} {item : ClassSyntax}
    (read : readClassItem v cs = .ok (item, rest)) (more : rest ≠ []) {tail : List Char}
    (barred : Barred tail) : readClassItem v (cs ++ tail) = .ok (item, rest ++ tail) := by
  obtain ⟨⟨first, r⟩, member, -⟩ := bind_eq_ok.mp read
  cases front : skip v r with
  | nil => simp [readClassItem, member, bind, Except.bind, front] at read
  | cons c after =>
    have filled : r ≠ [] := by
      rintro rfl
      rw [skip_nil] at front
      cases front
    have member' := (framed_readMember v).of_ne member filled barred
    have front' := skip_append_of_cons front tail
    by_cases hyphen : c = '-'
    · subst hyphen
      rw [readClassItem_hyphen member front] at read
      rw [readClassItem_hyphen member' front', ← List.cons_append,
        peekPast_append v '-' after barred]
      have kept : ((peekPast v ('-' :: after)).or tail.head? = some ']' ∨
          (peekPast v ('-' :: after)).or tail.head? = some '-') ↔
          (peekPast v ('-' :: after) = some ']' ∨ peekPast v ('-' :: after) = some '-') := by
        obtain ⟨d, t, rfl, bar⟩ := barred.eq_cons
        cases peekPast v ('-' :: after) with
        | none => rcases bar with rfl | rfl <;> simp
        | some => simp
      simp only [kept]
      split at read
      · rename_i single
        obtain ⟨item, made, same⟩ := map_eq_ok.mp read
        cases same
        rw [if_pos single, made]
        rfl
      · rename_i several
        obtain ⟨⟨last, r'⟩, member₂, second⟩ := bind_eq_ok.mp read
        obtain ⟨item, made, same⟩ := map_eq_ok.mp second
        cases same
        have some : skip v after ≠ [] := by
          intro none
          rw [none] at member₂
          cases member₂
        rw [if_neg several, skip_append_of_ne some,
          (framed_readMember v).of_ne member₂ more barred]
        simp [Except.bind, Except.map, made]
    · rw [readClassItem_single member front hyphen] at read
      rw [readClassItem_single member' front' hyphen]
      obtain ⟨item, made, same⟩ := map_eq_ok.mp read
      cases same
      rw [made]
      rfl

theorem readHyphens_cons {c : Char} (other : c ≠ '-') (v : Bool) (fuel : Nat)
    (acc : List ClassSyntax) (r : List Char) :
    readHyphens v (fuel + 1) acc (c :: r) = .ok (acc, c :: r) := by
  rw [readHyphens]
  · simpa using other
  · simp

theorem readHyphens_ne_nil {v : Bool} {fuel : Nat} {acc items : List ClassSyntax}
    {cs rest : List Char} (read : readHyphens v fuel acc cs = .ok (items, rest)) : rest ≠ [] := by
  induction fuel generalizing acc cs with
  | zero => cases read
  | succ fuel ih =>
    cases cs with
    | nil => cases read
    | cons c r =>
      by_cases hyphen : c = '-'
      · subst hyphen
        exact ih read
      · rw [readHyphens_cons hyphen] at read
        cases read
        simp

theorem steady_readHyphens (v : Bool) (acc : List ClassSyntax) :
    SteadyOn fun fuel cs => readHyphens v fuel acc cs := by
  intro fuel cs x rest read tail fuel' enough barred
  induction fuel generalizing acc cs fuel' with
  | zero => cases read
  | succ fuel ih =>
    obtain _ | fuel' := fuel'
    · cases enough
    · cases cs with
      | nil => cases read
      | cons c r =>
        by_cases hyphen : c = '-'
        · subst hyphen
          simp only [List.cons_append, readHyphens] at read ⊢
          have left : skip v r ≠ [] := by
            intro none
            rw [none] at read
            cases fuel <;> cases read
          rw [skip_append_of_ne left]
          exact ih _ (skip v r) read fuel' (by omega)
        · simp only [List.cons_append, readHyphens_cons hyphen] at read ⊢
          cases read
          rfl

def openRest (v negated : Bool) (items : List ClassSyntax) (rest : List Char) :
    Reading OpenClass :=
  match items, rest with
  | [], ']' :: rest => match skip v rest with
    | [] => .error .malformed
    | rest => .ok (⟨negated, none, [.char ']' false]⟩, rest)
  | items, rest => .ok (⟨negated, none, items⟩, rest)

theorem openRest_append {v negated : Bool} {items : List ClassSyntax} {c : Char}
    {r rest : List Char} {o : OpenClass}
    (read : openRest v negated items (c :: r) = .ok (o, rest)) (tail : List Char) :
    openRest v negated items (c :: r ++ tail) = .ok (o, rest ++ tail) := by
  by_cases quoted : items = [] ∧ c = ']'
  · obtain ⟨rfl, rfl⟩ := quoted
    cases front : skip v r with
    | nil =>
      simp only [openRest, front] at read
      cases read
    | cons d r' =>
      simp only [openRest, front] at read
      cases read
      simp only [List.cons_append, openRest, skip_append_of_cons front]
  · have other : ∀ r, openRest v negated items (c :: r) =
        .ok (⟨negated, none, items⟩, c :: r) := by
      intro r
      unfold openRest
      split
      · rename_i same
        cases same
        exact absurd ⟨rfl, rfl⟩ quoted
      · rfl
    rw [other] at read
    cases read
    exact other (r ++ tail)

def openFrom (v negated : Bool) (start : List Char) : Reading OpenClass :=
  (readHyphens v (start.length + 1) [] start).bind fun y => openRest v negated y.1 y.2

theorem openFrom_ne_nil {v negated : Bool} {start rest : List Char} {o : OpenClass}
    (read : openFrom v negated start = .ok (o, rest)) : start ≠ [] := by
  rintro rfl
  cases read

theorem steady_openFrom (v negated : Bool) : Steady (openFrom v negated) := by
  intro start x rest read tail barred
  obtain ⟨⟨items, r⟩, hyphens, second⟩ := bind_eq_ok.mp read
  have more := steady_readHyphens v [] _ _ _ _ hyphens tail ((start ++ tail).length + 1)
    (by simp only [List.length_append]; omega) barred
  simp only at more
  cases r with
  | nil => exact absurd rfl (readHyphens_ne_nil hyphens)
  | cons c r =>
    simp only [openFrom, more, Except.bind]
    exact openRest_append second tail

theorem readClassOpen_negated {v : Bool} {cs r : List Char} (front : skip v cs = '^' :: r) :
    readClassOpen v cs = openFrom v true (skip v r) := by
  simp only [readClassOpen, front]
  rfl

theorem readClassOpen_plain {v : Bool} {cs r : List Char} {c : Char} (front : skip v cs = c :: r)
    (plain : c ≠ '^') : readClassOpen v cs = openFrom v false (c :: r) := by
  simp only [readClassOpen, front]
  split
  · rename_i same
    cases same
    contradiction
  · rfl

theorem steady_readClassOpen (v : Bool) : Steady (readClassOpen v) := by
  intro cs x rest read tail barred
  cases front : skip v cs with
  | nil =>
    simp only [readClassOpen, front] at read
    cases read
  | cons c r =>
    have front' := skip_append_of_cons front tail
    by_cases hat : c = '^'
    · subst hat
      rw [readClassOpen_negated front] at read
      rw [readClassOpen_negated front', skip_append_of_ne (openFrom_ne_nil read)]
      exact steady_openFrom v true _ _ _ read tail barred
    · rw [readClassOpen_plain front hat] at read
      rw [readClassOpen_plain front' hat]
      exact steady_openFrom v false _ _ _ read tail barred

structure AtMember (c : Char) (r : List Char) : Prop where
  open' : c ≠ '['
  close : c ≠ ']'
  single : c ∈ ['&', '-', '~'] → r.head? ≠ some c

theorem AtMember.append {c : Char} {r : List Char} (h : AtMember c r) {tail : List Char}
    (barred : Barred tail) : AtMember c (r ++ tail) := by
  refine ⟨h.open', h.close, fun double => ?_⟩
  cases r with
  | nil =>
    obtain ⟨d, t, rfl, bar⟩ := barred.eq_cons
    simp only [List.nil_append, List.head?_cons, ne_eq, Option.some.injEq]
    rintro rfl
    rcases bar with rfl | rfl <;> revert double <;> decide
  | cons d r => simpa using h.single double

theorem readClassBody_member' {v : Bool} {cs r : List Char} {c : Char}
    (front : skip v cs = c :: r) (member : AtMember c r) (fuel : Nat) (o : OpenClass)
    (outer : List OpenClass) : readClassBody v (fuel + 1) o outer cs =
      (readClassItem v (c :: r)).bind fun y => readClassBody v fuel (o.push y.1) outer y.2 := by
  obtain ⟨open', close, single⟩ := member
  rw [readClassBody.eq_def]
  simp only [front]
  split
  all_goals rename_i same
  · cases same
  · cases same
    contradiction
  · cases same
    contradiction
  · cases same
    exact absurd rfl (single (by decide))
  · cases same
    exact absurd rfl (single (by decide))
  · cases same
    exact absurd rfl (single (by decide))
  · rfl

theorem steady_readClassBody (v : Bool) (o : OpenClass) (outer : List OpenClass) :
    SteadyOn fun fuel cs => readClassBody v fuel o outer cs := by
  intro fuel cs x rest read tail fuel' enough barred
  induction fuel generalizing o outer cs fuel' with
  | zero => cases read
  | succ fuel ih =>
    obtain _ | fuel' := fuel'
    · cases enough
    · have next := fun o outer cs read => ih o outer cs read fuel' (by omega)
      simp only at read next ⊢
      cases front : skip v cs with
      | nil =>
        simp only [readClassBody, front] at read
        cases read
      | cons c r =>
        have front' := skip_append_of_cons front tail
        by_cases opens : c = '['
        · subst opens
          simp only [readClassBody, front, front', readPosix?_append r barred] at read ⊢
          cases posix : readPosix? r with
          | some y =>
            simp only [posix, Option.map_some] at read ⊢
            exact next _ _ _ read
          | none =>
            simp only [posix, Option.map_none] at read ⊢
            obtain ⟨⟨inner, r'⟩, first, second⟩ := bind_eq_ok.mp read
            simp only [steady_readClassOpen v _ _ _ first tail barred, bind, Except.bind]
            exact next _ _ _ second
        by_cases closes : c = ']'
        · subst closes
          simp only [readClassBody, front, front'] at read ⊢
          cases outer with
          | nil =>
            cases read
            rfl
          | cons o' outer => exact next _ _ _ read
        by_cases double : c ∈ ['&', '-', '~'] ∧ r.head? = some c
        · obtain ⟨operator, same⟩ := double
          obtain ⟨r', rfl⟩ : ∃ r', r = c :: r' := by
            cases r with
            | nil => cases same
            | cons d r' =>
              cases same
              exact ⟨r', rfl⟩
          simp only [List.mem_cons, List.not_mem_nil, or_false] at operator
          rcases operator with rfl | rfl | rfl
          all_goals
            simp only [readClassBody, front, front', List.cons_append] at read ⊢
            exact next _ _ _ read
        have member : AtMember c r := ⟨opens, closes, fun h same => double ⟨h, same⟩⟩
        rw [readClassBody_member' front member] at read
        obtain ⟨⟨item, r'⟩, first, second⟩ := bind_eq_ok.mp read
        -- A member at the very end would leave the class open.
        have filled : r' ≠ [] := by
          rintro rfl
          cases fuel with
          | zero => cases second
          | succ => simp [readClassBody, skip_nil] at second
        have more := readClassItem_append_of_ne first filled barred
        rw [readClassBody_member' front' (member.append barred), ← List.cons_append, more]
        exact next _ _ _ second

theorem steady_readClass (v : Bool) : Steady (readClass v) := by
  intro cs x rest read tail barred
  obtain ⟨⟨o, r⟩, first, second⟩ := bind_eq_ok.mp read
  have more := steady_readClassBody v o [] _ _ _ _ second tail ((r ++ tail).length + 1)
    (by simp only [List.length_append]; omega) barred
  simp only [readClass, steady_readClassOpen v _ _ _ first tail barred, bind, Except.bind]
  exact more

/-! ### Tokens -/

theorem steady_readGreed (min : Nat) (max : Option Nat) :
    Steady fun cs => .ok (readGreed min max cs) := by
  intro cs x rest read tail barred
  obtain ⟨c, t, rfl, bar⟩ := barred.eq_cons
  cases cs with
  | nil =>
    cases read
    rcases bar with rfl | rfl <;> rfl
  | cons d r =>
    by_cases lazy : d = '?'
    · subst lazy
      cases read
      rfl
    · have greedy : ∀ r, readGreed min max (d :: r) = (.repeated min max true, d :: r) :=
        fun r => readGreed_greedy min max (by simpa using lazy)
      simp only [List.cons_append, greedy] at read ⊢
      cases read
      rfl

theorem framed_bounds (v : Bool) : Framed fun cs => (readBounds v cs).map fun y =>
    readGreed y.1.1 y.1.2 (skip v y.2) := by
  intro cs x rest read
  obtain ⟨⟨bounds, r⟩, first, greed⟩ := map_eq_ok.mp read
  have more := fun tail barred => steady_readBounds v _ _ _ first tail barred
  have step : ∀ tail, Barred tail → (readBounds v (cs ++ tail)).map (fun y =>
      readGreed y.1.1 y.1.2 (skip v y.2)) =
        .ok (readGreed bounds.1 bounds.2 (skip v (r ++ tail))) := by
    intro tail barred
    rw [more tail barred]
    rfl
  rcases skip_append v r with kept | ⟨none, lost⟩
  · left
    intro tail barred
    refine (step tail barred).trans ?_
    rw [kept tail (.inr barred)]
    exact steady_readGreed _ _ _ _ _ (congrArg Except.ok greed) tail barred
  · right
    rw [none] at greed
    cases greed
    refine ⟨rfl, (step _ (.close [])).trans ?_⟩
    rw [lost]
    rfl

def Tokenizes (f : List Char → Reading Token) : Prop :=
  ∀ cs token rest, f cs = .ok (token, rest) → token ≠ .done

theorem tokenizes_ok {token : Token} (more : token ≠ .done) :
    Tokenizes fun cs => .ok (token, cs) := by
  intro cs t rest read
  cases read
  exact more

theorem tokenizes_map {α : Type} {f : List Char → Reading α} {g : α × List Char → Token × List Char}
    (more : ∀ y, (g y).1 ≠ .done) : Tokenizes fun cs => (f cs).map g := by
  intro cs t rest read
  obtain ⟨y, -, same⟩ := map_eq_ok.mp read
  have token := more y
  rw [same] at token
  exact token

theorem readGreed_ne_done (min : Nat) (max : Option Nat) (cs : List Char) :
    (readGreed min max cs).1 ≠ .done := by
  unfold readGreed
  split <;> simp

theorem tokenizes_readGreed (min : Nat) (max : Option Nat) :
    Tokenizes fun cs => .ok (readGreed min max cs) := by
  intro cs t rest read
  have token := readGreed_ne_done min max cs
  rw [Except.ok.inj read] at token
  exact token

theorem tokenizes_readGroup (v : Bool) : Tokenizes (readGroup v) := by
  intro cs t rest read
  unfold readGroup at read
  split at read
  · cases read
  · cases read
  · cases read
  · cases read
  · obtain ⟨y, -, same⟩ := bind_eq_ok.mp read
    cases same
    simp
  · obtain ⟨y, -, same⟩ := bind_eq_ok.mp read
    cases same
    simp
  · obtain ⟨y, -, same⟩ := bind_eq_ok.mp read
    simp only at same
    split at same
    · cases same
      simp
    · split at same <;> cases same
      simp
  · cases read
    simp

/-- By its first character a token has a reader for what comes behind. -/
theorem nextToken_by_front (v : Bool) (c : Char) : ∃ f : List Char → Reading Token,
    Framed f ∧ Tokenizes f ∧ ∀ cs r, skip v cs = c :: r → nextToken v cs = f r := by
  by_cases named : c ∈ ['(', ')', '|', '[', '?', '*', '+', '{', '\\', '.', '^', '$']
  · simp only [List.mem_cons, List.not_mem_nil, or_false] at named
    rcases named with rfl | rfl | rfl | rfl | rfl | rfl | rfl | rfl | rfl | rfl | rfl | rfl
    · exact ⟨_, framed_readGroup v, tokenizes_readGroup v, fun cs r front => by
        rw [nextToken, front]; rfl⟩
    · exact ⟨_, framed_ok .closeGroup, tokenizes_ok (by simp), fun cs r front => by
        rw [nextToken, front]; rfl⟩
    · exact ⟨_, framed_ok .bar, tokenizes_ok (by simp), fun cs r front => by
        rw [nextToken, front]; rfl⟩
    · exact ⟨_, (steady_readClass v).framed.map fun s => Token.atom (.charClass s),
        tokenizes_map (by simp), fun cs r front => by rw [nextToken, front]; rfl⟩
    · exact ⟨_, (steady_readGreed 0 (some 1)).framed, tokenizes_readGreed _ _,
        fun cs r front => by rw [nextToken, front]; rfl⟩
    · exact ⟨_, (steady_readGreed 0 none).framed, tokenizes_readGreed _ _, fun cs r front => by
        rw [nextToken, front]; rfl⟩
    · exact ⟨_, (steady_readGreed 1 none).framed, tokenizes_readGreed _ _, fun cs r front => by
        rw [nextToken, front]; rfl⟩
    · exact ⟨_, framed_bounds v, tokenizes_map fun _ => readGreed_ne_done _ _ _,
        fun cs r front => by rw [nextToken, front]; rfl⟩
    · exact ⟨_, (framed_readEscape v).map fun p => Token.atom p.toSyntax,
        tokenizes_map (by simp), fun cs r front => by rw [nextToken, front]; rfl⟩
    · exact ⟨_, framed_ok (.atom .dot), tokenizes_ok (by simp), fun cs r front => by
        rw [nextToken, front]; rfl⟩
    · exact ⟨_, framed_ok (.atom (.assertion .startLine)), tokenizes_ok (by simp),
        fun cs r front => by rw [nextToken, front]; rfl⟩
    · exact ⟨_, framed_ok (.atom (.assertion .endLine)), tokenizes_ok (by simp),
        fun cs r front => by rw [nextToken, front]; rfl⟩
  · refine ⟨_, framed_ok (.atom (.literal c false)), tokenizes_ok (by simp),
      fun cs r front => ?_⟩
    simp only [nextToken, front]
    split <;> first | rfl | exact absurd (by decide) named

theorem skip_of_done {v : Bool} {cs rest : List Char}
    (read : nextToken v cs = .ok (.done, rest)) : skip v cs = [] := by
  cases front : skip v cs with
  | nil => rfl
  | cons c r =>
    obtain ⟨f, -, tokenizes, step⟩ := nextToken_by_front v c
    exact absurd rfl (tokenizes r .done rest (step cs r front ▸ read))

/-- A token is read alike whatever follows the end of its branch, unless the text ends in a
comment behind it. -/
theorem framed_nextToken {v : Bool} {cs rest : List Char} {token : Token}
    (read : nextToken v cs = .ok (token, rest)) (more : token ≠ .done) :
    (∀ tail, Barred tail → nextToken v (cs ++ tail) = .ok (token, rest ++ tail)) ∨
      (rest = [] ∧ nextToken v (cs ++ [')']) = .ok (token, [])) := by
  cases front : skip v cs with
  | nil =>
    simp only [nextToken, front] at read
    cases read
    exact absurd rfl more
  | cons c r =>
    obtain ⟨f, framed, -, step⟩ := nextToken_by_front v c
    have later := fun tail => step _ _ (skip_append_of_cons front tail)
    simp only [later]
    exact framed r token rest (step cs r front ▸ read)

end Ligature.Regex
