import Mathlib.Data.List.SplitBy
import Ligature.Proofs.Agreement
import Ligature.Proofs.ClassIntervals
import Ligature.Regex.Alternation

/-!
# Common parts of branches

The engine lifts what all branches of an alternation begin with. Parts that it takes for the same
do match the same, however they are written. So the alternation still is the ordered choice of its
branches as long as what was lifted can match in at most one way at each place; if it can match in
several ways, which of them it prefers comes before which branch is tried first.
-/
namespace Ligature.Regex

/-! ### Classes in place of choices -/

theorem Ends.length_best_le (ends : Ends) (seen : Places) :
    (ends.best seen).length ≤ ends.length := by
  induction ends generalizing seen with
  | nil => exact Nat.le_refl _
  | cons e rest ih =>
    simp only [Ends.best]
    split
    · exact (ih _).trans (Nat.le_succ _)
    · exact Nat.succ_le_succ (ih _)

namespace Step.SameEnds

variable {a b d : Step}

theorem orElse_set (s t : CharSet) : SameEnds
    ((Pattern.set s).walk.orElse (Pattern.set t).walk) (Pattern.set (.union s t)).walk := by
  rintro ⟨before, _ | ⟨x, rest⟩⟩
  · rfl
  · have pass (c : Cursor) : Marks.bars .fresh c = false := rfl
    cases hs : s.mem x <;> cases ht : t.mem x <;>
      simp [Step.orElse, Pattern.walk, pass, CharSet.mem, hs, ht, Ends.best]

/-- What comes first may be lifted out of a choice if it leads to one place at most. -/
theorem orElse_andThen (single : ∀ c, (a .fresh c).length ≤ 1) :
    SameEnds ((a.andThen b).orElse (a.andThen d)) (a.andThen (b.orElse d)) := by
  intro c
  have pass (c : Cursor) : Marks.bars .fresh c = false := rfl
  match ends : a .fresh c with
  | [] => simp [Step.orElse, Step.andThen, pass, Marks.left, Marks.right, ends, Ends.best]
  | [(e, m)] =>
    have places (x : Ends) : Ends.MatchAt (fun _ _ _ => True) x x :=
      List.forall₂_same.mpr fun _ _ => ⟨rfl, trivial⟩
    have one (y : Step) : (a.andThen y) .fresh c =
        Ends.best ((y .fresh e).map fun f => (f.1, .node none m f.2)) .empty := by
      simp [Step.andThen, Marks.left, Marks.right, ends]
    have left : ((a.andThen b).orElse (a.andThen d)) .fresh c = Ends.best
        ((b .fresh e).map (fun f => (f.1, .node (some c.left) (.node none m f.2) .fresh)) ++
          (d .fresh e).map fun f => (f.1, .node (some c.left) .fresh (.node none m f.2)))
        .empty := by
      simp only [Step.orElse, pass, Bool.false_eq_true, if_false, Marks.left, Marks.right, one]
      rw [← Ends.best_map (.node (some c.left) · .fresh),
        ← Ends.best_map (.node (some c.left) .fresh ·), Step.best_append_best,
        Ends.best_best_append _ _ (by simp)]
      simp [Function.comp_def]
    have right : (a.andThen (b.orElse d)) .fresh c = Ends.best
        ((b .fresh e).map (fun f => (f.1, .node none m (.node (some e.left) f.2 .fresh))) ++
          (d .fresh e).map fun f => (f.1, .node none m (.node (some e.left) .fresh f.2)))
        .empty := by
      simp only [one, Step.orElse, pass, Bool.false_eq_true, if_false, Marks.left, Marks.right]
      have twice (x : Ends) : Ends.best (Ends.best x .empty) .empty = Ends.best x .empty := by
        simpa using Ends.best_best_append x [] (t := .empty) (s := .empty) (by simp)
      rw [← Ends.best_map (.node none m ·), twice]
      simp [Function.comp_def]
    rw [left, right]
    refine (Ends.MatchAt.best (R := fun _ _ _ => True) (List.rel_append ?_ ?_) _).places
    · exact Ends.MatchAt.map (S := fun _ _ _ => True)
        (f := fun l => .node (some c.left) (.node none m l) .fresh)
        (g := fun l => .node none m (.node (some e.left) l .fresh)) (places _)
    · exact Ends.MatchAt.map (S := fun _ _ _ => True)
        (f := fun l => .node (some c.left) .fresh (.node none m l))
        (g := fun l => .node none m (.node (some e.left) .fresh l)) (places _)
  | _ :: _ :: _ =>
    have few := single c
    simp [ends] at few

end Step.SameEnds

namespace Pattern

variable {looped : Bool} {p q : Pattern}

/-! ### Forms -/

theorem link_alike (p q : Pattern) : (link p q).Alike (.cat p q) := by
  induction p generalizing q with
  | cat a b ha hb =>
    have inner := (Alike.refl a).cat (hb q)
    exact ((ha (link b q)).trans inner).trans (cat_assoc a b q).symm
  | _ => exact .refl _

theorem asSet_eq (h : p.isChar = true ∨ p.isClass = true) : p = .set p.asSet := by
  cases p with
  | set s => rfl
  | _ => simp [isChar, isClass] at h

theorem agree_set_union (s t : CharSet) :
    Agree looped (.alt (.set s) (.set t)) (.set (.union s t)) :=
  .of_consumes rfl rfl (Step.SameEnds.orElse_set s t) fun _ => rfl

theorem agree_choice_sets (s : CharSet) (sets : List CharSet) :
    Agree looped (choice ((s :: sets).map .set)) (.set ((s :: sets).foldr .union .none)) := by
  induction sets generalizing s with
  | nil => exact (Alike.set fun c => by simp [CharSet.mem]).agree
  | cons t sets ih => exact ((Agree.refl _).alt (ih t)).trans (agree_set_union _ _)

theorem agree_gather (ps : List Pattern) : Agree looped (gather ps) (choice ps) := by
  match ps with
  | [] => exact .refl _
  | [p] => exact .refl p
  | p :: q :: ps =>
    simp only [gather]
    split
    · rename_i each
      have sets : ∀ r ∈ p :: q :: ps, .set r.asSet = r := fun r hr =>
        (asSet_eq ((Bool.or_eq_true_iff.mp each).imp (List.all_eq_true.mp · r hr)
          (List.all_eq_true.mp · r hr))).symm
      have same : Agree looped _ _ := agree_choice_sets p.asSet ((q :: ps).map asSet)
      rw [← List.map_cons, List.map_map, List.foldr_map] at same
      rw [List.map_congr_left (f := Pattern.set ∘ asSet) (g := id) sets, List.map_id] at same
      exact same.symm
    · exact .refl _

theorem alt_assoc (p q r : Pattern) : Agree looped (.alt (.alt p q) r) (.alt p (.alt q r)) :=
  .of_rounds (Bool.and_assoc ..) (Bool.and_assoc ..)
    (.orElse_assoc p.forward_walk q.forward_walk r.forward_walk)

theorem agree_choice_append {ps qs : List Pattern} (hp : ps ≠ []) (hq : qs ≠ []) :
    Agree looped (choice (ps ++ qs)) (.alt (choice ps) (choice qs)) := by
  match ps with
  | [] => exact absurd rfl hp
  | [p] =>
    cases qs with
    | nil => exact absurd rfl hq
    | cons => exact .refl _
  | p :: q :: ps =>
    have rest : Agree looped (choice (q :: ps ++ qs)) _ := agree_choice_append (by simp) hq
    exact ((Agree.refl p).alt rest).trans (alt_assoc p _ _).symm

theorem forms_ne_nil (p : Pattern) : p.forms ≠ [] := by
  induction p with
  | alt a b ha hb => simp [forms, ha]
  | _ => simp [forms]

/-- A pattern is as good as its form. -/
theorem agree_form (p : Pattern) : Agree looped p.form p := by
  refine (agree_gather p.forms).trans ?_
  induction p generalizing looped with
  | empty | set | look => exact .refl _
  | cat a b ha hb =>
    refine (link_alike _ _).agree.trans ?_
    exact ((agree_gather _).trans ha).cat ((agree_gather _).trans hb)
  | alt a b ha hb =>
    exact (agree_choice_append a.forms_ne_nil b.forms_ne_nil).trans (ha.alt hb)
  | rep min max greedy body ih => exact .rep greedy ((agree_gather _).trans ih)
  | capture body ih => exact ((agree_gather _).trans ih).capture

theorem agree_of_sameForm (same : p.sameForm q = true) : Agree looped p q := by
  induction p generalizing looped q with
  | empty =>
    cases q <;> first | exact .refl _ | cases same
  | set s =>
    cases q with
    | set t => exact (Alike.set (CharSet.mem_eq_of_same same)).agree
    | _ => cases same
  | look l =>
    cases q with
    | look k =>
      obtain rfl : l = k := eq_of_beq same
      exact .refl _
    | _ => cases same
  | cat a b ha hb =>
    cases q with
    | cat c d =>
      obtain ⟨first, second⟩ := Bool.and_eq_true_iff.mp same
      exact (ha first).cat (hb second)
    | _ => cases same
  | alt a b ha hb =>
    cases q with
    | alt c d =>
      obtain ⟨first, second⟩ := Bool.and_eq_true_iff.mp same
      exact (ha first).alt (hb second)
    | _ => cases same
  | rep min max greedy body ih =>
    cases q with
    | rep min' max' greedy' body' =>
      simp only [sameForm, Bool.and_eq_true, beq_iff_eq] at same
      obtain ⟨⟨⟨rfl, rfl⟩, rfl⟩, bodies⟩ := same
      exact .rep greedy (ih bodies)
    | _ => cases same
  | capture body => cases q <;> cases same

theorem agree_of_same (same : p.same q = true) : Agree looped p q :=
  (agree_form p).symm.trans ((agree_of_sameForm same).trans (agree_form q))

/-! ### Parts -/

theorem agree_items (p : Pattern) : Agree looped (sequence p.items) p := by
  induction p with
  | cat a b ha hb =>
    exact (sequence_append _ _).agree.trans ((ha.append hb).trans (.append_cat a b))
  | _ => exact .refl _

theorem agree_parts (p : Pattern) : Agree looped (sequence p.parts) p := by
  have flat : Agree looped (sequence (p.items.splitBy _).flatten) (sequence p.parts) :=
    .sequence_flatten (List.forall₂_map_right_iff.mpr (List.forall₂_same.mpr fun _ _ => .refl _))
  rw [List.flatten_splitBy] at flat
  exact flat.symm.trans (agree_items p)

theorem sharedParts_spec (looped : Bool) (ps qs : List Pattern) : sharedParts ps qs <+: ps ∧
    List.Forall₂ (Agree looped) (sharedParts ps qs) (qs.take (sharedParts ps qs).length) := by
  induction ps generalizing qs with
  | nil => exact ⟨List.nil_prefix, by simp [sharedParts]⟩
  | cons p ps ih =>
    cases qs with
    | nil => exact ⟨List.nil_prefix, by simp [sharedParts]⟩
    | cons q qs =>
      simp only [sharedParts]
      split
      · rename_i same
        obtain ⟨front, each⟩ := ih qs
        exact ⟨(List.prefix_cons_inj p).mpr front, .cons (agree_of_same same) each⟩
      · exact ⟨List.nil_prefix, by simp⟩

theorem foldl_sharedParts_spec (looped : Bool) (bs front : List Pattern) :
    let all := bs.foldl (fun front c => sharedParts front c.parts) front
    all <+: front ∧
      ∀ b ∈ bs, List.Forall₂ (Agree looped) all (b.parts.take all.length) := by
  induction bs generalizing front with
  | nil => exact ⟨List.prefix_refl _, by simp⟩
  | cons c bs ih =>
    obtain ⟨shorter, each⟩ := ih (sharedParts front c.parts)
    obtain ⟨shorter', same⟩ := sharedParts_spec looped front c.parts
    refine ⟨shorter.trans shorter', List.forall_mem_cons.mpr ⟨?_, each⟩⟩
    have few := List.forall₂_take (List.foldl (fun front c => sharedParts front c.parts)
      (sharedParts front c.parts) bs).length same
    rw [← List.prefix_iff_eq_take.mp shorter, List.take_take,
      Nat.min_eq_left shorter.length_le] at few
    exact few

theorem agree_common {branches : List Pattern} {b : Pattern} (mem : b ∈ branches) :
    Agree looped b (append (sequence (commonParts branches))
      (dropParts (commonParts branches).length b)) := by
  have front : List.Forall₂ (Agree looped) (commonParts branches)
      (b.parts.take (commonParts branches).length) := by
    unfold commonParts
    split
    · rename_i c bs
      split
      · simp
      · obtain ⟨shorter, each⟩ := foldl_sharedParts_spec looped bs c.parts
        rcases List.mem_cons.mp mem with rfl | later
        · rw [← List.prefix_iff_eq_take.mp shorter]
          exact List.forall₂_same.mpr fun _ _ => .refl _
        · exact each b later
    · simp
  have parts : Agree looped b (sequence b.parts) := (agree_parts b).symm
  rw [← List.take_append_drop (commonParts branches).length b.parts] at parts
  refine parts.trans ((sequence_append _ _).agree.trans ?_)
  exact (Agree.sequence front).symm.append (.refl _)

/-! ### Lifting -/

def OneWay (p : Pattern) : Prop := ∀ c, (p.walk .fresh c).length ≤ 1

theorem oneWay_empty : OneWay .empty := fun _ => Nat.le_refl _

theorem OneWay.of_sameEnds (h : OneWay p) (same : p.SameEnds q) : OneWay q := by
  intro c
  have count := congrArg List.length (same c)
  simp only [List.length_map] at count
  exact count ▸ h c

theorem OneWay.cat (hp : OneWay p) (hq : OneWay q) : OneWay (.cat p q) := by
  intro c
  have few := hp c
  simp only [walk, Step.andThen, Marks.left, Marks.right]
  cases ends : p.walk .fresh c with
  | nil => simp [Ends.best]
  | cons e more =>
    obtain rfl : more = [] := by simpa [ends] using few
    refine (Ends.length_best_le _ _).trans ?_
    simpa using hq e.1

theorem OneWay.sequence {ps : List Pattern} (h : ∀ p ∈ ps, OneWay p) :
    OneWay (sequence ps) := by
  induction ps with
  | nil => exact oneWay_empty
  | cons p ps ih =>
    obtain ⟨first, rest⟩ := List.forall_mem_cons.mp h
    have split := (sequence_append [p] ps).sameEnds.symm
    rw [sequence_singleton] at split
    exact ((first.cat (ih rest)).of_sameEnds (SameEnds.append_cat _ _).symm).of_sameEnds split

/-- Of an alternation whose common parts match in one way the first branch that matches decides, as
if nothing had been lifted out. Within a loop whose rounds may match the empty text this is only
said of branches that consume text. -/
structure FairChoice (looped : Bool) (ps : List Pattern) : Prop where
  oneWay : OneWay (Pattern.sequence (lifted ps))
  moves : looped = true → lifted ps ≠ [] → (choice ps).consumes = true

theorem FairChoice.mono {looped' : Bool} {ps : List Pattern} (h : FairChoice looped ps)
    (le : looped' = true → looped = true) : FairChoice looped' ps :=
  ⟨h.oneWay, fun loops => h.moves (le loops)⟩

theorem choices_ne_nil (p : Pattern) : p.choices ≠ [] := by
  induction p with
  | alt a b ha hb => simp [choices, ha]
  | _ => simp [choices]

theorem agree_choices (p : Pattern) : Agree looped (choice p.choices) p := by
  induction p with
  | alt a b ha hb =>
    exact (agree_choice_append a.choices_ne_nil b.choices_ne_nil).trans (ha.alt hb)
  | _ => exact .refl _

theorem agree_flatMap_choices (ps : List Pattern) :
    Agree looped (choice (ps.flatMap choices)) (choice ps) := by
  match ps with
  | [] => exact .refl _
  | [p] =>
    rw [List.flatMap_singleton]
    exact agree_choices p
  | p :: q :: ps =>
    rw [List.flatMap_cons]
    have some : (q :: ps).flatMap choices ≠ [] := by simp [choices_ne_nil]
    exact (agree_choice_append p.choices_ne_nil some).trans
      ((agree_choices p).alt (agree_flatMap_choices (q :: ps)))

theorem agree_alt_cat {front : Pattern} (oneWay : OneWay front) (p q : Pattern)
    (moves : looped = true → (alt (.cat front p) (.cat front q)).consumes = true) :
    Agree looped (.alt (.cat front p) (.cat front q)) (.cat front (.alt p q)) := by
  refine .of_consumes ?_ ?_ (Step.SameEnds.orElse_andThen oneWay) moves
  · simp only [zeroWidth]
    cases front.zeroWidth <;> simp
  · simp [consumes, Bool.or_and_distrib_left]

/-- What all branches begin with may be lifted out if it matches in one way. -/
theorem agree_lift {front : Pattern} (oneWay : OneWay front) {bs : List Pattern} (some : bs ≠ [])
    {rest : Pattern → Pattern} (each : ∀ b ∈ bs, Agree looped b (append front (rest b)))
    (moves : looped = true → (choice bs).consumes = true) :
    Agree looped (choice bs) (append front (choice (bs.map rest))) := by
  induction bs with
  | nil => exact absurd rfl some
  | cons b bs ih =>
    obtain ⟨first, others⟩ := List.forall_mem_cons.mp each
    cases bs with
    | nil => exact first
    | cons c bs =>
      obtain ⟨hb, hbs⟩ : (looped = true → b.consumes = true) ∧
          (looped = true → (choice (c :: bs)).consumes = true) :=
        ⟨fun loops => (Bool.and_eq_true_iff.mp (moves loops)).1,
          fun loops => (Bool.and_eq_true_iff.mp (moves loops)).2⟩
      have second := (ih (by simp) others hbs).trans (.append_cat _ _)
      have both : Agree looped (.alt b (choice (c :: bs)))
          (.alt (.cat front (rest b)) (.cat front (choice ((c :: bs).map rest)))) :=
        (first.trans (.append_cat _ _)).alt second
      have lift := agree_alt_cat oneWay (rest b) (choice ((c :: bs).map rest)) fun loops =>
        both.consumes ▸ moves loops
      exact both.trans (lift.trans (Agree.append_cat _ _).symm)

/-- The engine's alternation is the ordered choice as long as what it lifts out matches in one
way. -/
theorem agree_alternation {ps : List Pattern} (fair : FairChoice looped ps) :
    Agree looped (alternation ps) (choice ps) := by
  unfold alternation
  dsimp only
  split
  · exact .refl _
  · rename_i filled
    have some : lifted ps ≠ [] := by simpa using filled
    have common : lifted ps = commonParts (ps.flatMap choices) := by
      unfold lifted at some ⊢
      split <;> simp_all
    have flat : Agree looped (choice (ps.flatMap choices)) (choice ps) := agree_flatMap_choices ps
    refine (agree_lift fair.oneWay ?_ (fun b hb => ?_) fun loops => ?_).symm.trans flat
    · intro none
      rw [common, none] at some
      exact some rfl
    · rw [common]
      exact agree_common hb
    · rw [flat.consumes]
      exact fair.moves loops some

/-! ### Texts beside other branches -/

theorem items_append (p q : Pattern) : (append p q).items = p.items ++ q.items := by
  by_cases hp : p = .empty
  · rw [hp, empty_append]
    rfl
  by_cases hq : q = .empty
  · rw [hq, append_empty]
    exact (List.append_nil _).symm
  rw [append_of_ne hp hq]
  rfl

theorem items_foldl_append (p : Pattern) (ps : List Pattern) :
    (ps.foldl append p).items = p.items ++ ps.flatMap items := by
  induction ps generalizing p with
  | nil => simp
  | cons q ps ih => rw [List.foldl_cons, ih, items_append, List.flatMap_cons, List.append_assoc]

theorem items_ofText (text : List Char) :
    (ofText text).items = text.map fun c => .set (.single c) := by
  rw [ofText, sequence, items_foldl_append, List.flatMap_map]
  exact (List.map_eq_flatMap ..).symm

theorem parts_ofText (text : List Char) : (ofText text).parts.length < 2 := by
  rw [parts, items_ofText, List.length_map]
  cases text with
  | nil => simp
  | cons c text =>
    rw [List.splitBy_of_isChain (by simp)]
    · simp
    · refine (List.pairwise_of_forall_mem_list fun p hp q hq => ?_).isChain
      have char {p : Pattern} (hp : p ∈ (c :: text).map fun c => Pattern.set (.single c)) :
          p.form.isChar = true := by
        obtain ⟨d, -, rfl⟩ := List.mem_map.mp hp
        simp [form, forms, gather, isChar, CharSet.isSingle, CharSet.intervals, CharSet.single]
      rw [char hp, char hq, Bool.and_self]

theorem choices_append {p q : Pattern} (hp : p.choices = [p]) (hq : q.choices = [q]) :
    (append p q).choices = [append p q] := by
  by_cases blank : p = .empty
  · rwa [blank, empty_append]
  by_cases blank' : q = .empty
  · rwa [blank', append_empty]
  rw [append_of_ne blank blank']
  rfl

theorem choices_ofText (text : List Char) : (ofText text).choices = [ofText text] := by
  refine List.foldlRecOn (motive := fun p : Pattern => p.choices = [p]) _ _ rfl ?_
  intro p hp q hq
  obtain ⟨c, -, rfl⟩ := List.mem_map.mp hq
  exact choices_append hp rfl

theorem choices_choice {ps : List Pattern} (some : ps ≠ []) :
    (choice ps).choices = ps.flatMap choices := by
  match ps with
  | [] => exact absurd rfl some
  | [p] => simp [choice]
  | p :: q :: ps =>
    have rest : (choice (q :: ps)).choices = (q :: ps).flatMap choices := choices_choice (by simp)
    rw [List.flatMap_cons, ← rest]
    rfl

theorem lifted_of_text {ps : List Pattern} {text : List Char}
    (mem : ofText text ∈ ps.flatMap choices) : lifted ps = [] := by
  unfold lifted
  split
  · rfl
  · rfl
  · unfold commonParts
    split
    · rename_i b bs branches
      rw [branches] at mem
      exact if_pos (List.any_eq_true.mpr ⟨_, mem, by simpa using parts_ofText text⟩)
    · rfl

theorem alternation_of_lifted_nil {ps : List Pattern} (none : lifted ps = []) :
    alternation ps = choice ps := by
  simp [alternation, none]

theorem alternation_texts (texts : List (List Char)) :
    alternation (texts.map ofText) = choice (texts.map ofText) := by
  cases texts with
  | nil => rfl
  | cons t texts =>
    have mem : ofText t ∈ ((t :: texts).map ofText).flatMap choices := by simp [choices_ofText]
    exact alternation_of_lifted_nil (lifted_of_text mem)

theorem alternation_before_texts (p : Pattern) {texts : List (List Char)} (some : texts ≠ []) :
    alternation [p, choice (texts.map ofText)] = .alt p (choice (texts.map ofText)) := by
  obtain ⟨t, texts, rfl⟩ := List.exists_cons_of_ne_nil some
  have mem : ofText t ∈ [p, choice ((t :: texts).map ofText)].flatMap choices := by
    simp [choices_choice, choices_ofText]
  exact alternation_of_lifted_nil (lifted_of_text mem)

end Pattern

end Ligature.Regex
