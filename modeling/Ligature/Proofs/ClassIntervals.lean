import Mathlib.Data.List.Basic
import Ligature.Regex.CharSet

/-!
# The intervals of a class

Classes are compared by their intervals. These hold just the members of the class, so classes with
the same intervals have the same members. All intervals are ascending and disjoint: this is what
the complement of a class is taken from.
-/
namespace Ligature.Regex

namespace Intervals

def Covers (rs : List (Nat × Nat)) (n : Nat) : Prop := ∃ r ∈ rs, r.1 ≤ n ∧ n ≤ r.2

structure Ascending (rs : List (Nat × Nat)) : Prop where
  filled : ∀ r ∈ rs, r.1 ≤ r.2
  apart : rs.Pairwise fun x y => x.2 < y.1

structure Sorted (rs : List (Nat × Nat)) : Prop where
  filled : ∀ r ∈ rs, r.1 ≤ r.2
  ordered : rs.Pairwise fun x y => x.1 ≤ y.1

variable {rs a b : List (Nat × Nat)} {r : Nat × Nat} {n : Nat}

@[simp] theorem not_covers_nil : ¬ Covers [] n := by simp [Covers]

@[simp] theorem covers_cons : Covers (r :: rs) n ↔ (r.1 ≤ n ∧ n ≤ r.2) ∨ Covers rs n := by
  simp [Covers]

theorem covers_append : Covers (a ++ b) n ↔ Covers a n ∨ Covers b n := by
  simp [Covers, or_and_right, exists_or]

theorem Ascending.append (ha : Ascending a) (hb : Ascending b)
    (between : ∀ x ∈ a, ∀ y ∈ b, x.2 < y.1) : Ascending (a ++ b) where
  filled x mem := (List.mem_append.mp mem).elim (ha.filled x) (hb.filled x)
  apart := List.pairwise_append.mpr ⟨ha.apart, hb.apart, between⟩

theorem Ascending.sorted (h : Ascending rs) : Sorted rs where
  filled := h.filled
  ordered := by
    refine h.apart.imp_of_mem ?_
    intro x y hx _ before
    have := h.filled x hx
    omega

/-! ### Joining -/

theorem mem_insert {x : Nat × Nat} : x ∈ insert r rs ↔ x = r ∨ x ∈ rs := by
  induction rs with
  | nil => simp [insert]
  | cons y rest ih =>
    simp only [insert]
    split
    · simp
    · simp only [List.mem_cons, ih]
      tauto

theorem Sorted.insert (h : Sorted rs) (filled : r.1 ≤ r.2) : Sorted (Intervals.insert r rs) where
  filled x hx := by
    rcases mem_insert.mp hx with rfl | hx
    · exact filled
    · exact h.filled x hx
  ordered := by
    have ordered := h.ordered
    clear h filled
    induction rs with
    | nil => exact List.pairwise_singleton _ _
    | cons y rest ih =>
      obtain ⟨first, others⟩ := List.pairwise_cons.mp ordered
      simp only [Intervals.insert]
      split
      · rename_i le
        refine List.pairwise_cons.mpr ⟨fun x hx => ?_, ordered⟩
        rcases List.mem_cons.mp hx with rfl | hx
        · exact le
        · exact Nat.le_trans le (first x hx)
      · rename_i less
        refine List.pairwise_cons.mpr ⟨fun x hx => ?_, ih others⟩
        rcases mem_insert.mp hx with rfl | hx
        · omega
        · exact first x hx

theorem mem_foldr_insert {x : Nat × Nat} : x ∈ a.foldr insert b ↔ x ∈ a ∨ x ∈ b := by
  induction a with
  | nil => simp
  | cons y a ih =>
    rw [List.foldr_cons, mem_insert, ih, List.mem_cons, or_assoc]

theorem Sorted.foldr_insert (h : Sorted b) (filled : ∀ x ∈ a, x.1 ≤ x.2) :
    Sorted (a.foldr Intervals.insert b) := by
  induction a with
  | nil => exact h
  | cons y a ih =>
    obtain ⟨first, rest⟩ := List.forall_mem_cons.mp filled
    exact (ih rest).insert first

theorem joinOnto_spec (sorted : Sorted (r :: rs)) :
    Ascending (joinOnto r rs) ∧ (∀ x ∈ joinOnto r rs, r.1 ≤ x.1) ∧
      ∀ n, Covers (joinOnto r rs) n ↔ Covers (r :: rs) n := by
  induction rs generalizing r with
  | nil => exact ⟨⟨sorted.filled, List.pairwise_singleton _ _⟩, by simp [joinOnto], fun _ => .rfl⟩
  | cons x rest ih =>
    obtain ⟨first, ordered⟩ := List.pairwise_cons.mp sorted.ordered
    obtain ⟨here, filled⟩ := List.forall_mem_cons.mp sorted.filled
    obtain ⟨next, later⟩ := List.forall_mem_cons.mp filled
    have le : r.1 ≤ x.1 := first x List.mem_cons_self
    simp only [joinOnto]
    split
    · rename_i touches
      have joined : Sorted ((r.1, max r.2 x.2) :: rest) := by
        refine ⟨List.forall_mem_cons.mpr ⟨?_, later⟩, List.pairwise_cons.mpr
          ⟨fun y hy => first y (List.mem_cons_of_mem _ hy), (List.pairwise_cons.mp ordered).2⟩⟩
        dsimp only
        omega
      obtain ⟨ascending, least, covers⟩ := ih joined
      refine ⟨ascending, least, fun n => ?_⟩
      simp only [covers, covers_cons, ← or_assoc]
      refine or_congr_left ?_
      omega
    · rename_i gap
      obtain ⟨ascending, least, covers⟩ := ih ⟨filled, ordered⟩
      refine ⟨⟨List.forall_mem_cons.mpr ⟨here, ascending.filled⟩, List.pairwise_cons.mpr
        ⟨fun y hy => ?_, ascending.apart⟩⟩, ?_, fun n => ?_⟩
      · have := least y hy
        omega
      · refine List.forall_mem_cons.mpr ⟨Nat.le_refl _, fun y hy => ?_⟩
        exact Nat.le_trans le (least y hy)
      · rw [covers_cons, covers, covers_cons (r := r)]

theorem join_spec (sorted : Sorted rs) :
    Ascending (join rs) ∧ ∀ n, Covers (join rs) n ↔ Covers rs n := by
  cases rs with
  | nil => exact ⟨⟨by simp [join], .nil⟩, fun _ => .rfl⟩
  | cons r rest =>
    obtain ⟨ascending, -, covers⟩ := joinOnto_spec sorted
    exact ⟨ascending, covers⟩

theorem sorted_ofRanges (rs : List (Nat × Nat)) :
    Sorted ((rs.filter fun r => r.1 ≤ r.2).foldr insert []) :=
  .foldr_insert ⟨by simp, .nil⟩ (by simp)

theorem ascending_ofRanges (rs : List (Nat × Nat)) : Ascending (ofRanges rs) :=
  (join_spec (sorted_ofRanges rs)).1

theorem covers_ofRanges : Covers (ofRanges rs) n ↔ Covers rs n := by
  rw [ofRanges, (join_spec (sorted_ofRanges rs)).2]
  simp only [Covers, mem_foldr_insert, List.mem_filter, decide_eq_true_eq, List.not_mem_nil,
    or_false]
  constructor
  · rintro ⟨r, hr, within⟩
    exact ⟨r, hr.1, within⟩
  · rintro ⟨r, hr, within⟩
    exact ⟨r, ⟨hr, Nat.le_trans within.1 within.2⟩, within⟩

theorem union_spec (ha : Ascending a) (hb : Ascending b) :
    Ascending (union a b) ∧ ∀ n, Covers (union a b) n ↔ Covers a n ∨ Covers b n := by
  obtain ⟨ascending, covers⟩ := join_spec (hb.sorted.foldr_insert ha.filled)
  refine ⟨ascending, fun n => ?_⟩
  rw [union, covers]
  simp only [Covers, mem_foldr_insert, or_and_right, exists_or]

/-! ### Complements -/

def IsCode (n : Nat) : Prop := n < 0xD800 ∨ 0xDFFF < n ∧ n < 0x110000

theorem isCode_toNat (c : Char) : IsCode c.toNat := c.valid

theorem after_le_iff {m : Nat} (code : IsCode n) : after m ≤ n ↔ m < n := by
  unfold IsCode at code
  unfold after
  split <;> omega

theorem le_before_iff {m : Nat} (code : IsCode n) (some : 0 < m) : n ≤ before m ↔ n < m := by
  unfold IsCode at code
  unfold before
  split <;> omega

theorem lt_after (n : Nat) : n < after n := by
  unfold after
  split <;> omega

theorem after_mono {m : Nat} (le : m ≤ n) : after m ≤ after n := by
  unfold after
  split <;> split <;> omega

/-- The characters from one code point on, up to another one. -/
def gap (start stop : Nat) : List (Nat × Nat) :=
  if start < stop ∧ start ≤ before stop then [(start, before stop)] else []

theorem of_mem_gap {start stop : Nat} (mem : r ∈ gap start stop) :
    start = r.1 ∧ r.1 ≤ r.2 ∧ r.2 < stop := by
  unfold gap at mem
  split at mem
  · rename_i some
    rw [List.mem_singleton.mp mem]
    refine ⟨rfl, some.2, ?_⟩
    unfold before
    split <;> omega
  · cases mem

theorem covers_gap {start stop : Nat} (code : IsCode n) :
    Covers (gap start stop) n ↔ start ≤ n ∧ n < stop := by
  unfold gap
  split
  · rename_i some
    simp only [covers_cons, not_covers_nil, or_false, le_before_iff code (by omega : 0 < stop)]
  · rename_i none
    simp only [not_covers_nil, false_iff]
    rintro ⟨le, less⟩
    have := (le_before_iff code (by omega : 0 < stop)).mpr less
    omega

theorem ascending_gap (start stop : Nat) : Ascending (gap start stop) := by
  refine ⟨fun r mem => (of_mem_gap mem).2.1, ?_⟩
  unfold gap
  split
  · exact List.pairwise_singleton _ _
  · exact .nil

theorem complFrom_nil (start : Nat) : complFrom start [] = gap start 0x110000 := by
  have last : before 0x110000 = 0x10FFFF := rfl
  rw [complFrom, gap, last]
  refine if_congr ?_ rfl rfl
  omega

theorem complFrom_cons (start : Nat) (r : Nat × Nat) (rest : List (Nat × Nat)) :
    complFrom start (r :: rest) = gap start r.1 ++ complFrom (after r.2) rest := by
  simp only [complFrom, gap]
  split <;> rfl

theorem complFrom_spec {start : Nat} (ascending : Ascending rs)
    (front : ∀ r ∈ rs, start ≤ after r.2) :
    Ascending (complFrom start rs) ∧ (∀ x ∈ complFrom start rs, start ≤ x.1) ∧
      ∀ n, IsCode n → (Covers (complFrom start rs) n ↔ start ≤ n ∧ ¬ Covers rs n) := by
  induction rs generalizing start with
  | nil =>
    rw [complFrom_nil]
    refine ⟨ascending_gap _ _, fun x mem => Nat.le_of_eq (of_mem_gap mem).1, fun n code => ?_⟩
    have small : n < 0x110000 := by
      unfold IsCode at code
      omega
    simp [covers_gap code, small]
  | cons r rest ih =>
    obtain ⟨beyond, apart⟩ := List.pairwise_cons.mp ascending.apart
    obtain ⟨filled, later⟩ := List.forall_mem_cons.mp ascending.filled
    have here : start ≤ after r.2 := front _ List.mem_cons_self
    have next : ∀ x ∈ rest, after r.2 ≤ after x.2 := by
      intro x hx
      exact after_mono (Nat.le_trans (Nat.le_of_lt (beyond x hx)) (later x hx))
    obtain ⟨ascending', least, covers⟩ := ih ⟨later, apart⟩ next
    rw [complFrom_cons]
    refine ⟨(ascending_gap _ _).append ascending' ?_, ?_, fun n code => ?_⟩
    · intro x hx y hy
      have before := (of_mem_gap hx).2.2
      have behind := Nat.lt_of_lt_of_le (lt_after r.2) (least y hy)
      omega
    · intro x mem
      rcases List.mem_append.mp mem with early | late
      · exact Nat.le_of_eq (of_mem_gap early).1
      · exact Nat.le_trans here (least x late)
    · have passed : r.2 < n → start ≤ n :=
        fun less => Nat.le_trans here ((after_le_iff code).mpr less)
      have inRest : Covers rest n → r.2 < n := by
        rintro ⟨x, hx, le, -⟩
        exact Nat.lt_of_lt_of_le (beyond x hx) le
      rw [covers_append, covers_gap code, covers n code, after_le_iff code, covers_cons]
      by_cases covered : Covers rest n
      · have less := inRest covered
        simp only [covered, not_true, and_false, or_true, or_false, iff_false]
        omega
      · simp only [covered, not_false_eq_true, and_true, or_false]
        by_cases less : r.2 < n
        · simp only [less, or_true, true_iff]
          exact ⟨passed less, by omega⟩
        · omega

theorem compl_spec (ascending : Ascending rs) :
    Ascending (compl rs) ∧ ∀ n, IsCode n → (Covers (compl rs) n ↔ ¬ Covers rs n) := by
  have front : ∀ r ∈ rs, 0 ≤ after r.2 := fun _ _ => Nat.zero_le _
  obtain ⟨ascending', -, covers⟩ := complFrom_spec ascending front
  refine ⟨ascending', fun n code => ?_⟩
  rw [compl, covers n code]
  simp

theorem inter_spec (ha : Ascending a) (hb : Ascending b) :
    Ascending (inter a b) ∧ ∀ n, IsCode n → (Covers (inter a b) n ↔ Covers a n ∧ Covers b n) := by
  obtain ⟨ha', notA⟩ := compl_spec ha
  obtain ⟨hb', notB⟩ := compl_spec hb
  obtain ⟨either, joined⟩ := union_spec ha' hb'
  obtain ⟨ascending, covers⟩ := compl_spec either
  refine ⟨ascending, fun n code => ?_⟩
  rw [inter, covers n code, joined, notA n code, notB n code]
  tauto

end Intervals

open Intervals (Ascending Covers IsCode)

/-! ### Sets -/

theorem covers_toList (t : Unicode.RangeTable) (c : Char) :
    Covers t.toList c.toNat ↔ t.contains c = true := by
  rw [Unicode.RangeTable.contains, ← Array.any_toList, List.any_eq_true]
  simp [Covers, Unicode.RangeTable.toList]

theorem NamedSet.covers_tables (s : NamedSet) (c : Char) :
    (∃ table ∈ s.tables, Covers table c.toNat) ↔ s.mem c = true := by
  have code := Intervals.isCode_toNat c
  unfold IsCode at code
  cases s with
  | word =>
    simp [tables, mem, Unicode.wordTables, covers_toList, Unicode.isWord, Unicode.isDigit,
      Unicode.Property.contains, Unicode.Category.contains, or_assoc]
  | digit =>
    simp [tables, mem, covers_toList, Unicode.isDigit, Unicode.Category.contains]
  | space =>
    simp [tables, mem, covers_toList, Unicode.isSpace, Unicode.Property.contains]
  | any =>
    simp only [tables, mem, List.mem_singleton, exists_eq_left, Intervals.covers_cons,
      Intervals.not_covers_nil, or_false, iff_true]
    omega
  | ascii =>
    simp only [tables, mem, List.mem_singleton, exists_eq_left, Intervals.covers_cons,
      Intervals.not_covers_nil, or_false, decide_eq_true_eq]
    omega
  | assigned =>
    simp [tables, mem, covers_toList, Unicode.isAssigned, Unicode.Category.contains]
  | category ks =>
    simp [tables, mem, covers_toList, Unicode.Category.contains]
  | script key =>
    cases h : Unicode.Script.find? key <;> simp [tables, mem, covers_toList, h]
  | property p =>
    simp [tables, mem, covers_toList, Unicode.Property.contains]

theorem unionAll_spec (tables : List (List (Nat × Nat))) {rs : List (Nat × Nat)}
    (ascending : Ascending rs) :
    let all := tables.foldl (fun rs table => Intervals.union rs (Intervals.ofRanges table)) rs
    Ascending all ∧ ∀ n, Covers all n ↔ Covers rs n ∨ ∃ table ∈ tables, Covers table n := by
  induction tables generalizing rs with
  | nil => exact ⟨ascending, by simp⟩
  | cons table rest ih =>
    obtain ⟨joined, covers⟩ := Intervals.union_spec ascending (Intervals.ascending_ofRanges table)
    obtain ⟨ascending', covers'⟩ := ih joined
    refine ⟨ascending', fun n => ?_⟩
    rw [List.foldl_cons, covers', covers, Intervals.covers_ofRanges]
    simp [or_assoc]

namespace CharSet

/-- Characters outside of the `codes` have no variants, so it is enough to look at these. -/
theorem withVariants_spec {variants : Char → List Char} {codes : List Nat} {a : CharSet}
    (self : ∀ c, c ∈ variants c) (others : ∀ c, c.toNat ∉ codes → ∀ d ∈ variants c, d = c)
    (ascending : Ascending a.intervals)
    (covers : ∀ c : Char, Covers a.intervals c.toNat ↔ a.mem c = true) :
    let rs := withVariants variants a a.intervals codes
    Ascending rs ∧ ∀ c : Char, Covers rs c.toNat ↔ (variants c).any a.mem = true := by
  obtain ⟨joined, either⟩ := Intervals.union_spec ascending (Intervals.ascending_ofRanges
    ((codes.filter fun n => (variants (Char.ofNat n)).any a.mem).map fun n => (n, n)))
  refine ⟨joined, fun c => ?_⟩
  have point : Covers ((codes.filter fun n => (variants (Char.ofNat n)).any a.mem).map
      fun n => (n, n)) c.toNat ↔ c.toNat ∈ codes ∧ (variants c).any a.mem = true := by
    have here : ∀ n, n ≤ c.toNat ∧ c.toNat ≤ n ↔ n = c.toNat := by omega
    simp only [Covers, List.mem_map, List.mem_filter, ↓existsAndEq, and_true, here, exists_eq_right,
      Char.ofNat_toNat]
  rw [withVariants, either, Intervals.covers_ofRanges, point, covers]
  constructor
  · rintro (own | ⟨-, some⟩)
    · exact List.any_eq_true.mpr ⟨c, self c, own⟩
    · exact some
  · intro some
    by_cases listed : c.toNat ∈ codes
    · exact .inr ⟨listed, some⟩
    · obtain ⟨d, hd, own⟩ := List.any_eq_true.mp some
      exact .inl (others c listed d hd ▸ own)

theorem eq_of_mem_asciiVariants {c d : Char}
    (other : c.toNat ∉ List.range' 0x41 26 ++ List.range' 0x61 26) (hd : d ∈ asciiVariants c) :
    d = c := by
  simp only [List.mem_append, List.mem_range'_1, not_or, not_and, Nat.not_lt] at other
  have lower : c.toLower = c := by
    refine dif_neg fun within => ?_
    simp [UInt32.le_iff_toNat_le] at within
    omega
  have upper : c.toUpper = c := by
    refine dif_neg fun within => ?_
    simp [UInt32.le_iff_toNat_le] at within
    omega
  simpa [asciiVariants, lower, upper] using hd

theorem le_iff_toNat_le (c d : Char) : c ≤ d ↔ c.toNat ≤ d.toNat := UInt32.le_iff_toNat_le

theorem intervals_spec (s : CharSet) :
    Ascending s.intervals ∧ ∀ c : Char, Covers s.intervals c.toNat ↔ s.mem c = true := by
  have none : Ascending [] := ⟨by simp, .nil⟩
  induction s with
  | none => exact ⟨none, by simp [intervals, mem]⟩
  | range lo hi =>
    simp only [intervals, mem, le_iff_toNat_le]
    split
    · rename_i le
      exact ⟨⟨by simpa using le, List.pairwise_singleton _ _⟩, by simp⟩
    · refine ⟨none, fun c => ?_⟩
      simp only [Intervals.not_covers_nil, Bool.and_eq_true, decide_eq_true_eq, false_iff]
      omega
  | named s =>
    obtain ⟨ascending, covers⟩ := unionAll_spec s.tables none
    refine ⟨ascending, fun c => ?_⟩
    rw [intervals, covers, mem, ← s.covers_tables]
    simp
  | union a b ha hb =>
    obtain ⟨ascending, covers⟩ := Intervals.union_spec ha.1 hb.1
    refine ⟨ascending, fun c => ?_⟩
    simp only [intervals, mem, covers, ha.2, hb.2, Bool.or_eq_true]
  | inter a b ha hb =>
    obtain ⟨ascending, covers⟩ := Intervals.inter_spec ha.1 hb.1
    refine ⟨ascending, fun c => ?_⟩
    simp only [intervals, mem, covers _ (Intervals.isCode_toNat c), ha.2, hb.2, Bool.and_eq_true]
  | diff a b ha hb =>
    obtain ⟨notB, outside⟩ := Intervals.compl_spec hb.1
    obtain ⟨ascending, covers⟩ := Intervals.inter_spec ha.1 notB
    refine ⟨ascending, fun c => ?_⟩
    have code := Intervals.isCode_toNat c
    simp only [intervals, mem, covers _ code, outside _ code, ha.2, hb.2, Bool.and_eq_true,
      Bool.not_eq_true']
    simp
  | symm a b ha hb =>
    obtain ⟨notA, outA⟩ := Intervals.compl_spec ha.1
    obtain ⟨notB, outB⟩ := Intervals.compl_spec hb.1
    obtain ⟨first, covers₁⟩ := Intervals.inter_spec ha.1 notB
    obtain ⟨second, covers₂⟩ := Intervals.inter_spec hb.1 notA
    obtain ⟨ascending, covers⟩ := Intervals.union_spec first second
    refine ⟨ascending, fun c => ?_⟩
    have code := Intervals.isCode_toNat c
    simp only [intervals, mem, covers, covers₁ _ code, covers₂ _ code, outA _ code, outB _ code,
      ha.2, hb.2]
    cases a.mem c <;> cases b.mem c <;> simp
  | compl a ha =>
    obtain ⟨ascending, covers⟩ := Intervals.compl_spec ha.1
    refine ⟨ascending, fun c => ?_⟩
    simp only [intervals, mem, covers _ (Intervals.isCode_toNat c), ha.2]
    simp
  | fold a ha =>
    refine withVariants_spec Unicode.self_mem_caseVariants (fun c alone d hd => ?_) ha.1 ha.2
    simpa [Unicode.caseVariants_of_not_mem alone] using hd
  | foldAscii a ha =>
    exact withVariants_spec (fun c => List.mem_cons_self)
      (fun c other d => eq_of_mem_asciiVariants other)
      ha.1 ha.2
  | bytes a ha => exact ha

/-- Sets that are taken as the same class have the same members. -/
theorem mem_eq_of_same {s t : CharSet} (same : s.same t = true) (c : Char) : s.mem c = t.mem c := by
  have equal : s.intervals = t.intervals := by
    simpa using (Bool.and_eq_true_iff.mp same).1
  rw [Bool.eq_iff_iff, ← s.intervals_spec.2, ← t.intervals_spec.2, equal]

end CharSet

end Ligature.Regex
