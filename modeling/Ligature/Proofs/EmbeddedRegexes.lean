import Ligature.Proofs.Alternatives

/-!
# Embedded regex texts

An expression may embed regex texts at any depth. Each of them is put into a group of its own, and
so it means in its place what it means alone, as long as it does not end in a comment that would
swallow the parenthesis and does not share a group name with another one. Another expression that
matches the same texts with the same preference may then take its place. The one thing to look out
for is a repetition without a bound around the place: its rounds depend on each other if they may
match the empty text.
-/
namespace Ligature.Rules

open Regex (Cursor Ends Flags Joinable Marks Pattern Reader Separable Step Syntax)

namespace PatternExpr

/-! ### Texts that keep to themselves -/

def groupNames (source : String) : List String := (Reader.endOf source.toList).names

/-- Regex texts that may be embedded together: each is a regex by itself, and also one between
parentheses, so that it does not end in a comment; and no two of them give a name to a group in
common. -/
structure Embeddable (texts : List String) : Prop where
  own : ∀ s ∈ texts, ∃ p, Pattern.parse s.toList = .ok p
  enclosed : ∀ s ∈ texts, ∃ p, Pattern.parse (Fragment.group s.toList) = .ok p
  apart : texts.Pairwise fun s t => ∀ name ∈ groupNames t, name ∉ groupNames s

instance (texts : List String) : Decidable (Embeddable texts) :=
  decidable_of_iff
    ((∀ s ∈ texts, (Pattern.parse s.toList).isOk = true) ∧
      (∀ s ∈ texts, (Pattern.parse (Fragment.group s.toList)).isOk = true) ∧
      texts.Pairwise fun s t => ∀ name ∈ groupNames t, name ∉ groupNames s)
    ⟨fun ⟨own, enclosed, apart⟩ => ⟨fun s hs => Regex.isOk_iff.mp (own s hs),
        fun s hs => Regex.isOk_iff.mp (enclosed s hs), apart⟩,
      fun ⟨own, enclosed, apart⟩ => ⟨fun s hs => Regex.isOk_iff.mpr (own s hs),
        fun s hs => Regex.isOk_iff.mpr (enclosed s hs), apart⟩⟩

theorem Embeddable.sublist {texts texts' : List String} (h : Embeddable texts)
    (part : texts'.Sublist texts) : Embeddable texts' where
  own s hs := h.own s (part.subset hs)
  enclosed s hs := h.enclosed s (part.subset hs)
  apart := h.apart.sublist part

section Loops

variable {own : String → Pattern} {P : Bool → List PatternExpr → Prop}

mutual

theorem forall_alternations (weaker : ∀ es, P true es → P false es) :
    (e : PatternExpr) → (looped : Bool) → (∀ x ∈ e.alternations own true, P x.1 x.2) →
    ∀ x ∈ e.alternations own looped, P x.1 x.2
  | .str _, _, _ | .chars _, _, _ | .regex _, _, _ => by simp [alternations]
  | .or es, looped, all => by
    obtain ⟨here, within⟩ := List.forall_mem_cons.mp all
    refine List.forall_mem_cons.mpr ⟨?_, forall_alternationsAll weaker es looped within⟩
    cases looped
    · exact weaker es here
    · exact here
  | .seq es, looped, all => forall_alternationsAll weaker es looped all
  | .optional e, looped, all => forall_alternations weaker e looped all
  | .zeroOrMore e, _, all | .oneOrMore e, _, all | .repeat e _ _, _, all =>
    forall_alternations weaker e _ (by simpa only [alternations, Bool.true_or] using all)

theorem forall_alternationsAll (weaker : ∀ es, P true es → P false es) :
    (es : List PatternExpr) → (looped : Bool) →
    (∀ x ∈ alternationsAll own true es, P x.1 x.2) →
    ∀ x ∈ alternationsAll own looped es, P x.1 x.2
  | [], _, _ => by simp [alternationsAll]
  | e :: es, looped, all => by
    obtain ⟨first, rest⟩ := List.forall_mem_append.mp all
    exact List.forall_mem_append.mpr
      ⟨forall_alternations weaker e looped first, forall_alternationsAll weaker es looped rest⟩

end

end Loops

theorem FairWithin.fair {e : PatternExpr} {looped : Bool} (h : e.FairWithin looped) : e.Fair := by
  cases looped with
  | false => exact h
  | true =>
    let P (looped : Bool) (es : List PatternExpr) : Prop :=
      Pattern.FairChoice looped (es.map (·.readWith .alternation))
    exact forall_alternations (P := P) (fun es fair => fair.mono nofun) e false h

/-! ### Places within an expression -/

inductive Frame where
  | alternative (before after : List PatternExpr)
  | item (before after : List PatternExpr)
  | optional
  | zeroOrMore
  | oneOrMore
  | repeat (min : UInt32) (max : Option UInt32)

namespace Frame

def plug : Frame → PatternExpr → PatternExpr
  | alternative before after, x => .or (before ++ x :: after)
  | item before after, x => .seq (before ++ x :: after)
  | optional, x => .optional x
  | zeroOrMore, x => .zeroOrMore x
  | oneOrMore, x => .oneOrMore x
  | .repeat min max, x => .repeat x min max

def bounds? : Frame → Option (Nat × Option Nat)
  | alternative _ _ | item _ _ => none
  | optional => some (0, some 1)
  | zeroOrMore => some (0, none)
  | oneOrMore => some (1, none)
  | .repeat min max => some (min.toNat, max.map UInt32.toNat)

def Steady (f : Frame) (x : PatternExpr) : Prop :=
  ∀ min, f.bounds? = some (min, none) → (x.meaning embedded).consumes = true

end Frame

def fill (frames : List Frame) (x : PatternExpr) : PatternExpr := frames.foldr Frame.plug x

def Steady : List Frame → PatternExpr → Prop
  | [], _ => True
  | f :: frames, x => f.Steady (fill frames x) ∧ Steady frames x

end PatternExpr

end Ligature.Rules
