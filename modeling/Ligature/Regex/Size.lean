import Ligature.Regex.Translate

/-!
# The size of a compiled pattern

A pattern is compiled to two automata over bytes, one that reads forward and one that reads
backward, and neither may be larger than a limit. Every state costs 32 bytes, every edge of a
branching state 4 and every edge of a state that reads a byte 8. A counted repetition holds as many
copies of its body as it has rounds.
-/
namespace Ligature.Regex

def sizeLimit : Nat := 10485760

def stateSize : Nat := 32

def branchSize (branches : Nat) : Nat := stateSize + 4 * branches

def readSize (ranges : Nat) : Nat := stateSize + 8 * ranges

/-! ### Characters as bytes -/

def utf8Bytes (n : Nat) : List Nat :=
  if n < 0x80 then [n]
  else if n < 0x800 then [0xC0 + n / 0x40, 0x80 + n % 0x40]
  else if n < 0x10000 then [0xE0 + n / 0x1000, 0x80 + n / 0x40 % 0x40, 0x80 + n % 0x40]
  else [0xF0 + n / 0x40000, 0x80 + n / 0x1000 % 0x40, 0x80 + n / 0x40 % 0x40, 0x80 + n % 0x40]

/-- The first place, if any, at which a range of code points must be cut so that both parts are
closer to a product of byte ranges: at the surrogates, where the number of bytes grows, and where
a trailing byte would not run through all of its values. -/
def cutRange? (lo hi : Nat) : Option ((Nat × Nat) × (Nat × Nat)) :=
  if lo < 0xE000 ∧ 0xD7FF < hi then some ((lo, 0xD7FF), (0xE000, hi))
  else match [0x7F, 0x7FF, 0xFFFF].find? fun m => lo ≤ m ∧ m < hi with
    | some m => some ((lo, m), (m + 1, hi))
    | none =>
      if hi < 0x80 then none
      else [0x40, 0x1000, 0x40000].findSome? fun block =>
        if lo / block = hi / block then none
        else if lo % block ≠ 0 then
          let m := lo / block * block + block - 1
          some ((lo, m), (m + 1, hi))
        else if hi % block ≠ block - 1 then
          let m := hi / block * block
          some ((lo, m - 1), (m, hi))
        else none

def byteSequences : Nat → Nat → Nat → List (List (Nat × Nat))
  | 0, _, _ => []
  | fuel + 1, lo, hi =>
    if hi < lo then []
    else match cutRange? lo hi with
      | some (a, b) => byteSequences fuel a.1 a.2 ++ byteSequences fuel b.1 b.2
      | none => [(utf8Bytes lo).zip (utf8Bytes hi)]

/-- Ranges of code points as sequences of byte ranges. A range needs fewer cuts in a row than the
fuel given. -/
def classSequences (ranges : List (Nat × Nat)) : List (List (Nat × Nat)) :=
  ranges.flatMap fun r => byteSequences 32 r.1 r.2

/-- The distinct states that read some sequences, in ascending order, to their ends. A state is
known by what it has still to read: subtrees that are equal are one state. -/
def forwardStates : Nat → List (List (Nat × Nat)) → List (List (List (Nat × Nat)))
  | 0, _ => []
  | fuel + 1, seqs =>
    let seqs := seqs.filter (!·.isEmpty)
    if seqs.isEmpty then []
    else
      let groups := seqs.splitBy fun a b => a.head? == b.head?
      (seqs :: groups.flatMap fun g => forwardStates fuel (g.map List.tail)).eraseDups

def forwardClassSize (ranges : List (Nat × Nat)) : Nat :=
  (forwardStates 5 (classSequences ranges)).foldl (fun size seqs =>
    size + readSize (seqs.map List.head?).eraseReps.length) stateSize

def sharedFront {α : Type} [DecidableEq α] : List α → List α → Nat
  | a :: as, b :: bs => if a = b then sharedFront as bs + 1 else 0
  | _, _ => 0

/-- The size of the backward automaton of a class beyond ASCII. Sequences are read from their
ends, and those that begin alike share the states of their beginnings. -/
def backwardClassSize (ranges : List (Nat × Nat)) : Nat :=
  let seqs := classSequences ranges
  let own := ([] :: seqs).zipWith (fun p s => s.length - sharedFront p s) seqs
  branchSize seqs.length + stateSize + stateSize * own.foldl (· + ·) 0

def classSize (forward : Bool) (s : CharSet) : Nat :=
  match s.intervals with
  | [] => stateSize
  | [(lo, hi)] =>
    if lo = hi then stateSize * (utf8Bytes lo).length else
      if hi < 0x80 then 2 * stateSize
      else if forward then forwardClassSize [(lo, hi)] else backwardClassSize [(lo, hi)]
  | ranges =>
    if ranges.all (·.2 < 0x80) then stateSize + readSize ranges.length
    else if forward then forwardClassSize ranges else backwardClassSize ranges

namespace Pattern

def branches : Pattern → Nat
  | .alt _ b => b.branches + 1
  | _ => 1

/-- The bytes of the states of a pattern; `inChoice` tells that its branches belong to the choice
around it. -/
def size (forward : Bool) (inChoice : Bool) : Pattern → Nat
  | .empty | .look _ => stateSize
  | .set s => classSize forward s
  | .cat a b => a.size forward false + b.size forward false
  | .alt a b =>
    a.size forward false + b.size forward true +
      if inChoice then 0 else branchSize (b.branches + 1) + stateSize
  | .capture body => body.size forward false + if forward then 2 * stateSize else 0
  | .rep min none _ body =>
    let one := body.size forward false
    if min = 0 then
      if body.consumes then branchSize 2 + one else 2 * branchSize 2 + stateSize + one
    else branchSize 2 + min * one
  | .rep min (some max) _ body =>
    let one := body.size forward false
    (if min = 0 then if max = 1 then 0 else stateSize else min * one) +
      if min = max then 0 else stateSize + (max - min) * (branchSize 2 + one)

def startsAnchored : Pattern → Bool
  | .look l => l == .lineStart .text
  | .cat a b => a.startsAnchored || (a.zeroWidth && b.startsAnchored)
  | .alt a b => a.startsAnchored && b.startsAnchored
  | .capture body => body.startsAnchored
  | .rep min _ _ body => min != 0 && body.startsAnchored
  | _ => false

def stopsAnchored : Pattern → Bool
  | .look l => l == .lineStop .text
  | .cat a b => b.stopsAnchored || (b.zeroWidth && a.stopsAnchored)
  | .alt a b => a.stopsAnchored && b.stopsAnchored
  | .capture body => body.stopsAnchored
  | .rep min _ _ body => min != 0 && body.stopsAnchored
  | _ => false

/-- The bytes of a whole automaton. One that is not anchored skips text first. -/
def programSize (forward : Bool) (p : Pattern) : Nat :=
  let anchored := if forward then p.startsAnchored else p.stopsAnchored
  (if anchored then stateSize else branchSize 2 + stateSize) +
    (Pattern.capture p).size forward false + stateSize

def fits (p : Pattern) : Bool :=
  p.programSize true ≤ sizeLimit && p.programSize false ≤ sizeLimit

def compile (cs : List Char) : Except CompileError Pattern :=
  match Pattern.read cs with
  | .error e => .error e
  | .ok p => if p.fits then .ok p else .error .tooLarge

end Pattern

end Ligature.Regex
