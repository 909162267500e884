import Ligature.Regex.Token

/-!
# Reading a regex

The tokens of a text, assembled into one tree. The reader holds the sequence it is in and, for
every group still open, the sequence around it. Tokens are read one at a time, since a flag group
decides how the text behind it is split.
-/
namespace Ligature.Regex

/-- A sequence being read: the branches before its last bar and the items behind it, both newest
first. -/
structure OpenSequence where
  branches : List Syntax
  items : List Syntax
  deriving Repr

namespace OpenSequence

def empty : OpenSequence := ⟨[], []⟩

def push (s : OpenSequence) (item : Syntax) : OpenSequence := { s with items := item :: s.items }

def bar (s : OpenSequence) : OpenSequence :=
  ⟨Syntax.ofItems s.items.reverse :: s.branches, []⟩

def close (s : OpenSequence) : Syntax := Syntax.ofBranches s.bar.branches.reverse

end OpenSequence

structure OpenGroup where
  kind : GroupKind
  around : OpenSequence
  /-- Whether blanks are skipped again when the group ends. -/
  verbose : Bool
  deriving Repr

structure Reader where
  current : OpenSequence
  groups : List OpenGroup
  verbose : Bool
  /-- The group names used so far; a name names one group. -/
  names : List String
  deriving Repr

namespace Reader

def start : Reader := ⟨.empty, [], false, []⟩

/-- Opens a group. Its own flags may change whether blanks are skipped inside. -/
def openGroup (r : Reader) (kind : GroupKind) : Reader :=
  let verbose := match kind with
    | .capture => r.verbose
    | .plain change => (change.value? .verbose).getD r.verbose
  { r with current := .empty, groups := ⟨kind, r.current, r.verbose⟩ :: r.groups, verbose }

/-- Puts a repetition over the last item. A flag setting cannot be repeated. -/
def repeatLast (r : Reader) (min : Nat) (max : Option Nat) (greedy : Bool) :
    Except CompileError Reader :=
  match r.current.items with
  | [] | .setFlags _ :: _ => .error .malformed
  | item :: items =>
    .ok { r with current.items := .repetition min max greedy item :: items }

def step (r : Reader) : Token → Except CompileError Reader
  | .atom s => .ok { r with current := r.current.push s }
  | .repeated min max greedy => r.repeatLast min max greedy
  | .bar => .ok { r with current := r.current.bar }
  | .openGroup kind none => .ok (r.openGroup kind)
  | .openGroup kind (some name) =>
    if name ∈ r.names then .error .malformed
    else .ok { r.openGroup kind with names := name :: r.names }
  | .closeGroup => match r.groups with
    | [] => .error .malformed
    | g :: groups => .ok { r with
        current := g.around.push (.group g.kind r.current.close), groups, verbose := g.verbose }
  | .setFlags change => .ok { r with
      current := r.current.push (.setFlags change)
      verbose := (change.value? .verbose).getD r.verbose }
  | .done => .ok r

def finish (r : Reader) : Except CompileError Syntax :=
  if r.groups.isEmpty then .ok r.current.close else .error .malformed

def run : Nat → Reader → List Char → Except CompileError Syntax
  | 0, _, _ => .error .malformed
  | fuel + 1, r, cs => match nextToken r.verbose cs with
    | .error e => .error e
    | .ok (.done, _) => r.finish
    | .ok (token, rest) => match r.step token with
      | .error e => .error e
      | .ok r => run fuel r rest

end Reader

def Syntax.read (cs : List Char) : Except CompileError Syntax :=
  match Reader.run (cs.length + 1) .start cs with
  | .ok s => if s.depth ≤ depthLimit then .ok s else .error .malformed
  | .error e => .error e

end Ligature.Regex
