import Ligature.Regex.CharSet

/-!
# The written form of a regex

What a regex text says before the inline flags are carried to the parts they govern: literals,
classes, groups, repetitions, and the flag settings themselves as items of a sequence. Every fault
of a text is of one of two kinds: it is no regex, or its program would be too large.
-/
namespace Ligature.Regex

inductive CompileError where
  | malformed
  | tooLarge
  deriving DecidableEq, Repr

inductive Flag where
  | caseInsensitive
  | multiLine
  | dotMatchesNewline
  | swapGreed
  | unicode
  | crlf
  | verbose
  deriving DecidableEq, Repr

def Flag.ofChar? : Char → Option Flag
  | 'i' => some .caseInsensitive
  | 'm' => some .multiLine
  | 's' => some .dotMatchesNewline
  | 'U' => some .swapGreed
  | 'u' => some .unicode
  | 'R' => some .crlf
  | 'x' => some .verbose
  | _ => none

/-- Flags in the order written, each with the value it is set to. -/
abbrev FlagChange := List (Flag × Bool)

def FlagChange.value? (change : FlagChange) (f : Flag) : Option Bool :=
  (change.find? (·.1 = f)).map (·.2)

inductive PerlClass where
  | digit
  | space
  | word
  deriving DecidableEq, Repr

inductive SetOp where
  | intersection
  | difference
  | symmetricDifference
  deriving DecidableEq, Repr

inductive ClassSyntax where
  | empty
  /-- A character; `isByte` when it was written as two hexadecimal digits. -/
  | char (c : Char) (isByte : Bool)
  | range (lo hi : Char)
  /-- A class such as `[:alpha:]`, as the ranges of its members. -/
  | posix (members : List (Char × Char)) (negated : Bool)
  | perl (k : PerlClass) (negated : Bool)
  | property (s : NamedSet) (negated : Bool)
  | bracketed (negated : Bool) (body : ClassSyntax)
  | union (items : List ClassSyntax)
  | op (o : SetOp) (left right : ClassSyntax)
  deriving Repr

inductive Assertion where
  | startLine
  | endLine
  | startText
  | endText
  | wordBoundary
  | notWordBoundary
  | wordStart
  | wordEnd
  | wordStartHalf
  | wordEndHalf
  deriving DecidableEq, Repr

inductive GroupKind where
  | capture
  | plain (change : FlagChange)
  deriving DecidableEq, Repr

inductive Syntax where
  | empty
  | setFlags (change : FlagChange)
  /-- A character; `isByte` when it was written as two hexadecimal digits. -/
  | literal (c : Char) (isByte : Bool)
  | dot
  | assertion (a : Assertion)
  | charClass (s : ClassSyntax)
  | repetition (min : Nat) (max : Option Nat) (greedy : Bool) (body : Syntax)
  | group (kind : GroupKind) (body : Syntax)
  | alternation (branches : List Syntax)
  | concat (items : List Syntax)
  deriving Repr

/-! ### Depth -/

mutual

def ClassSyntax.depth : ClassSyntax → Nat
  | .bracketed _ body => body.depth + 1
  | .union items => ClassSyntax.depthList items + 1
  | .op _ l r => max l.depth r.depth + 1
  | _ => 0

def ClassSyntax.depthList : List ClassSyntax → Nat
  | [] => 0
  | s :: rest => max s.depth (ClassSyntax.depthList rest)

end

mutual

def Syntax.depth : Syntax → Nat
  | .charClass s => s.depth
  | .repetition _ _ _ body => body.depth + 1
  | .group _ body => body.depth + 1
  | .alternation branches => Syntax.depthList branches + 1
  | .concat items => Syntax.depthList items + 1
  | _ => 0

def Syntax.depthList : List Syntax → Nat
  | [] => 0
  | s :: rest => max s.depth (Syntax.depthList rest)

end

def depthLimit : Nat := 250

namespace Syntax

/-- The items of a sequence as one tree: a sequence of one item is that item. -/
def ofItems : List Syntax → Syntax
  | [] => .empty
  | [s] => s
  | items => .concat items

def ofBranches : List Syntax → Syntax
  | [] => .empty
  | [s] => s
  | branches => .alternation branches

end Syntax

def ClassSyntax.ofItems : List ClassSyntax → ClassSyntax
  | [] => .empty
  | [s] => s
  | items => .union items

end Ligature.Regex
