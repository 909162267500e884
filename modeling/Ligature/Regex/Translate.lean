import Ligature.Regex.Alternation
import Ligature.Regex.Reader

/-!
# From the written form to patterns

`Syntax.resolveWith` carries the flags to the parts they govern, threading them from left to right;
a group gives back the flags it found. What is made of the branches of an alternation is a
parameter: `resolve` takes them as written, `translate` as the engine does.
-/
namespace Ligature.Regex

/-! ### Flags -/

structure Flags where
  caseInsensitive : Bool
  multiLine : Bool
  dotMatchesNewline : Bool
  swapGreed : Bool
  unicode : Bool
  crlf : Bool
  deriving DecidableEq, Repr

namespace Flags

def initial : Flags := ⟨false, false, false, false, true, false⟩

def set (f : Flags) : Flag → Bool → Flags
  | .caseInsensitive, v => { f with caseInsensitive := v }
  | .multiLine, v => { f with multiLine := v }
  | .dotMatchesNewline, v => { f with dotMatchesNewline := v }
  | .swapGreed, v => { f with swapGreed := v }
  | .unicode, v => { f with unicode := v }
  | .crlf, v => { f with crlf := v }
  | .verbose, _ => f

def apply (f : Flags) (change : FlagChange) : Flags := change.foldl (fun f x => f.set x.1 x.2) f

def lineMode (f : Flags) : LineMode :=
  if f.multiLine then if f.crlf then .crlf else .lineFeed else .text

def foldCase (f : Flags) (s : CharSet) : CharSet :=
  if f.caseInsensitive then if f.unicode then .fold s else .foldAscii s else s

/-- The set of a class with its negation. Outside of Unicode mode a complement would hold parts
of characters. -/
def closeSet (f : Flags) (negated : Bool) (s : CharSet) : Except CompileError CharSet :=
  if !negated then .ok (f.foldCase s)
  else if f.unicode then .ok (.compl (f.foldCase s))
  else .error .malformed

def admits (f : Flags) (c : Char) : Bool := f.unicode || c.toNat < 128

end Flags

/-! ### Classes -/

def rangesSet (ranges : List (Char × Char)) : CharSet :=
  ranges.foldr (fun r s => .union (.range r.1 r.2) s) .none

def PerlClass.set (unicode : Bool) : PerlClass → CharSet
  | .digit => if unicode then .named .digit else .range '0' '9'
  | .space =>
    if unicode then .named .space else .ofList ['\t', '\n', '\x0b', '\x0c', '\r', ' ']
  | .word =>
    if unicode then .named .word else rangesSet [('0', '9'), ('A', 'Z'), ('_', '_'), ('a', 'z')]

def SetOp.apply : SetOp → CharSet → CharSet → CharSet
  | .intersection, a, b => .inter a b
  | .difference, a, b => .diff a b
  | .symmetricDifference, a, b => .symm a b

mutual

def ClassSyntax.resolve (f : Flags) : ClassSyntax → Except CompileError CharSet
  | .empty => .ok .none
  | .char c _ => if f.admits c then .ok (.single c) else .error .malformed
  | .range lo hi =>
    if f.admits lo && f.admits hi then .ok (.range lo hi) else .error .malformed
  | .posix members negated => f.closeSet negated (rangesSet members)
  | .perl k negated =>
    if !negated then .ok (k.set f.unicode)
    else if f.unicode then .ok (.compl (k.set true))
    else .error .malformed
  | .property s negated =>
    if f.unicode then f.closeSet negated (.named s) else .error .malformed
  | .bracketed negated body => (body.resolve f).bind (f.closeSet negated)
  | .union items => ClassSyntax.resolveUnion f items
  | .op o l r =>
    (l.resolve f).bind fun a => (r.resolve f).map fun b => o.apply (f.foldCase a) (f.foldCase b)

def ClassSyntax.resolveUnion (f : Flags) : List ClassSyntax → Except CompileError CharSet
  | [] => .ok .none
  | s :: rest =>
    (s.resolve f).bind fun a => (ClassSyntax.resolveUnion f rest).map fun b => .union a b

end

/-! ### Resolving -/

def Assertion.look (f : Flags) : Assertion → Look
  | .startLine => .lineStart f.lineMode
  | .endLine => .lineStop f.lineMode
  | .startText => .lineStart .text
  | .endText => .lineStop .text
  | .wordBoundary => .word .boundary f.unicode
  | .notWordBoundary => .word .notBoundary f.unicode
  | .wordStart => .word .start f.unicode
  | .wordEnd => .word .stop f.unicode
  | .wordStartHalf => .word .startHalf f.unicode
  | .wordEndHalf => .word .stopHalf f.unicode

/-- The set of a single character. Outside of Unicode mode a byte beyond ASCII is no character,
and letters beyond ASCII have no case. -/
def literalSet (f : Flags) (c : Char) (isByte : Bool) : Except CompileError CharSet :=
  if f.unicode ∨ c.toNat < 128 then .ok (f.foldCase (.single c))
  else if isByte ∧ c.toNat < 256 ∨ f.caseInsensitive then .error .malformed
  else .ok (.single c)

/-- The set of a dot. Outside of Unicode mode it would hold parts of characters. -/
def dotSet (f : Flags) : Except CompileError CharSet :=
  if !f.unicode then .error .malformed
  else if f.dotMatchesNewline then .ok .full
  else if f.crlf then .ok (.compl (.ofList ['\n', '\r']))
  else .ok (.compl (.single '\n'))

mutual

def Syntax.resolveWith (join : List Pattern → Pattern) (f : Flags) :
    Syntax → Except CompileError (Pattern × Flags)
  | .empty => .ok (.empty, f)
  | .setFlags change => .ok (.empty, f.apply change)
  | .literal c isByte => (literalSet f c isByte).map fun s => (.set s, f)
  | .dot => (dotSet f).map fun s => (.set s, f)
  | .assertion a => .ok (.look (a.look f), f)
  | .charClass s => (s.resolve f).map fun s => (.set (if f.unicode then s else .bytes s), f)
  | .repetition min max greedy body =>
    (body.resolveWith join f).map fun (p, f) => (.repeated min max (greedy != f.swapGreed) p, f)
  | .group .capture body => (body.resolveWith join f).map fun (p, _) => (.capture p, f)
  | .group (.plain change) body => (body.resolveWith join (f.apply change)).map fun (p, _) => (p, f)
  | .alternation branches =>
    (Syntax.resolveListWith join f branches).map fun (ps, f) => (join ps, f)
  | .concat items => (Syntax.resolveListWith join f items).map fun (ps, f) => (.sequence ps, f)

def Syntax.resolveListWith (join : List Pattern → Pattern) (f : Flags) :
    List Syntax → Except CompileError (List Pattern × Flags)
  | [] => .ok ([], f)
  | s :: rest => (s.resolveWith join f).bind fun (p, f) =>
    (Syntax.resolveListWith join f rest).map fun (ps, f) => (p :: ps, f)

end

/-- The pattern of a tree as written, its branches apart. -/
abbrev Syntax.resolve (f : Flags) (s : Syntax) : Except CompileError (Pattern × Flags) :=
  s.resolveWith .choice f

/-- The pattern of a tree as the engine makes it, with common parts of branches lifted out. -/
abbrev Syntax.translate (f : Flags) (s : Syntax) : Except CompileError (Pattern × Flags) :=
  s.resolveWith .alternation f

def Pattern.read (cs : List Char) : Except CompileError Pattern :=
  (Syntax.read cs).bind fun s => (s.translate .initial).map (·.1)

end Ligature.Regex
