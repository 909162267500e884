import Ligature.Log
import Ligature.Unicode.Classes

/-!
# The choice of a debug level

The debug level is a number given on the command line or in the environment.
-/
namespace Ligature

/-- A number below 256 in decimal digits, with an optional plus sign. -/
def readByte? (cs : List Char) : Option Nat :=
  let digits := match cs with
    | '+' :: r => r
    | r => r
  if digits.isEmpty ∨ !digits.all Char.isDigit then none
  else
    let n := digits.foldl (fun n c => 10 * n + (c.toNat - '0'.toNat)) 0
    if n < 256 then some n else none

def trimSpace (cs : List Char) : List Char :=
  ((cs.dropWhile Unicode.isSpace).reverse.dropWhile Unicode.isSpace).reverse

/-- The level that a text stands for; a text that is no number turns the log off. -/
def DebugLevel.ofText (text : String) : DebugLevel :=
  match readByte? (trimSpace text.toList) with
  | some n => .ofNumber n
  | none => .off

def DebugLevel.choose (commandLine : Option Nat) (environment : Option String) : DebugLevel :=
  match commandLine, environment with
  | some n, _ => .ofNumber n
  | none, some text => .ofText text
  | none, none => .off

end Ligature
