import Ligature.Yaml.Place
import Ligature.Yaml.Plain
import Ligature.Yaml.Scalar

/-!
# Printing YAML

A tree of texts, numbers, sequences and mappings as a block of YAML lines. A text is written plain
when it is then read as that text, in quotes otherwise, and as a literal block when it has lines.
-/
namespace Ligature.Yaml

inductive Tree where
  | null
  | number (n : Nat)
  | text (s : String)
  /-- A text that is written in quotes even when it could be plain. -/
  | quoted (s : String)
  | sequence (items : List Tree)
  | mapping (entries : List (String × Tree))
  deriving Repr, Inhabited

/-! ### The style of a text -/

def isPrintable (c : Char) : Bool :=
  let n := c.toNat
  n == 10 || (0x20 ≤ n && n ≤ 0x7E) || (0xA0 ≤ n && n != 0xFEFF && n != 0xFFFE && n != 0xFFFF)

def anyNeighbours (p : Char → Char → Bool) : List Char → Bool
  | a :: b :: rest => p a b || anyNeighbours p (b :: rest)
  | _ => false

def startsIndicator : List Char → Bool
  | [] => false
  | c :: rest =>
    c ∈ ['#', ',', '[', ']', '{', '}', '&', '*', '!', '|', '>', '\'', '"', '%', '@', '`'] ||
      ((c == '?' || c == ':' || c == '-') && startsBlank rest)

/-- Whether a later character makes a text more than a plain text: a colon before a blank or at
the end, or a number sign behind a blank. -/
def holdsIndicator : List Char → Bool
  | a :: b :: rest =>
    (b == ':' && startsBlank rest) || (b == '#' && (isBlank a || isBreak a)) ||
      holdsIndicator (b :: rest)
  | _ => false

def plainAllowed (cs : List Char) : Bool :=
  let edge (c : Option Char) : Bool := c == some ' '
  !(['-', '-', '-'].isPrefixOf cs || ['.', '.', '.'].isPrefixOf cs || startsIndicator cs ||
    holdsIndicator cs || edge cs.head? || edge cs.getLast? || cs.any isBreak ||
    cs.any (!isPrintable ·))

def spaceThenBreak (cs : List Char) : Bool := anyNeighbours (fun a b => a == ' ' && isBreak b) cs

def breakThenSpace (cs : List Char) : Bool := anyNeighbours (fun a b => isBreak a && b == ' ') cs

def singleQuotesAllowed (cs : List Char) : Bool :=
  !(breakThenSpace cs || spaceThenBreak cs || cs.any (!isPrintable ·))

def literalAllowed (cs : List Char) : Bool :=
  !(cs.getLast? == some ' ' || spaceThenBreak cs || cs.any (!isPrintable ·))

def quoteStyle (cs : List Char) : ScalarStyle :=
  if singleQuotesAllowed cs then .singleQuoted else .doubleQuoted

def isAmbiguous (cs : List Char) : Bool := plainKind cs != .text || isZeroPadded cs

def textStyle (cs : List Char) : ScalarStyle :=
  if cs.contains '\n' then if literalAllowed cs then .literal else .doubleQuoted
  else if !isAmbiguous cs && plainAllowed cs then .plain
  else quoteStyle cs

/-! ### The characters of a text -/

def hexDigits (width n : Nat) : List Char :=
  let ds := (Nat.toDigits 16 n).map Char.toUpper
  List.replicate (width - ds.length) '0' ++ ds

def escapedChar (c : Char) : List Char :=
  if isPrintable c && !isBreak c && c != '"' && c != '\\' then [c]
  else '\\' :: match c with
    | '\x00' => ['0']
    | '\x07' => ['a']
    | '\x08' => ['b']
    | '\t' => ['t']
    | '\n' => ['n']
    | '\x0b' => ['v']
    | '\x0c' => ['f']
    | '\r' => ['r']
    | '\x1b' => ['e']
    | '"' => ['"']
    | '\\' => ['\\']
    | '\x85' => ['N']
    | '\u2028' => ['L']
    | '\u2029' => ['P']
    | c =>
      let n := c.toNat
      if n ≤ 0xFF then 'x' :: hexDigits 2 n
      else if n ≤ 0xFFFF then 'u' :: hexDigits 4 n
      else 'U' :: hexDigits 8 n

def indentation (n : Nat) : List Char := List.replicate n ' '

/-- The inside of single quotes: quotes are doubled, and so is the first of some line breaks.
`broken` tells that a line has just ended. -/
def singleQuotedBody (indent : Nat) (broken : Bool) : List Char → List Char
  | [] => if broken then indentation indent else []
  | c :: rest =>
    if isBreak c then
      (if !broken && c == '\n' then ['\n', c] else [c]) ++ singleQuotedBody indent true rest
    else
      (if broken then indentation indent else []) ++ (if c == '\'' then ['\'', '\''] else [c]) ++
        singleQuotedBody indent false rest

/-- The header of a literal block: whether its indentation cannot be seen, and what becomes of the
line breaks at its end. -/
def literalHeader (cs : List Char) : List Char :=
  let leads := cs.head?.any fun c => c == ' ' || isBreak c
  let chomp := match cs.reverse with
    | [] => ['-']
    | c :: rest =>
      if !isBreak c then ['-']
      else if rest.head?.all isBreak then ['+']
      else []
  '|' :: (if leads then ['2'] else []) ++ chomp

def literalBody (indent : Nat) (broken : Bool) : List Char → List Char
  | [] => []
  | c :: rest =>
    if isBreak c then c :: literalBody indent true rest
    else (if broken then indentation indent else []) ++ c :: literalBody indent false rest

def styledText (indent : Nat) (style : ScalarStyle) (cs : List Char) : List Char :=
  match style with
  | .literal => literalHeader cs ++ '\n' :: literalBody indent true cs
  | .singleQuoted => '\'' :: singleQuotedBody indent false cs ++ ['\'']
  | .doubleQuoted => '"' :: cs.flatMap escapedChar ++ ['"']
  | .plain | .folded => cs

def endLine (cs : List Char) : List Char := if cs.getLast?.any isBreak then cs else cs ++ ['\n']

/-! ### Trees -/

mutual

/-- A tree behind the mark that it belongs to, to the end of its last line. `indent` is the column
of the collection around it, and `inMapping` tells that this is a mapping. -/
def Tree.printValue (indent : Nat) (inMapping : Bool) : Tree → List Char
  | .null => " null\n".toList
  | .number n => ' ' :: Nat.toDigits 10 n ++ ['\n']
  | .text s =>
    let cs := s.toList
    ' ' :: endLine (styledText (indent + 2) (textStyle cs) cs)
  | .quoted s =>
    let cs := s.toList
    ' ' :: endLine (styledText (indent + 2) (quoteStyle cs) cs)
  | .sequence [] => " []\n".toList
  | .sequence (item :: items) =>
    if inMapping then '\n' :: Tree.printItems indent true (item :: items)
    else ' ' :: Tree.printItems (indent + 2) false (item :: items)
  | .mapping [] => " \x7b\x7d\n".toList
  | .mapping (entry :: entries) =>
    if inMapping then '\n' :: Tree.printEntries (indent + 2) true (entry :: entries)
    else ' ' :: Tree.printEntries (indent + 2) false (entry :: entries)

/-- Items with their marks in the column `indent`, which the first may already be in. -/
def Tree.printItems (indent : Nat) (pad : Bool) : List Tree → List Char
  | [] => []
  | item :: rest =>
    (if pad then indentation indent else []) ++ '-' :: item.printValue indent false ++
      Tree.printItems indent true rest

def Tree.printEntries (indent : Nat) (pad : Bool) : List (String × Tree) → List Char
  | [] => []
  | (key, value) :: rest =>
    (if pad then indentation indent else []) ++ key.toList ++ ':' :: value.printValue indent true ++
      Tree.printEntries indent true rest

end

def printDocument (entries : List (String × Tree)) : List Char := Tree.printEntries 0 true entries

end Ligature.Yaml
