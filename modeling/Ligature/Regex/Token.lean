import Ligature.Regex.Syntax

/-!
# Regex tokens

A regex text as a run of tokens: atoms, repetition operators, bars and parentheses. `nextToken`
reads one token from the front of a text; what it reads depends on nothing but the text and on
whether blanks and comments are skipped (verbose mode).
-/
namespace Ligature.Regex

/-- A reader of a prefix of the text: what it read and what is left, or a fault. -/
abbrev Reading (α : Type) := Except CompileError (α × List Char)

def dropComment (cs : List Char) : List Char := (cs.dropWhile (· ≠ '\n')).drop 1

def skipBlanksFuel : Nat → List Char → List Char
  | 0, cs => cs
  | fuel + 1, cs => match cs with
    | [] => []
    | c :: r =>
      if Unicode.isSpace c then skipBlanksFuel fuel r
      else if c = '#' then skipBlanksFuel fuel (dropComment r)
      else c :: r

def skip (verbose : Bool) (cs : List Char) : List Char :=
  if verbose then skipBlanksFuel (cs.length + 1) cs else cs

def isMeta (c : Char) : Bool :=
  c ∈ ['\\', '.', '+', '*', '?', '(', ')', '|', '[', ']', '{', '}', '^', '$', '#', '&',
    '-', '~']

def isEscapable (c : Char) : Bool :=
  isMeta c || (c.toNat < 128 && !c.isAlphanum && c != '<' && c != '>')

/-! ### Numbers -/

/-- A decimal number below 2^32 with blanks around it. -/
def readDecimal (verbose : Bool) (cs : List Char) : Reading Nat :=
  let start := cs.dropWhile Unicode.isSpace
  let rec digits : Nat → List Char → List Char × List Char
    | 0, r => ([], r)
    | fuel + 1, r => match r with
      | c :: r' =>
        if c.isDigit then
          let (ds, r'') := digits fuel (skip verbose r')
          (c :: ds, r'')
        else ([], r)
      | [] => ([], [])
  let (ds, rest) := digits (start.length + 1) start
  let n := ds.foldl (fun n c => 10 * n + (c.toNat - '0'.toNat)) 0
  if ds.isEmpty ∨ UInt32.size ≤ n then .error .malformed
  else .ok (n, skip verbose (rest.dropWhile Unicode.isSpace))

def readBounds (verbose : Bool) (cs : List Char) : Except CompileError ((Nat × Option Nat) × List Char) := do
  let (min, rest) ← readDecimal verbose (skip verbose cs)
  match rest with
  | ',' :: rest =>
    match skip verbose rest with
    | '}' :: rest => return ((min, none), rest)
    | rest =>
      let (max, rest) ← readDecimal verbose rest
      match rest with
      | '}' :: rest => if min ≤ max then return ((min, some max), rest) else throw .malformed
      | _ => throw .malformed
  | '}' :: rest => return ((min, some min), rest)
  | _ => throw .malformed

def charOfCode (n : Nat) : Except CompileError Char :=
  if n.isValidChar then .ok (Char.ofNat n) else .error .malformed

def readHexDigits (verbose : Bool) : Nat → Nat → List Char → Reading Nat
  | 0, value, cs => .ok (value, cs)
  | count + 1, value, cs => match cs with
    | c :: rest => match Unicode.hexDigit? c with
      | some d => readHexDigits verbose count (16 * value + d) (skip verbose rest)
      | none => .error .malformed
    | [] => .error .malformed

def readHexBraced (verbose : Bool) : Nat → List Char → List Char → Reading Nat
  | 0, _, _ => .error .malformed
  | fuel + 1, digits, cs => match cs with
    | '}' :: rest =>
      if digits.isEmpty then .error .malformed
      else .ok (Unicode.hexValue digits.reverse, skip verbose rest)
    | c :: rest =>
      if (Unicode.hexDigit? c).isSome then readHexBraced verbose fuel (c :: digits) (skip verbose rest)
      else .error .malformed
    | [] => .error .malformed

def readHex (verbose : Bool) (width : Nat) (cs : List Char) : Except CompileError ((Char × Bool) × List Char) := do
  match skip verbose cs with
  | '{' :: rest =>
    let (n, rest) ← readHexBraced verbose (rest.length + 1) [] (skip verbose rest)
    return ((← charOfCode n, false), rest)
  | rest =>
    let (n, rest) ← readHexDigits verbose width 0 rest
    return ((← charOfCode n, width = 2), rest)

/-! ### Named classes -/

def namedSet? (name : String) : Option NamedSet :=
  let key := Unicode.looseName name
  let property? := (Unicode.Property.all.find? fun p => p.names.1 == key || p.names.2 == key).map
    NamedSet.property
  let category? : Option NamedSet := match key with
    | "any" => some .any
    | "ascii" => some .ascii
    | "assigned" => some .assigned
    | _ => (Unicode.categoryGroup? key).map NamedSet.category
  let script? := if (Unicode.Script.find? key).isSome then some (NamedSet.script key) else none
  property?.or (category?.or script?)

def valuedSet? (name value : String) : Option NamedSet :=
  let key := Unicode.looseName value
  match Unicode.looseName name with
  | "gc" | "generalcategory" => match key with
    | "any" => some .any
    | "ascii" => some .ascii
    | "assigned" => some .assigned
    | _ => (Unicode.categoryGroup? key).map NamedSet.category
  | "sc" | "script" | "scx" | "scriptextensions" =>
    if (Unicode.Script.find? key).isSome then some (.script key) else none
  | _ => none

def splitAtText (sep : List Char) : List Char → Option (List Char × List Char)
  | [] => none
  | c :: r =>
    if sep.isPrefixOf (c :: r) then some ([], (c :: r).drop sep.length)
    else (splitAtText sep r).map fun (a, b) => (c :: a, b)

/-- A class query such as `Lu` or `script=Greek`, and whether the set found is to be negated. An
inequality sign between a property and its value reads as an equality sign. -/
def querySet (query : List Char) : Except CompileError (NamedSet × Bool) :=
  let valued (sep : String) : Option (Option NamedSet) :=
    (splitAtText sep.toList query).map fun (name, value) =>
      valuedSet? (String.ofList name) (String.ofList value)
  match ((valued "!=").or (valued ":")).or (valued "=") with
  | some (some s) => .ok (s, false)
  | some none => .error .malformed
  | none =>
    let name := String.ofList query
    match Unicode.looseName name with
    | "cn" | "unassigned" => .ok (.assigned, true)
    | _ => match namedSet? name with
      | some s => .ok (s, false)
      | none => .error .malformed

def readBraced (verbose : Bool) : Nat → List Char → List Char → Reading (List Char)
  | 0, _, _ => .error .malformed
  | fuel + 1, acc, cs => match cs with
    | '}' :: rest => .ok (acc.reverse, rest)
    | c :: rest => readBraced verbose fuel (c :: acc) (skip verbose rest)
    | [] => .error .malformed

def readProperty (verbose : Bool) (negated : Bool) (cs : List Char) :
    Except CompileError ((NamedSet × Bool) × List Char) := do
  match skip verbose cs with
  | '{' :: rest =>
    let (query, rest) ← readBraced verbose (rest.length + 1) [] (skip verbose rest)
    let (s, inverted) ← querySet query
    return ((s, negated != inverted), rest)
  | '\\' :: _ => throw .malformed
  | c :: rest =>
    let (s, inverted) ← querySet [c]
    return ((s, negated != inverted), skip verbose rest)
  | [] => throw .malformed

/-! ### Escapes -/

inductive Primitive where
  | literal (c : Char) (isByte : Bool)
  | dot
  | assertion (a : Assertion)
  | perl (k : PerlClass) (negated : Bool)
  | property (s : NamedSet) (negated : Bool)
  deriving Repr

def readLetters (verbose : Bool) : Nat → List Char → List Char × List Char
  | 0, cs => ([], cs)
  | fuel + 1, cs => match cs with
    | c :: rest =>
      if c.isAlpha || c == '-' then
        let (ls, rest) := readLetters verbose fuel (skip verbose rest)
        (c :: ls, rest)
      else ([], c :: rest)
    | [] => ([], [])

/-- A word boundary, which may be qualified in braces; braces that begin otherwise are left to be
read as a repetition. -/
def readBoundary (verbose : Bool) (cs : List Char) : Reading Primitive :=
  match cs with
  | '{' :: inside =>
    match skip verbose inside with
    | [] => .error .malformed
    | c :: rest =>
      if c.isAlpha || c == '-' then
        match readLetters verbose (rest.length + 2) (c :: rest) with
        | (name, '}' :: rest) =>
          match String.ofList name with
          | "start" => .ok (.assertion .wordStart, rest)
          | "end" => .ok (.assertion .wordEnd, rest)
          | "start-half" => .ok (.assertion .wordStartHalf, rest)
          | "end-half" => .ok (.assertion .wordEndHalf, rest)
          | _ => .error .malformed
        | _ => .error .malformed
      else .ok (.assertion .wordBoundary, cs)
  | _ => .ok (.assertion .wordBoundary, cs)

def readEscape (verbose : Bool) (cs : List Char) : Reading Primitive :=
  match cs with
  | [] => .error .malformed
  | c :: rest =>
    let hex (width : Nat) : Reading Primitive :=
      (readHex verbose width rest).map fun ((c, isByte), r) => (.literal c isByte, r)
    let lit (c : Char) : Reading Primitive := .ok (.literal c false, rest)
    match c with
    | 'x' => hex 2
    | 'u' => hex 4
    | 'U' => hex 8
    | 'p' => (readProperty verbose false rest).map fun ((s, n), r) => (.property s n, r)
    | 'P' => (readProperty verbose true rest).map fun ((s, n), r) => (.property s n, r)
    | 'd' => .ok (.perl .digit false, rest)
    | 's' => .ok (.perl .space false, rest)
    | 'w' => .ok (.perl .word false, rest)
    | 'D' => .ok (.perl .digit true, rest)
    | 'S' => .ok (.perl .space true, rest)
    | 'W' => .ok (.perl .word true, rest)
    | 'a' => lit '\x07'
    | 'f' => lit '\x0c'
    | 't' => lit '\t'
    | 'n' => lit '\n'
    | 'r' => lit '\r'
    | 'v' => lit '\x0b'
    | 'A' => .ok (.assertion .startText, rest)
    | 'z' => .ok (.assertion .endText, rest)
    | 'b' => readBoundary verbose rest
    | 'B' => .ok (.assertion .notWordBoundary, rest)
    | '<' => .ok (.assertion .wordStart, rest)
    | '>' => .ok (.assertion .wordEnd, rest)
    | _ => if isEscapable c then lit c else .error .malformed

/-! ### Groups and flags -/

def readFlags : Nat → Bool → Bool → FlagChange → List Char → Reading (FlagChange × Char)
  | 0, _, _, _, _ => .error .malformed
  | fuel + 1, negating, afterMinus, change, cs => match cs with
    | [] => .error .malformed
    | c :: rest =>
      if c = ':' ∨ c = ')' then
        if afterMinus then .error .malformed else .ok ((change.reverse, c), rest)
      else if c = '-' then
        if negating then .error .malformed else readFlags fuel true true change rest
      else match Flag.ofChar? c with
        | none => .error .malformed
        | some f =>
          if change.any (·.1 = f) then .error .malformed
          else readFlags fuel negating false ((f, !negating) :: change) rest

def readGroupName : Nat → List Char → List Char → Reading String
  | 0, _, _ => .error .malformed
  | fuel + 1, acc, cs => match cs with
    | '>' :: rest => if acc.isEmpty then .error .malformed else .ok (String.ofList acc.reverse, rest)
    | c :: rest =>
      if c = '_' ∨ (if acc.isEmpty then Unicode.isAlphabetic c
          else c = '.' ∨ c = '[' ∨ c = ']' ∨ Unicode.isAlphanumeric c) then
        readGroupName fuel (c :: acc) rest
      else .error .malformed
    | [] => .error .malformed

inductive Token where
  | atom (s : Syntax)
  | repeated (min : Nat) (max : Option Nat) (greedy : Bool)
  | bar
  | openGroup (kind : GroupKind) (name : Option String)
  | closeGroup
  | setFlags (change : FlagChange)
  | done
  deriving Repr

def readGroup (verbose : Bool) (cs : List Char) : Except CompileError (Token × List Char) := do
  match skip verbose cs with
  | '?' :: '=' :: _ | '?' :: '!' :: _ | '?' :: '<' :: '=' :: _ | '?' :: '<' :: '!' :: _ =>
    throw .malformed
  | '?' :: 'P' :: '<' :: rest | '?' :: '<' :: rest =>
    let (name, rest) ← readGroupName (rest.length + 1) [] rest
    return (.openGroup .capture (some name), rest)
  | '?' :: rest =>
    let ((change, closer), rest) ← readFlags (rest.length + 1) false false [] rest
    if closer = ':' then return (.openGroup (.plain change) none, rest)
    else if change.isEmpty then throw .malformed
    else return (.setFlags change, rest)
  | rest => return (.openGroup .capture none, rest)

/-! ### Classes in brackets -/

def posixRanges? (name : String) : Option (List (Char × Char)) :=
  match name with
  | "alnum" => some [('0', '9'), ('A', 'Z'), ('a', 'z')]
  | "alpha" => some [('A', 'Z'), ('a', 'z')]
  | "ascii" => some [('\x00', '\x7f')]
  | "blank" => some [('\t', '\t'), (' ', ' ')]
  | "cntrl" => some [('\x00', '\x1f'), ('\x7f', '\x7f')]
  | "digit" => some [('0', '9')]
  | "graph" => some [('!', '~')]
  | "lower" => some [('a', 'z')]
  | "print" => some [(' ', '~')]
  | "punct" => some [('!', '/'), (':', '@'), ('[', '`'), ('{', '~')]
  | "space" => some [('\t', '\t'), ('\n', '\n'), ('\x0b', '\x0b'), ('\x0c', '\x0c'),
      ('\r', '\r'), (' ', ' ')]
  | "upper" => some [('A', 'Z')]
  | "word" => some [('0', '9'), ('A', 'Z'), ('_', '_'), ('a', 'z')]
  | "xdigit" => some [('0', '9'), ('A', 'F'), ('a', 'f')]
  | _ => none

def readPosix? (cs : List Char) : Option (ClassSyntax × List Char) :=
  match cs with
  | ':' :: rest =>
    let (negated, rest) := match rest with
      | '^' :: r => (true, r)
      | r => (false, r)
    match rest.dropWhile (· ≠ ':') with
    | ':' :: ']' :: after =>
      (posixRanges? (String.ofList (rest.takeWhile (· ≠ ':')))).map fun ranges =>
        (.posix ranges negated, after)
    | _ => none
  | _ => none

/-- What follows the first character of a text, blanks skipped in verbose mode. A comment there
is looked into rather than skipped. -/
def peekPast (verbose : Bool) (cs : List Char) : Option Char :=
  if verbose then
    match (cs.drop 1).dropWhile Unicode.isSpace with
    | '#' :: rest => (rest.dropWhile Unicode.isSpace).head?
    | rest => rest.head?
  else (cs.drop 1).head?

def readMember (verbose : Bool) (cs : List Char) : Reading Primitive :=
  match cs with
  | '\\' :: rest => readEscape verbose rest
  | c :: rest => .ok (.literal c false, rest)
  | [] => .error .malformed

def Primitive.toClassItem : Primitive → Except CompileError ClassSyntax
  | .literal c isByte => .ok (.char c isByte)
  | .perl k n => .ok (.perl k n)
  | .property s n => .ok (.property s n)
  | .dot | .assertion _ => .error .malformed

def readClassItem (verbose : Bool) (cs : List Char) : Except CompileError (ClassSyntax × List Char) := do
  let (first, rest) ← readMember verbose cs
  match skip verbose rest with
  | [] => throw .malformed
  | '-' :: after =>
    let next := peekPast verbose ('-' :: after)
    if next = some ']' ∨ next = some '-' then return (← first.toClassItem, '-' :: after)
    else
      let (last, rest) ← readMember verbose (skip verbose after)
      match first, last with
      | .literal lo _, .literal hi _ =>
        if lo ≤ hi then return (.range lo hi, rest) else throw .malformed
      | _, _ => throw .malformed
  | rest => return (← first.toClassItem, rest)

/-- An open bracket: the items of the union being read, newest first, the operation that waits
for it with its left side, and whether the class is negated. -/
structure OpenClass where
  negated : Bool
  pending : Option (SetOp × ClassSyntax)
  items : List ClassSyntax
  deriving Repr

namespace OpenClass

def value (o : OpenClass) : ClassSyntax :=
  let u := ClassSyntax.ofItems o.items.reverse
  match o.pending with
  | none => u
  | some (op, left) => .op op left u

def push (o : OpenClass) (item : ClassSyntax) : OpenClass := { o with items := item :: o.items }

def operate (o : OpenClass) (op : SetOp) : OpenClass :=
  { o with pending := some (op, o.value), items := [] }

end OpenClass

/-- The hyphens at the front of a class, which stand for themselves. -/
def readHyphens (verbose : Bool) : Nat → List ClassSyntax → List Char →
    Reading (List ClassSyntax)
  | 0, _, _ => .error .malformed
  | fuel + 1, acc, cs => match cs with
    | '-' :: rest => readHyphens verbose fuel (.char '-' false :: acc) (skip verbose rest)
    | [] => .error .malformed
    | rest => .ok (acc, rest)

/-- What follows an opening bracket: a negation, hyphens, and a closing bracket that stands for
itself when it comes first. -/
def readClassOpen (verbose : Bool) (cs : List Char) : Except CompileError (OpenClass × List Char) := do
  let start := skip verbose cs
  let (negated, start) := match start with
    | '^' :: rest => (true, skip verbose rest)
    | rest => (false, rest)
  let (items, rest) ← readHyphens verbose (start.length + 1) [] start
  match items, rest with
  | [], ']' :: rest =>
    match skip verbose rest with
    | [] => throw .malformed
    | rest => return (⟨negated, none, [.char ']' false]⟩, rest)
  | items, rest => return (⟨negated, none, items⟩, rest)

def readClassBody (verbose : Bool) : Nat → OpenClass → List OpenClass → List Char →
    Except CompileError (ClassSyntax × List Char)
  | 0, _, _, _ => .error .malformed
  | fuel + 1, o, outer, cs => match skip verbose cs with
    | [] => .error .malformed
    | '[' :: rest =>
      match readPosix? rest with
      | some (item, rest) => readClassBody verbose fuel (o.push item) outer rest
      | none => do
        let (inner, rest) ← readClassOpen verbose rest
        readClassBody verbose fuel inner (o :: outer) rest
    | ']' :: rest =>
      let closed := ClassSyntax.bracketed o.negated o.value
      match outer with
      | [] => .ok (closed, rest)
      | o' :: outer => readClassBody verbose fuel (o'.push closed) outer rest
    | '&' :: '&' :: rest => readClassBody verbose fuel (o.operate .intersection) outer rest
    | '-' :: '-' :: rest => readClassBody verbose fuel (o.operate .difference) outer rest
    | '~' :: '~' :: rest =>
      readClassBody verbose fuel (o.operate .symmetricDifference) outer rest
    | rest => do
      let (item, rest) ← readClassItem verbose rest
      readClassBody verbose fuel (o.push item) outer rest

def readClass (verbose : Bool) (cs : List Char) : Except CompileError (ClassSyntax × List Char) := do
  let (o, rest) ← readClassOpen verbose cs
  readClassBody verbose (rest.length + 1) o [] rest

/-! ### Tokens -/

def Primitive.toSyntax : Primitive → Syntax
  | .literal c isByte => .literal c isByte
  | .dot => .dot
  | .assertion a => .assertion a
  | .perl k n => .charClass (.perl k n)
  | .property s n => .charClass (.property s n)

def readGreed (min : Nat) (max : Option Nat) (cs : List Char) : Token × List Char :=
  match cs with
  | '?' :: rest => (.repeated min max false, rest)
  | rest => (.repeated min max true, rest)

def nextToken (verbose : Bool) (cs : List Char) : Reading Token :=
  match skip verbose cs with
  | [] => .ok (.done, [])
  | c :: rest => match c with
    | '(' => readGroup verbose rest
    | ')' => .ok (.closeGroup, rest)
    | '|' => .ok (.bar, rest)
    | '[' => (readClass verbose rest).map fun (s, r) => (.atom (.charClass s), r)
    | '?' => .ok (readGreed 0 (some 1) rest)
    | '*' => .ok (readGreed 0 none rest)
    | '+' => .ok (readGreed 1 none rest)
    | '{' => (readBounds verbose rest).map fun ((min, max), r) =>
        readGreed min max (skip verbose r)
    | '\\' => (readEscape verbose rest).map fun (p, r) => (.atom p.toSyntax, r)
    | '.' => .ok (.atom .dot, rest)
    | '^' => .ok (.atom (.assertion .startLine), rest)
    | '$' => .ok (.atom (.assertion .endLine), rest)
    | c => .ok (.atom (.literal c false), rest)

end Ligature.Regex
