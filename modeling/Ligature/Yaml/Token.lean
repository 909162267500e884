import Ligature.Yaml.Scalar

/-!
# YAML tokens

A YAML text as a run of tokens. The ends of block collections are not written: they follow from
columns, so the scanner keeps the columns of the open ones. Whether a text is the key of a mapping
is known only when its colon is met; until then its place in the run is remembered, and the tokens
that open the key are put there afterwards.
-/
namespace Ligature.Yaml

inductive Token where
  | version (major minor : Nat)
  | tagDirective (handle replacement : String)
  | documentStart
  | documentEnd
  | blockSequenceStart
  | blockMappingStart
  | blockEnd
  | flowSequenceStart
  | flowSequenceEnd
  | flowMappingStart
  | flowMappingEnd
  | blockEntry
  | flowEntry
  | key
  | value
  | alias (name : String)
  | anchor (name : String)
  | tag (handle suffix : String)
  | scalar (text : String) (style : ScalarStyle)
  | streamEnd
  deriving DecidableEq, Repr

/-! ### Tags, anchors and directives -/

/-- The characters of a tag; flow indicators only where they cannot end it. -/
def isTagChar (bracketed : Bool) (c : Char) : Bool :=
  isNameChar c ||
    c ∈ [';', '/', '?', ':', '@', '&', '=', '+', '$', '.', '%', '!', '~', '*', '\'', '(', ')'] ||
    (bracketed && c ∈ [',', '[', ']'])

def readEscapedByte (cs : List Char) : Option (Nat × List Char) :=
  match cs with
  | '%' :: a :: b :: rest => match Unicode.hexDigit? a, Unicode.hexDigit? b with
    | some x, some y => some (16 * x + y, rest)
    | _, _ => none
  | _ => none

def readEscapedRest : Nat → Nat → List Char → Option (Nat × List Char)
  | 0, value, cs => some (value, cs)
  | count + 1, value, cs => match readEscapedByte cs with
    | none => none
    | some (byte, rest) =>
      if byte / 64 = 2 then readEscapedRest count (64 * value + byte % 64) rest else none

def readEscapedChar (cs : List Char) : Option (Char × List Char) :=
  match readEscapedByte cs with
  | none => none
  | some (byte, rest) =>
    let parts : Option (Nat × Nat) :=
      if byte < 0x80 then some (0, byte)
      else if byte / 32 = 6 then some (1, byte % 32)
      else if byte / 16 = 14 then some (2, byte % 16)
      else if byte / 8 = 30 then some (3, byte % 8)
      else none
    match parts with
    | none => none
    | some (count, value) => (readEscapedRest count value rest).map fun (n, rest) =>
        (Char.ofNat n, rest)

def readTagText (bracketed : Bool) : Nat → List Char → Option (List Char × List Char)
  | 0, _ => none
  | fuel + 1, cs => match cs with
    | [] => some ([], [])
    | c :: rest =>
      if !isTagChar bracketed c then some ([], c :: rest)
      else
        let first := if c == '%' then readEscapedChar (c :: rest) else some (c, rest)
        match first with
        | none => none
        | some (d, rest) => (readTagText bracketed fuel rest).map fun (ds, r) => (d :: ds, r)

def Place.moveTo (p : Place) (rest : List Char) : Place :=
  p.advance (p.rest.length - rest.length)

/-- A handle such as `!`, `!!` or `!name!`; without its last mark it is the start of a tag. -/
def readHandle (cs : List Char) : Option (List Char × List Char) :=
  match cs with
  | '!' :: rest =>
    let name := rest.takeWhile isNameChar
    match rest.drop name.length with
    | '!' :: after => some ('!' :: name ++ ['!'], after)
    | after => some ('!' :: name, after)
  | _ => none

/-- A tag: its handle, which is empty for a full tag, and its suffix. -/
def readTag (inFlow : Bool) (p : Place) : Option (Token × Place) :=
  let shape : Option (List Char × List Char × List Char) := match p.rest with
    | '!' :: '<' :: rest => match readTagText true (rest.length + 1) rest with
      | some (s, '>' :: after) => if s.isEmpty then none else some ([], s, after)
      | _ => none
    | cs => match readHandle cs with
      | none => none
      | some (handle, rest) => match readTagText false (rest.length + 1) rest with
        | none => none
        | some (s, after) =>
          if 2 ≤ handle.length ∧ handle.getLast? = some '!' then
            if s.isEmpty then none else some (handle, s, after)
          else
            let s := handle.drop 1 ++ s
            if s.isEmpty then some ([], ['!'], after) else some (['!'], s, after)
  match shape with
  | none => none
  | some (handle, suffix, after) =>
    if startsBlank after || (inFlow && after.head? == some ',') then
      some (.tag (String.ofList handle) (String.ofList suffix), p.moveTo after)
    else none

def readAnchorName (p : Place) : Option (String × Place) :=
  let (name, p) := p.span isNameChar
  if name.isEmpty then none
  else if startsBlank p.rest || p.rest.head?.any fun c =>
      c ∈ ['?', ':', ',', ']', '}', '%', '@', '`'] then
    some (String.ofList name, p)
  else none

def readVersionPart (p : Place) : Option (Nat × Place) :=
  let (digits, p) := p.span Char.isDigit
  if digits.isEmpty ∨ 9 < digits.length then none
  else some (digits.foldl (fun n c => 10 * n + (c.toNat - '0'.toNat)) 0, p)

def readDirective (p : Place) : Option (Token × Place) :=
  let (name, p) := p.span isNameChar
  if !startsBlank p.rest then none
  else
    let p := p.skipWhile isBlank
    let body : Option (Token × Place) := match String.ofList name with
      | "YAML" => match readVersionPart p with
        | some (major, p) => match p.rest with
          | '.' :: _ => (readVersionPart (p.advance 1)).map fun (minor, p) =>
              (.version major minor, p)
          | _ => none
        | none => none
      | "TAG" => match readHandle p.rest with
        | some (handle, rest) =>
          let p := p.moveTo rest
          if (handle.length = 1 ∨ handle.getLast? = some '!') ∧ p.rest.head?.any isBlank then
            let p := p.skipWhile isBlank
            match readTagText true (p.rest.length + 1) p.rest with
            | some (s, rest) =>
              if s.isEmpty ∨ !startsBlank rest then none
              else some (.tagDirective (String.ofList handle) (String.ofList s), p.moveTo rest)
            | none => none
          else none
        | none => none
      | _ => none
    match body with
    | none => none
    | some (token, p) =>
      let p := p.skipWhile isBlank
      let p := if p.rest.head? = some '#' then p.skipLine else p
      if startsBreak p.rest then some (token, p.skipBreak) else none

/-! ### The scanner -/

/-- A text that may turn out to be the key of a mapping. -/
structure SimpleKey where
  /-- Whether nothing else can stand in its column. -/
  required : Bool
  /-- How many tokens there are before it. -/
  tokens : Nat
  index : Nat
  line : Nat
  column : Nat
  deriving DecidableEq, Repr

structure Scanner where
  place : Place
  /-- The tokens read, newest first. -/
  tokens : List Token
  count : Nat
  /-- The columns of the open block collections, innermost first. -/
  indents : List Nat
  keyAllowed : Bool
  /-- The possible key of the innermost collection. -/
  candidate : Option SimpleKey
  /-- Those of the collections around the open flow collections, innermost first. -/
  outer : List (Option SimpleKey)
  deriving Repr

namespace Scanner

def start (text : List Char) : Scanner := ⟨.start text, [], 0, [], true, none, []⟩

def inFlow (s : Scanner) : Bool := !s.outer.isEmpty

def push (s : Scanner) (t : Token) : Scanner :=
  { s with tokens := t :: s.tokens, count := s.count + 1 }

def insertAt (s : Scanner) (n : Nat) (t : Token) : Scanner :=
  let later := s.count - n
  { s with tokens := s.tokens.take later ++ t :: s.tokens.drop later, count := s.count + 1 }

def pushAt (s : Scanner) (t : Token) (p : Place) : Scanner := { s.push t with place := p }

def deeper (s : Scanner) (column : Nat) : Bool := s.indents.head?.all (· < column)

/-- Opens a block collection in a column, if it is deeper than the innermost one; its token goes
behind the first `n`. -/
def openBlock (s : Scanner) (column : Nat) (n : Nat) (t : Token) : Scanner :=
  if s.inFlow || !s.deeper column then s
  else { s.insertAt n t with indents := column :: s.indents }

/-- Closes the block collections that a column has left; with `none`, all of them. -/
def closeBlocks (s : Scanner) (column : Option Nat) : Scanner :=
  if s.inFlow then s
  else
    let left := s.indents.takeWhile fun i => column.all (· < i)
    { s with
      indents := s.indents.drop left.length
      tokens := left.map (fun _ => Token.blockEnd) ++ s.tokens
      count := s.count + left.length }

/-- Forgets the possible key. A required one cannot be given up. -/
def dropKey (s : Scanner) : Option Scanner :=
  if s.candidate.any (·.required) then none else some { s with candidate := none }

def saveKey (s : Scanner) : Option Scanner :=
  if !s.keyAllowed then some s
  else s.dropKey.map fun s =>
    let required := !s.inFlow && s.indents.head? == some s.place.column
    { s with candidate := some ⟨required, s.count, s.place.index, s.place.line, s.place.column⟩ }

/-- Whether a key that started earlier can still end here: in the same line, within 1024
characters. -/
def alive (p : Place) (k : SimpleKey) : Bool := k.line == p.line && p.index ≤ k.index + 1024

def dropStale (s : Scanner) : Option Scanner :=
  let stale (k : Option SimpleKey) : Bool := k.any fun k => k.required && !alive s.place k
  if stale s.candidate || s.outer.any stale then none
  else some { s with
    candidate := s.candidate.filter (alive s.place)
    outer := s.outer.map (·.filter (alive s.place)) }

/-- Skips blanks, comments and line breaks before a token. Tabs may not stand where a key may. -/
def skipToToken : Nat → Scanner → Scanner
  | 0, s => s
  | fuel + 1, s =>
    let p := if s.place.column == 0 && s.place.rest.head? == some '\ufeff' then s.place.advance 1
      else s.place
    let p := p.skipWhile fun c => c == ' ' || ((s.inFlow || !s.keyAllowed) && c == '\t')
    let p := if p.rest.head? = some '#' then p.skipLine else p
    if !p.rest.isEmpty && startsBreak p.rest then
      skipToToken fuel { s with place := p.skipBreak, keyAllowed := s.keyAllowed || !s.inFlow }
    else { s with place := p }

def atMargin (s : Scanner) (t : Token) (p : Place) : Option Scanner :=
  (s.closeBlocks none).dropKey.map fun s => { s.pushAt t p with keyAllowed := false }

def openFlow (s : Scanner) (t : Token) : Option Scanner :=
  s.saveKey.map fun s => { s.pushAt t (s.place.advance 1) with
    outer := s.candidate :: s.outer, candidate := none, keyAllowed := true }

def closeFlow (s : Scanner) (t : Token) : Option Scanner :=
  s.dropKey.map fun s => { s.pushAt t (s.place.advance 1) with
    candidate := s.outer.head?.join, outer := s.outer.tail, keyAllowed := false }

def flowEntry (s : Scanner) : Option Scanner :=
  s.dropKey.map fun s => { s.pushAt .flowEntry (s.place.advance 1) with keyAllowed := true }

def blockEntry (s : Scanner) : Option Scanner :=
  if !s.inFlow && !s.keyAllowed then none
  else (s.openBlock s.place.column s.count .blockSequenceStart).dropKey.map fun s =>
    { s.pushAt .blockEntry (s.place.advance 1) with keyAllowed := true }

def explicitKey (s : Scanner) : Option Scanner :=
  if !s.inFlow && !s.keyAllowed then none
  else (s.openBlock s.place.column s.count .blockMappingStart).dropKey.map fun s =>
    { s.pushAt .key (s.place.advance 1) with keyAllowed := !s.inFlow }

def mappingValue (s : Scanner) : Option Scanner :=
  match s.candidate with
  | some k =>
    let s := (s.insertAt k.tokens .key).openBlock k.column k.tokens .blockMappingStart
    some { s.pushAt .value (s.place.advance 1) with candidate := none, keyAllowed := false }
  | none =>
    if !s.inFlow && !s.keyAllowed then none
    else
      let s := s.openBlock s.place.column s.count .blockMappingStart
      some { s.pushAt .value (s.place.advance 1) with keyAllowed := !s.inFlow }

def keyToken (s : Scanner) (read : Scanner → Option (Token × Place)) : Option Scanner :=
  s.saveKey.bind fun s => (read s).map fun (t, p) => { s.pushAt t p with keyAllowed := false }

def anchorToken (s : Scanner) (make : String → Token) : Option Scanner :=
  s.keyToken fun s => (readAnchorName (s.place.advance 1)).map fun (name, p) => (make name, p)

def quotedScalar (s : Scanner) (single : Bool) : Option Scanner :=
  s.keyToken fun s =>
    let p := s.place.advance 1
    (readQuoted single (p.rest.length + 2) [] p).map fun (cs, p) =>
      (.scalar (String.ofList cs) (if single then .singleQuoted else .doubleQuoted), p)

def blockScalar (s : Scanner) (literal : Bool) : Option Scanner :=
  s.dropKey.bind fun s =>
    (readBlock literal s.indents.head? (s.place.advance 1)).map fun (cs, p) =>
      { s.pushAt (.scalar (String.ofList cs) (if literal then .literal else .folded)) p with
        keyAllowed := true }

/-- A plain scalar. Behind one that ends with a line break a key may start. -/
def plainScalar (s : Scanner) : Option Scanner :=
  s.saveKey.bind fun s =>
    let indent := (s.indents.head?.map (· + 1)).getD 0
    (readPlain s.inFlow indent (s.place.rest.length + 1) [] .none s.place).map
      fun (cs, broken, p) =>
        { s.pushAt (.scalar (String.ofList cs) .plain) p with keyAllowed := broken }

def isIndicator (c : Char) : Bool :=
  c ∈ ['-', '?', ':', ',', '[', ']', '{', '}', '#', '&', '*', '!', '|', '>', '\'', '"', '%', '@',
    '`']

def startsPlain (inFlow : Bool) (c : Char) (rest : List Char) : Bool :=
  !(isIndicator c || isBlank c || isBreak c) ||
    (c == '-' && !rest.head?.any isBlank) ||
    (!inFlow && (c == '?' || c == ':') && !startsBlank rest)

def readToken (s : Scanner) (c : Char) (rest : List Char) : Option Scanner :=
  let p := s.place
  if p.column == 0 && c == '%' then
    (s.closeBlocks none).dropKey.bind fun s => (readDirective (p.advance 1)).map fun (t, p) =>
      { s.pushAt t p with keyAllowed := false }
  else if p.atMarker then
    s.atMargin (if c == '-' then .documentStart else .documentEnd) (p.advance 3)
  else match c with
    | '[' => s.openFlow .flowSequenceStart
    | '{' => s.openFlow .flowMappingStart
    | ']' => s.closeFlow .flowSequenceEnd
    | '}' => s.closeFlow .flowMappingEnd
    | ',' => s.flowEntry
    | '*' => s.anchorToken .alias
    | '&' => s.anchorToken .anchor
    | '!' => s.keyToken fun s => readTag s.inFlow s.place
    | '\'' => s.quotedScalar true
    | '"' => s.quotedScalar false
    | _ =>
      if c == '-' && startsBlank rest then s.blockEntry
      else if c == '?' && (s.inFlow || startsBlank rest) then s.explicitKey
      else if c == ':' && (s.inFlow || startsBlank rest) then s.mappingValue
      else if c == '|' && !s.inFlow then s.blockScalar true
      else if c == '>' && !s.inFlow then s.blockScalar false
      else if startsPlain s.inFlow c rest then s.plainScalar
      else none

/-- Reads the next token. At the end of the text the last token is that of the end. -/
def next (s : Scanner) : Option Scanner :=
  (skipToToken (s.place.rest.length + 1) s).dropStale.bind fun s =>
    let s := s.closeBlocks (some s.place.column)
    match s.place.rest with
    | [] => (s.closeBlocks none).dropKey.map (·.push .streamEnd)
    | c :: rest => s.readToken c rest

def run : Nat → Scanner → Option (List Token)
  | 0, _ => none
  | fuel + 1, s => match s.next with
    | none => none
    | some s => match s.tokens with
      | .streamEnd :: _ => some s.tokens.reverse
      | _ => run fuel s

end Scanner

def Token.ofText (text : List Char) : Option (List Token) :=
  let text := match text with
    | '\ufeff' :: rest => rest
    | text => text
  if text.all isAllowed then Scanner.run (text.length + 2) (.start text) else none

end Ligature.Yaml
