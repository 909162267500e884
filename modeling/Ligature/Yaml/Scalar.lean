import Ligature.Yaml.Place

/-!
# Scalars

The three ways to write a text in YAML: plain, in quotes, or as an indented block. Each reader takes
the place where the scalar starts and gives the text it stands for and the place behind it; `none`
means that the scalar is malformed.
-/
namespace Ligature.Yaml

inductive ScalarStyle where
  | plain
  | singleQuoted
  | doubleQuoted
  | literal
  | folded
  deriving DecidableEq, Repr

/-! ### Plain scalars -/

def isFlowIndicator (c : Char) : Bool := c ∈ [',', '[', ']', '{', '}']

/-- The characters of a plain scalar up to the next gap or the end of the scalar. In a flow
collection a colon may not stand before a flow indicator or a question mark. -/
def plainRun (inFlow : Bool) : List Char → Option (List Char)
  | [] => some []
  | c :: rest =>
    if isBlank c || isBreak c then some []
    else if inFlow && c == ':' && rest.head?.any fun d => isFlowIndicator d || d == '?' then none
    else if (c == ':' && startsBlank rest) || (inFlow && isFlowIndicator c) then some []
    else (plainRun inFlow rest).map (c :: ·)

/-- A plain scalar from behind the gap `g` on; `acc` is what has been read. Also tells whether the
scalar was followed by a line break. -/
def readPlain (inFlow : Bool) (indent : Nat) :
    Nat → List Char → Gap → Place → Option (List Char × Bool × Place)
  | 0, _, _, _ => none
  | fuel + 1, acc, g, p =>
    if p.atMarker || p.rest.head? = some '#' then some (acc, g.broken, p)
    else match plainRun inFlow p.rest with
      | none => none
      | some run =>
        let acc := if run.isEmpty then acc else acc ++ g.text ++ run
        let g := if run.isEmpty then g else .none
        let p := p.advance run.length
        if p.rest.isEmpty || !startsBlank p.rest then some (acc, g.broken, p)
        else match g.read indent (p.rest.length + 1) p with
          | none => none
          | some (g, p) =>
            if !inFlow && p.column < indent then some (acc, g.broken, p)
            else readPlain inFlow indent fuel acc g p

/-! ### Quoted scalars -/

def simpleEscape? : Char → Option Char
  | '0' => some '\x00'
  | 'a' => some '\x07'
  | 'b' => some '\x08'
  | 't' => some '\t'
  | '\t' => some '\t'
  | 'n' => some '\n'
  | 'v' => some '\x0b'
  | 'f' => some '\x0c'
  | 'r' => some '\r'
  | 'e' => some '\x1b'
  | ' ' => some ' '
  | '"' => some '"'
  | '/' => some '/'
  | '\\' => some '\\'
  | 'N' => some '\x85'
  | '_' => some '\xa0'
  | 'L' => some '\u2028'
  | 'P' => some '\u2029'
  | _ => none

def escapeWidth? : Char → Option Nat
  | 'x' => some 2
  | 'u' => some 4
  | 'U' => some 8
  | _ => none

def readEscape (cs : List Char) : Option (Char × Nat) :=
  match cs with
  | [] => none
  | c :: rest => match simpleEscape? c with
    | some d => some (d, 1)
    | none => match escapeWidth? c with
      | none => none
      | some width =>
        let digits := rest.take width
        let value := Unicode.hexValue digits
        if digits.length = width ∧ digits.all (Unicode.hexDigit? · |>.isSome) ∧ value.isValidChar
        then some (Char.ofNat value, width + 1) else none

/-- The characters of a quoted scalar up to a gap, the closing quote or an escaped line break. Also
tells whether it was such a break. -/
def quotedRun (single : Bool) : Nat → List Char → Place → Option (List Char × Bool × Place)
  | 0, _, _ => none
  | fuel + 1, acc, p => match p.rest with
    | [] => some (acc.reverse, false, p)
    | c :: rest =>
      if isBlank c || isBreak c then some (acc.reverse, false, p)
      else if single then
        if c == '\'' then
          if rest.head? = some '\'' then quotedRun single fuel ('\'' :: acc) (p.advance 2)
          else some (acc.reverse, false, p)
        else quotedRun single fuel (c :: acc) (p.advance 1)
      else if c == '"' then some (acc.reverse, false, p)
      else if c == '\\' then
        if rest.head?.any isBreak then some (acc.reverse, true, (p.advance 1).skipBreak)
        else match readEscape rest with
          | none => none
          | some (d, n) => quotedRun single fuel (d :: acc) (p.advance (n + 1))
      else quotedRun single fuel (c :: acc) (p.advance 1)

def readQuoted (single : Bool) : Nat → List Char → Place → Option (List Char × Place)
  | 0, _, _ => none
  | fuel + 1, acc, p =>
    if p.atMarker || p.rest.isEmpty then none
    else match quotedRun single (p.rest.length + 1) [] p with
      | none => none
      | some (run, escaped, p) =>
        let acc := acc ++ run
        if p.rest.head? = some (if single then '\'' else '"') then some (acc, p.advance 1)
        else match Gap.read 0 (p.rest.length + 1) ⟨escaped, [], [], []⟩ p with
          | none => none
          | some (g, p) => readQuoted single fuel (acc ++ g.text) p

/-! ### Block scalars -/

inductive Chomping where
  | strip
  | clip
  | keep
  deriving DecidableEq, Repr

def chomping? : Char → Option Chomping
  | '+' => some .keep
  | '-' => some .strip
  | _ => none

def readBlockHeader (p : Place) : Option (Chomping × Option Nat × Place) :=
  let digit? (c : Option Char) : Option Nat := c.bind fun c =>
    if c.isDigit then some (c.toNat - '0'.toNat) else none
  let chomp? (c : Option Char) : Option Chomping := c.bind chomping?
  let (chomp, p₁) := match chomp? p.rest.head? with
    | some k => (some k, p.advance 1)
    | none => (none, p)
  let (increment, p₂) := match digit? p₁.rest.head? with
    | some n => (some n, p₁.advance 1)
    | none => (none, p₁)
  let (chomp, p₃) := match chomp, increment, chomp? p₂.rest.head? with
    | none, some _, some k => (some k, p₂.advance 1)
    | k, _, _ => (k, p₂)
  let p₄ := p₃.skipWhile isBlank
  let p₅ := if p₄.rest.head? = some '#' then p₄.skipLine else p₄
  if increment = some 0 ∨ !startsBreak p₅.rest then none
  else some (chomp.getD .clip, increment, p₅.skipBreak)

/-- Skips indentation and empty lines; gives their breaks and the largest column reached. Until the
indentation is known, every space belongs to it. -/
def readBlockBreaks (indent : Option Nat) :
    Nat → List Char → Nat → Place → Option (List Char × Nat × Place)
  | 0, _, _, _ => none
  | fuel + 1, breaks, widest, p =>
    let spaces := (p.rest.takeWhile (· == ' ')).length
    let p := p.advance (match indent with
      | some n => min spaces (n - p.column)
      | none => spaces)
    let widest := max widest p.column
    let inIndent := indent.all (p.column < ·)
    match p.rest with
    | [] => some (breaks, widest, p)
    | c :: _ =>
      if inIndent && c == '\t' then none
      else if isBreak c then
        let (b, p) := p.takeBreak
        readBlockBreaks indent fuel (breaks ++ b) widest p
      else some (breaks, widest, p)

/-- The lines of a block scalar. `acc` is the text read, `leading` the break that ended the last
line, `trailing` the breaks of the empty lines behind it, and `blankBefore` tells whether the last
line began with a blank. -/
def readBlockLines (literal : Bool) (indent : Nat) :
    Nat → List Char → List Char → List Char → Bool → Place →
      Option (List Char × List Char × List Char × Place)
  | 0, _, _, _, _, _ => none
  | fuel + 1, acc, leading, trailing, blankBefore, p =>
    if p.column ≠ indent ∨ p.rest.isEmpty then some (acc, leading, trailing, p)
    else
      let blank := p.rest.head?.any isBlank
      let joint := if !literal && leading.head? = some '\n' && !blankBefore && !blank then
          if trailing.isEmpty then [' '] else []
        else leading
      let (line, p) := p.span (!isBreak ·)
      let acc := acc ++ joint ++ trailing ++ line
      let (leading, p) := p.takeBreak
      match readBlockBreaks (some indent) (p.rest.length + 1) [] 0 p with
      | none => none
      | some (trailing, _, p) => readBlockLines literal indent fuel acc leading trailing blank p

/-- A block scalar from behind its indicator on. `parent` is the column of the collection around it;
a block of no given indentation is as deep as its widest leading line. -/
def readBlock (literal : Bool) (parent : Option Nat) (p : Place) : Option (List Char × Place) :=
  match readBlockHeader p with
  | none => none
  | some (chomp, increment, p) =>
    let given := increment.map fun n => parent.getD 0 + n
    match readBlockBreaks given (p.rest.length + 1) [] 0 p with
    | none => none
    | some (trailing, widest, p) =>
      let indent := given.getD (max widest (max ((parent.map (· + 1)).getD 0) 1))
      match readBlockLines literal indent (p.rest.length + 1) [] [] trailing false p with
      | none => none
      | some (acc, leading, trailing, p) =>
        let acc := if chomp = .strip then acc else acc ++ leading
        some (if chomp = .keep then acc ++ trailing else acc, p)

end Ligature.Yaml
