import Ligature.Unicode.RangeTable

/-!
# What a plain scalar stands for

An unquoted text may be read as nothing, a truth value or a number; every other text stands for
itself. Numbers with leading zeros are texts.
-/
namespace Ligature.Yaml

inductive PlainKind where
  | null
  | bool (b : Bool)
  /-- An integer without sign that fits 64 bits. -/
  | unsigned (n : Nat)
  /-- An integer with a minus sign that fits 64 bits. -/
  | negative (n : Int)
  /-- An integer that fits 128 bits only. -/
  | wide
  | float
  | text
  deriving DecidableEq, Repr

def isNull (cs : List Char) : Bool :=
  cs ∈ ["null".toList, "Null".toList, "NULL".toList, "~".toList]

def bool? (cs : List Char) : Option Bool :=
  if cs ∈ ["true".toList, "True".toList, "TRUE".toList] then some true
  else if cs ∈ ["false".toList, "False".toList, "FALSE".toList] then some false
  else none

def digits? (base : Nat) (cs : List Char) : Option Nat :=
  if cs.isEmpty then none
  else cs.foldlM (fun n c => match Unicode.hexDigit? c with
    | some d => if d < base then some (base * n + d) else none
    | none => none) 0

def splitBase : List Char → Nat × List Char
  | '0' :: 'x' :: rest => (16, rest)
  | '0' :: 'o' :: rest => (8, rest)
  | '0' :: 'b' :: rest => (2, rest)
  | cs => (10, cs)

/-- Digits that are no number because they begin with a zero; a sign does not count. -/
def isZeroPadded (cs : List Char) : Bool :=
  let body := match cs with
    | '-' :: r | '+' :: r => r
    | r => r
  match body with
  | '0' :: d :: rest => (d :: rest).all Char.isDigit
  | _ => false

def unsigned? (cs : List Char) : Option Nat :=
  let body := match cs with
    | '+' :: r => r
    | r => r
  let (base, ds) := splitBase body
  if base = 10 ∧ isZeroPadded cs then none else digits? base ds

def negative? (cs : List Char) : Option Nat :=
  match cs with
  | '-' :: body =>
    let (base, ds) := splitBase body
    if base = 10 ∧ isZeroPadded cs then none else digits? base ds
  | _ => none

def isFinite (mantissa : Nat) (exponent : Int) : Bool :=
  if mantissa = 0 then true
  else
    let magnitude : Int := (Nat.toDigits 10 mantissa).length + exponent
    if magnitude < 300 then true
    else if 310 < magnitude then false
    else
      let limit := Nat.pow 2 1024 - Nat.pow 2 970
      if 0 ≤ exponent then mantissa * Nat.pow 10 exponent.toNat < limit
      else mantissa < limit * Nat.pow 10 (-exponent).toNat

/-- Whether a text without sign is a decimal number, with or without fraction and exponent, that
is finite in 64 bits. -/
def isDecimal (cs : List Char) : Bool :=
  let whole := cs.takeWhile Char.isDigit
  let rest := cs.drop whole.length
  let (fraction, rest) := match rest with
    | '.' :: r => (r.takeWhile Char.isDigit, r.dropWhile Char.isDigit)
    | r => ([], r)
  let exponent? : Option Int := match rest with
    | [] => some 0
    | c :: r =>
      if c = 'e' ∨ c = 'E' then match r with
        | '-' :: ds => (digits? 10 ds).map fun n => -(n : Int)
        | '+' :: ds => (digits? 10 ds).map Int.ofNat
        | ds => (digits? 10 ds).map Int.ofNat
      else none
  match digits? 10 (whole ++ fraction), exponent? with
  | some m, some e => isFinite m (e - fraction.length)
  | _, _ => false

def isFloat (cs : List Char) : Bool :=
  let infinite (cs : List Char) : Bool := cs ∈ [".inf".toList, ".Inf".toList, ".INF".toList]
  match cs with
  | '+' :: body => infinite body || isDecimal body
  | '-' :: body => infinite body || isDecimal body
  | body => infinite body || cs ∈ [".nan".toList, ".NaN".toList, ".NAN".toList] || isDecimal body

/-- The integer that a text stands for, if it fits 128 bits. -/
def integerKind? (cs : List Char) : Option PlainKind :=
  match unsigned? cs, negative? cs with
  | some n, _ =>
    if n < UInt64.size then some (.unsigned n)
    else if n < Nat.pow 2 128 then some .wide else none
  | none, some n =>
    if n ≤ Nat.pow 2 63 then some (.negative (-n))
    else if n ≤ Nat.pow 2 127 then some .wide else none
  | none, none => none

def plainKind (cs : List Char) : PlainKind :=
  if cs.isEmpty || isNull cs then .null
  else match bool? cs, integerKind? cs with
    | some b, _ => .bool b
    | none, some k => k
    | none, none => if !isZeroPadded cs && isFloat cs then .float else .text

end Ligature.Yaml
