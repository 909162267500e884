import Ligature.Unicode.Category
import Ligature.Unicode.Script
import Ligature.Unicode.Property
import Ligature.Unicode.Folding

/-!
# Classes of characters

The classes that reading and matching text need: word characters, blanks, digits, printable
characters, and the classes that a pattern may ask for by name.
-/
namespace Ligature.Unicode

def isSpace (c : Char) : Bool := Property.whiteSpace.contains c

def isDigit (c : Char) : Bool := Category.decimalNumber.contains c

/-- Letters, marks, decimal digits, connector punctuation and the two joiners. -/
def isWord (c : Char) : Bool :=
  Property.alphabetic.contains c || Category.nonspacingMark.contains c ||
  Category.spacingMark.contains c || Category.enclosingMark.contains c || isDigit c ||
  Category.connectorPunctuation.contains c || Property.joinControl.contains c

def wordTables : List RangeTable :=
  [Property.alphabetic.table, Category.nonspacingMark.table, Category.spacingMark.table,
   Category.enclosingMark.table, Category.decimalNumber.table,
   Category.connectorPunctuation.table, Property.joinControl.table]

def isAlphabetic (c : Char) : Bool := Property.alphabetic.contains c

def isAlphanumeric (c : Char) : Bool :=
  isAlphabetic c || isDigit c || Category.letterNumber.contains c || Category.otherNumber.contains c

def isAssigned (c : Char) : Bool := Category.all.any (·.contains c)

/-- Characters with a glyph of their own, and the plain space. -/
def isPrintable (c : Char) : Bool :=
  let unseen : List Category :=
    [.control, .format, .privateUse, .spaceSeparator, .lineSeparator, .paragraphSeparator]
  c == ' ' || (isAssigned c && unseen.all (!·.contains c))

/-- A name without blanks, hyphens, underscores and a leading `is`, in lower case: names of
classes are compared in this form. -/
def looseName (name : String) : String :=
  let cs := name.toList
  let (body, cut) := match cs with
    | a :: b :: r => if a.toLower = 'i' ∧ b.toLower = 's' then (r, true) else (cs, false)
    | _ => (cs, false)
  let kept := (body.filter fun c => c ≠ ' ' ∧ c ≠ '_' ∧ c ≠ '-' ∧ c.toNat < 128).map Char.toLower
  if cut ∧ kept = ['c'] then "isc" else String.ofList kept

def categoryGroup? (key : String) : Option (List Category) :=
  match key with
  | "l" | "letter" => some [.uppercaseLetter, .lowercaseLetter, .titlecaseLetter,
      .modifierLetter, .otherLetter]
  | "lc" | "casedletter" => some [.uppercaseLetter, .lowercaseLetter, .titlecaseLetter]
  | "m" | "mark" | "combiningmark" => some [.nonspacingMark, .spacingMark, .enclosingMark]
  | "n" | "number" => some [.decimalNumber, .letterNumber, .otherNumber]
  | "p" | "punctuation" | "punct" => some [.connectorPunctuation, .dashPunctuation,
      .openPunctuation, .closePunctuation, .initialPunctuation, .finalPunctuation,
      .otherPunctuation]
  | "s" | "symbol" => some [.mathSymbol, .currencySymbol, .modifierSymbol, .otherSymbol]
  | "z" | "separator" => some [.spaceSeparator, .lineSeparator, .paragraphSeparator]
  | "digit" => some [.decimalNumber]
  | "cntrl" => some [.control]
  | _ => (Category.all.find? fun k => k.names.1 == key || k.names.2 == key).map fun k => [k]

end Ligature.Unicode
