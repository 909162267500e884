import Ligature.Text.Split

/-!
# Paths

Names of files as they are written: names between slashes. What counts of a path is what it
leads to, but a path is shown, and its last name is changed, on its text.
-/
namespace Ligature.Files

structure Path where
  chars : List Char
  deriving DecidableEq, Repr

namespace Path

def ofString (s : String) : Path := ⟨s.toList⟩

def toString (p : Path) : String := String.ofList p.chars

instance : ToString Path := ⟨toString⟩

@[simp] theorem toString_ofString (s : String) : (ofString s).toString = s := by
  simp [ofString, toString]

/-- The names that lead from a directory to what the path names; between two slashes next to each
other there is none. -/
def names (p : Path) : List String := ((Text.splitOn '/' p.chars).filter (· ≠ [])).map String.ofList

def endsInSlash (p : Path) : Bool := p.chars.getLast? == some '/'

/-- The names of the path; a slash at its end stands for one more, which a directory alone has. -/
def way (p : Path) : List String := if p.endsInSlash then p.names ++ ["."] else p.names

def isAbsolute (p : Path) : Bool := p.chars.head? == some '/'

/-! ### The last name -/

/-- Leaves out the slashes and the single dots at the end of a reversed text: they lead nowhere
else. A dot that is the whole text stays. -/
def dropTrail : List Char → List Char
  | '/' :: r => dropTrail r
  | '.' :: '/' :: r => dropTrail r
  | cs => cs

def splitLast (p : Path) : List Char × List Char :=
  let body := dropTrail p.chars.reverse
  ((body.dropWhile (· ≠ '/')).reverse, (body.takeWhile (· ≠ '/')).reverse)

def fileName? (p : Path) : Option (List Char) :=
  let name := p.splitLast.2
  if name = [] ∨ name = ['.'] ∨ name = ['.', '.'] then none else some name

/-- The directory that holds what the path names. The empty path and the root have none. -/
def parent? (p : Path) : Option Path :=
  let (front, name) := p.splitLast
  if name = [] then none
  else
    let front' := (dropTrail front.reverse).reverse
    some ⟨if front' = [] then front.take 1 else front'⟩

def join (p : Path) (name : String) : Path :=
  if p.chars = [] ∨ p.endsInSlash then ⟨p.chars ++ name.toList⟩
  else ⟨p.chars ++ '/' :: name.toList⟩

/-- A name without what follows its last dot; a dot at the start is part of the name. -/
def stem (name : List Char) : List Char :=
  let front := name.reverse.dropWhile (· ≠ '.')
  if front.length ≤ 1 then name else front.tail.reverse

/-- The path in the same directory whose last name has the extension instead of its own. A path
without a file's name stays as it is. -/
def withExtension (p : Path) (extension : String) : Path :=
  match p.fileName? with
  | none => p
  | some name => ⟨p.splitLast.1 ++ stem name ++ '.' :: extension.toList⟩

end Path

end Ligature.Files
