import Ligature.Files.Error
import Ligature.Files.Path

/-!
# Disks

Directories, files and symbolic links, and the operations on them that the program needs. A file can
have several names; what is written to it is read under each of them. An operation on a path first
locates it. It gives a new disk, or an error, and then the disk is as it was, with two exceptions:
the making of several directories can stop half way, and so can the writing of a text.

Permissions are left out, and so are entries of other kinds, further names of links, and other disks
that are mounted on the way. Nothing else changes the disk in the meantime.
-/
namespace Ligature.Files

/-- A place on a disk: its name, the name of its directory, and so on up to the root, which is
the empty list. -/
abbrev Location := List String

/-- What has a name on a disk. Names of one file have its number. -/
inductive Item where
  | directory
  | file (number : Nat)
  | link (target : Path)
  deriving DecidableEq, Repr

def Item.isFile : Item → Bool
  | .file _ => true
  | _ => false

/-- What is found at a location; a file has a text if its content is text. -/
inductive Entry where
  | directory
  | file (number : Nat) (text : Option String)
  | link (target : Path)
  deriving DecidableEq, Repr

structure Disk where
  items : List (Location × Item)
  /-- The texts of the files whose content is text, by their numbers. -/
  texts : List (Nat × String)
  /-- How many bytes a file can take, if not any number, and the error of a write that goes on. -/
  limit : Option (Nat × FileError)
  deriving DecidableEq, Repr

/-- The longest path, in bytes, that is looked up. -/
def pathLimit : Nat := 4095

def Path.check (p : Path) : Except FileError Unit :=
  if p.chars.contains '\x00' then .error .nulInPath
  else if pathLimit < p.toString.utf8ByteSize then .error .nameTooLong
  else .ok ()

def firstBytes : Nat → List Char → Option (List Char)
  | _, [] => some []
  | n, c :: cs =>
    if n = 0 then some []
    else if c.utf8Size ≤ n then (firstBytes (n - c.utf8Size) cs).map (c :: ·)
    else none

section Lookup

variable {α β : Type} [BEq α] [LawfulBEq α] [DecidableEq α]

theorem lookup_filter_ne {k l : α} (h : k ≠ l) (es : List (α × β)) :
    (es.filter (·.1 ≠ l)).lookup k = es.lookup k := by
  induction es with
  | nil => rfl
  | cons e es ih =>
    obtain ⟨l', e⟩ := e
    by_cases hl : l' = l
    · have hk : (k == l') = false := beq_eq_false_iff_ne.2 (hl ▸ h)
      rw [List.filter_cons_of_neg (by simpa using hl), List.lookup_cons, hk]
      exact ih
    · rw [List.filter_cons_of_pos (by simpa using hl), List.lookup_cons, List.lookup_cons, ih]

theorem lookup_filter_self (l : α) (es : List (α × β)) :
    (es.filter (·.1 ≠ l)).lookup l = none := by
  induction es with
  | nil => rfl
  | cons e es ih =>
    obtain ⟨l', e⟩ := e
    by_cases hl : l' = l
    · rw [List.filter_cons_of_neg (by simpa using hl)]
      exact ih
    · have hk : (l == l') = false := beq_eq_false_iff_ne.2 (Ne.symm hl)
      rw [List.filter_cons_of_pos (by simpa using hl), List.lookup_cons, hk]
      exact ih

end Lookup

namespace Disk

/-! ### Entries -/

def item? (d : Disk) (l : Location) : Option Item :=
  if l = [] then some .directory else d.items.lookup l

def entry (d : Disk) : Item → Entry
  | .directory => .directory
  | .file number => .file number (d.texts.lookup number)
  | .link target => .link target

def get? (d : Disk) (l : Location) : Option Entry := (d.item? l).map d.entry

def put (d : Disk) (l : Location) (i : Item) : Disk :=
  { d with items := (l, i) :: d.items.filter (·.1 ≠ l) }

def erase (d : Disk) (l : Location) : Disk := { d with items := d.items.filter (·.1 ≠ l) }

def setText (d : Disk) (number : Nat) (text : Option String) : Disk :=
  let others := d.texts.filter (·.1 ≠ number)
  { d with texts := match text with
      | none => others
      | some text => (number, text) :: others }

def unused (d : Disk) : Nat :=
  d.items.foldr (fun x n => match x.2 with
    | .file number => max (number + 1) n
    | _ => n) 0

def fill (d : Disk) (l : Location) (text : Option String) : Disk :=
  match d.item? l with
  | some (.file number) => d.setText number text
  | _ => (d.put l (.file d.unused)).setText d.unused text

/-- What a file comes to that holds one text when another one is added to it, and how that goes. -/
def add (d : Disk) (before text : String) : Except FileError Unit × Option String :=
  match d.limit with
  | none => (.ok (), some (before ++ text))
  | some (bytes, e) =>
    let room := bytes - before.utf8ByteSize
    if text.utf8ByteSize ≤ room then (.ok (), some (before ++ text))
    else (.error e, (firstBytes room text.toList).map fun cs => before ++ String.ofList cs)

section Entries

variable {d : Disk} {k l : Location} {number : Nat}

theorem get?_put_self (h : l ≠ []) (d : Disk) (i : Item) : (d.put l i).get? l = some (d.entry i) := by
  simp only [get?, item?, put, if_neg h, List.lookup_cons_self]
  rfl

theorem get?_put_of_ne (h : k ≠ l) (d : Disk) (i : Item) : (d.put l i).get? k = d.get? k := by
  have hk : (k == l) = false := beq_eq_false_iff_ne.2 h
  simp only [get?, item?, put, List.lookup_cons, hk, lookup_filter_ne h]
  rfl

theorem get?_erase_self (h : l ≠ []) (d : Disk) : (d.erase l).get? l = none := by
  simp only [get?, item?, erase, if_neg h, lookup_filter_self, Option.map_none]

theorem get?_erase_of_ne (h : k ≠ l) (d : Disk) : (d.erase l).get? k = d.get? k := by
  simp only [get?, item?, erase, lookup_filter_ne h]
  rfl

theorem lt_unused (named : d.item? l = some (.file number)) : number < d.unused := by
  have listed : (l, .file number) ∈ d.items := by
    rw [item?] at named
    split at named
    · cases named
    · obtain ⟨before, behind, split, -⟩ := List.lookup_eq_some_iff.mp named
      simp [split]
  unfold unused
  generalize d.items = items at listed
  induction items with
  | nil => cases listed
  | cons x items ih =>
    rw [List.foldr_cons]
    rcases List.mem_cons.mp listed with rfl | listed
    · exact Nat.lt_of_lt_of_le (Nat.lt_succ_self number) (Nat.le_max_left ..)
    · have below := ih listed
      split
      · exact Nat.lt_of_lt_of_le below (Nat.le_max_right ..)
      · exact below

end Entries

/-! ### Paths on a disk -/

def nameLimit : Nat := 255

def linkLimit : Nat := 40

/-- The location that a name leads to; a link there is not followed. -/
def step (d : Disk) (l : Location) (name : String) : Except FileError Location :=
  match d.get? l with
  | none => .error .notFound
  | some .directory =>
    if name = "." then .ok l
    else if name = ".." then .ok l.tail
    else if nameLimit < name.utf8ByteSize then .error .nameTooLong
    else .ok (name :: l)
  | some _ => .error .notDirectory

def linkStart (target : Path) (l : Location) : Location :=
  if target.isAbsolute then [] else l.tail

/-- Follows names as far as the first link. From there `follow` goes on, with the names of the link
before those that are left. -/
def walkWith (d : Disk) (follow : Location → List String → Except FileError Location)
    (l : Location) : List String → Except FileError Location
  | [] => .ok l
  | name :: names =>
    match d.step l name with
    | .error e => .error e
    | .ok k =>
      match d.get? k with
      | some (.link target) => follow (linkStart target k) (target.way ++ names)
      | _ => d.walkWith follow k names

/-- The location that names lead to, with so many links followed at most. Everything on the way is a
directory; what the names lead to need not be there. -/
def walk (d : Disk) : Nat → Location → List String → Except FileError Location
  | 0 => d.walkWith fun _ _ => .error .tooManyLinks
  | n + 1 => d.walkWith (d.walk n)

def walkTo (d : Disk) (names : List String) (name : String) : Except FileError Location := do
  d.step (← d.walk linkLimit [] names) name

def locate (d : Disk) (p : Path) : Except FileError Location := do
  p.check
  if p.chars = [] then .error .notFound else d.walk linkLimit [] p.names

def locateName (d : Disk) (p : Path) : Except FileError Location := do
  p.check
  if p.chars = [] then .error .notFound
  else match p.names.getLast? with
    | none => .ok []
    | some name => d.walkTo p.names.dropLast name

def find (d : Disk) (p : Path) : Except FileError Entry := do
  match d.get? (← d.locate p) with
  | none => .error .notFound
  | some e => if p.endsInSlash ∧ e ≠ .directory then .error .notDirectory else .ok e

/-! ### Operations -/

def contains (d : Disk) (p : Path) : Bool := (d.find p).isOk

def readText (d : Disk) (p : Path) : Except FileError String := do
  match ← d.find p with
  | .directory => .error .isDirectory
  | .file _ none => .error .notText
  | .file _ (some text) => .ok text
  | .link _ => .error .tooManyLinks

def locateFile (d : Disk) (p : Path) : Except FileError Location := do
  let l ← d.locate p
  if d.get? l = some .directory ∨ p.endsInSlash then .error .isDirectory else .ok l

/-- Puts a text in a file. What fits of the text is in the file when the rest does not. -/
def writeText (d : Disk) (p : Path) (text : String) : Except FileError Unit × Disk :=
  match d.locateFile p with
  | .error e => (.error e, d)
  | .ok l =>
    let (result, content) := d.add "" text
    (result, d.fill l content)

def createFile (d : Disk) (p : Path) : Except FileError Disk := do
  let l ← d.locateFile p
  .ok (if (d.get? l).isSome then d else d.fill l (some ""))

def appendText (d : Disk) (p : Path) (text : String) : Except FileError Unit × Disk :=
  match d.locateFile p with
  | .error e => (.error e, d)
  | .ok l =>
    match d.get? l with
    | some (.file _ none) => (.ok (), d)
    | some (.file _ (some before)) =>
      let (result, content) := d.add before text
      (result, d.fill l content)
    | _ =>
      let (result, content) := d.add "" text
      (result, d.fill l content)

def locateTarget (d : Disk) (p : Path) : Except FileError Location := do
  let l ← d.locateName p
  if p.names.getLast?.all fun name => name = "." ∨ name = ".." then .error .busy
  else if p.endsInSlash then .error .notDirectory
  else if d.get? l = some .directory then .error .isDirectory
  else .ok l

/-- Moves a file or a link to another path, where it takes the place of the one that is there.
Between two names of one file nothing is moved. -/
def rename (d : Disk) (source target : Path) : Except FileError Disk := do
  let l ← d.locateName source
  match d.item? l with
  | none => .error .notFound
  | some .directory => .error .isDirectory
  | some i =>
    if source.endsInSlash then .error .notDirectory
    else
      let l' ← d.locateTarget target
      .ok (if i.isFile ∧ d.item? l' = some i then d else (d.erase l).put l' i)

def makeDirectory (d : Disk) (names : List String) (name : String) : Except FileError Disk := do
  let l ← d.walkTo names name
  if (d.get? l).isSome then .error .exists else .ok (d.put l .directory)

def isDirectory (d : Disk) (names : List String) : Bool :=
  match d.walk linkLimit [] names with
  | .ok l => d.get? l = some .directory
  | .error _ => false

def ensureDirectory (d : Disk) (names : List String) (name : String) :
    Except FileError Unit × Disk :=
  match d.makeDirectory names name with
  | .ok d' => (.ok (), d')
  | .error e => (if d.isDirectory (names ++ [name]) then .ok () else .error e, d)

/-- Makes the directory that the names lead to, which are given from the last one on, and before it
the one that it is in if that is missing. -/
def makeDirectoriesTo (d : Disk) : List String → Except FileError Unit × Disk
  | [] => (.ok (), d)
  | name :: names =>
    match d.ensureDirectory names.reverse name with
    | (.error .notFound, _) =>
      match d.makeDirectoriesTo names with
      | (.ok (), d') => d'.ensureDirectory names.reverse name
      | failed => failed
    | result => result

/-- Makes a directory and, where they are missing, the directories that it is in. On failure the
directories that were made stay. -/
def makeDirectories (d : Disk) (p : Path) : Except FileError Unit × Disk :=
  match p.check with
  | .error e => (.error e, d)
  | .ok () => d.makeDirectoriesTo p.names.reverse

end Disk

end Ligature.Files
