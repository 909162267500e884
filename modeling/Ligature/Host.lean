import Ligature.Files.Disk
import Ligature.Journal

/-!
# Hosts

What the program asks of the machine it runs on. The program is written for every host, and
`Machine` is the host to reason with: a disk, and a journal of what was done.
-/
namespace Ligature

open Files (Disk Path)

class Host (m : Type → Type) where
  note : Event → m Unit
  contains : Path → m Bool
  readText : Path → m (Except FileError String)
  writeText : Path → String → m (Except FileError Unit)
  /-- Makes sure that there is a file that can be written to. -/
  createFile : Path → m (Except FileError Unit)
  rename : Path → Path → m (Except FileError Unit)
  makeDirectories : Path → m (Except FileError Unit)

namespace Host

variable {m : Type → Type} [Host m]

def log (level : Level) (channel : Channel) (message : String) : m Unit :=
  note (.logged ⟨level, channel, message⟩)

def perform {α : Type} [Monad m] (t : Traced α) : m α := do
  t.journal.forM note
  pure t.value

end Host

abbrev Machine := StateT Disk Traced

namespace Machine

def change (f : Disk → Except FileError Disk) : Machine (Except FileError Unit) := fun d =>
  match f d with
  | .ok d => pure (.ok (), d)
  | .error e => pure (.error e, d)

instance : Host Machine where
  note e := fun d => do
    Traced.note e
    pure ((), d)
  contains p := fun d => pure (d.contains p, d)
  readText p := fun d => pure (d.readText p, d)
  writeText p text := fun d => pure (d.writeText p text)
  createFile p := change (·.createFile p)
  rename source target := change (·.rename source target)
  makeDirectories p := fun d => pure (d.makeDirectories p)

end Machine

end Ligature
