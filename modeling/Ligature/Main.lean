import Ligature.Program

/-!
# The command

The program on a real machine: files are those of the system, and the log is written as it grows,
each line with the time on the machine's clock.
-/
namespace Ligature

open Files (Path)

abbrev Terminal := StateT (DebugLevel × Option Path) IO

namespace Terminal

def cause : IO.Error → FileError
  | .noFileOrDirectory .. => .notFound
  | .alreadyExists .. => .exists
  | .resourceBusy .. => .busy
  | .inappropriateType _ 20 _ => .notDirectory
  | .inappropriateType _ 21 _ => .isDirectory
  | .invalidArgument _ 36 _ => .nameTooLong
  | .invalidArgument _ 40 _ => .tooManyLinks
  | .resourceExhausted _ 28 _ => .noSpace
  | e => .other (toString e)

def attempt {α : Type} (x : IO α) : Terminal (Except FileError α) := do
  match ← x.toBaseIO with
  | .ok a => pure (.ok a)
  | .error e => pure (.error (cause e))

def clock : IO String := do
  let micros := (← IO.monoNanosNow) / 1000
  let seconds := micros / 1000000
  let fraction := toString (micros % 1000000)
  let zeros := String.ofList (List.replicate (6 - fraction.length) '0')
  pure s!"{seconds}.{zeros}{fraction}"

/-- Writes a line of the log where the log goes. What cannot be written is dropped. -/
def writeRecord (r : Record) : Terminal Unit := do
  let (level, file) ← get
  if level.admits r then
    let time ← clock
    let line := "[" ++ time ++ "] " ++ r.line ++ "\n"
    let write : IO Unit := match file with
      | none => IO.eprint line
      | some p => IO.FS.withFile ⟨p.toString⟩ .append fun h => h.putStr line
    let _ ← attempt write

instance : Host Terminal where
  note
    | .logged r => writeRecord r
    | .logOpened level file => set (level, file)
    | .printed text => IO.print text
    | .complained line => IO.eprintln line
    | .asked .. => pure ()
  contains p := do
    let found ← attempt (do (← IO.FS.realPath ⟨p.toString⟩).pathExists)
    pure (match found with
      | .ok b => b
      | .error _ => false)
  readText p := do
    match ← attempt (IO.FS.readBinFile ⟨p.toString⟩) with
    | .error e => pure (.error e)
    | .ok bytes => pure (match String.fromUTF8? bytes with
      | some text => .ok text
      | none => .error .notText)
  writeText p text := attempt (IO.FS.writeFile ⟨p.toString⟩ text)
  createFile p := attempt (IO.FS.withFile ⟨p.toString⟩ .append fun _ => pure ())
  rename source target := attempt (IO.FS.rename ⟨source.toString⟩ ⟨target.toString⟩)
  makeDirectories p := attempt (IO.FS.createDirAll ⟨p.toString⟩)

end Terminal

end Ligature

def main (arguments : List String) : IO UInt32 := do
  let home := (← IO.getEnv "HOME").getD "."
  let debugLevel ← IO.getEnv "DEBUG_LEVEL"
  let logFile ← IO.getEnv "PAR_LIGATURE_LOG_FILE"
  let env : Ligature.Program.Environment :=
    ⟨.ofString home, debugLevel, logFile.map .ofString⟩
  let code ← (Ligature.Program.start (m := Ligature.Terminal) env arguments).run' (.off, none)
  pure code.toUInt32
