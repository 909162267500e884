import Ligature.Files.Disk
import Ligature.Journal

/-!
# Transcripts

What a journal comes to on the streams of a program: its output, its complaints, and the lines of
the log that the debug level admits. They go to a file, or else between the complaints.
-/
namespace Ligature

open Files (Disk Path)

structure Transcript where
  level : DebugLevel
  logFile : Option Path
  output : String
  errors : String
  logged : String

namespace Transcript

def empty : Transcript := ⟨.off, none, "", "", ""⟩

def add (t : Transcript) : Event → Transcript
  | .logOpened level file => { t with level, logFile := file }
  | .logged r =>
    if !t.level.admits r then t
    else if t.logFile.isSome then { t with logged := t.logged ++ r.line ++ "\n" }
    else { t with errors := t.errors ++ r.line ++ "\n" }
  | .printed text => { t with output := t.output ++ text }
  | .complained line => { t with errors := t.errors ++ line ++ "\n" }
  | .asked .. => t

def ofJournal (journal : List Event) : Transcript := journal.foldl add empty

def write (t : Transcript) (d : Disk) : Disk :=
  match t.logFile with
  | none => d
  | some p => (d.appendText p t.logged).2

end Transcript

end Ligature
