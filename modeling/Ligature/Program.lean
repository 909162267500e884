import Ligature.CommandLine
import Ligature.Config.Store
import Ligature.Dispatch.Report
import Ligature.Log.Choice
import Ligature.Session

/-!
# The program

Commands over the configured ligatures: print the table of a mode, print the ligatures of a text,
or report the sets that are refused.
-/
namespace Ligature

open Files (Path)

def SetFailure.line (f : SetFailure) : String :=
  let index := f.index
  let selector := f.selector.display
  let cause := f.error.message
  s!"ligature set #{index} ({selector}): {cause}"

def Command.answer (s : Session) : Command → Traced (Except (List SetFailure) String)
  | .show mode => do
    let (table?, _) ← s.tableFor mode
    pure (.ok (match table? with
      | some table => Dispatch.formatTable table.value
      | none => s!"mode '{mode}' is ignored\n"))
  | .scan mode text => do
    let (matcher?, _) ← s.matcherFor mode
    pure (.ok (match matcher? with
      | some matcher => String.ofList (Dispatch.formatSpans (matcher.scan text.toList))
      | none => s!"mode '{mode}' is ignored\n"))
  | .check =>
    let count := s.tables.registry.size
    pure (if s.failures.isEmpty then .ok s!"ok: {count} ligature sets registered\n"
      else .error s.failures)

namespace Program

inductive Failure where
  | store (e : StoreError)
  | refused (sets : List SetFailure)
  deriving DecidableEq, Repr

def Failure.message : Failure → String
  | .store e => e.message
  | .refused sets =>
    let count := sets.length
    s!"{count} invalid ligature sets\n" ++ "\n".intercalate (sets.map SetFailure.line)

variable {m : Type → Type} [Monad m] [Host m]

def run (home : Path) (i : Invocation) : ExceptT Failure m String := do
  let c ← .mk (Except.mapError .store <$> (match i.config with
    | some p => Config.loadFrom p
    | none => Config.load home : ExceptT StoreError m Config).run)
  .mk (Except.mapError .refused <$> Host.perform (do
    let s ← Session.start c
    i.command.answer s))

structure Environment where
  home : Path
  debugLevel : Option String
  logFile : Option Path

/-- Opens the log, in a file where that is asked for and possible. -/
def openLog (level : DebugLevel) (file : Option Path) : m Unit := do
  match file with
  | none => Host.note (.logOpened level none)
  | some p =>
    match ← Host.createFile p with
    | .ok () => Host.note (.logOpened level (some p))
    | .error e =>
      let cause := e.message
      Host.note (.complained s!"par-ligature: cannot open log file {p}: {cause}")
      Host.note (.logOpened level none)

def start (env : Environment) (words : List String) : m Nat := do
  match CommandLine.read words with
  | .error r =>
    Host.note (if r.isAnswer then .printed r.text else .complained r.text)
    pure r.exitCode
  | .ok i =>
    openLog (.choose i.logLevel env.debugLevel) env.logFile
    Host.log .info .program "Starting par-ligature"
    match ← (run (m := m) env.home i).run with
    | .ok output =>
      Host.note (.printed output)
      pure 0
    | .error e =>
      let cause := e.message
      Host.note (.complained s!"par-ligature: error: {cause}")
      pure 1

end Program

end Ligature
