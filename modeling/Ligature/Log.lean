/-!
# The log

Lines of the log, and which of them a debug level admits. Each level admits the records of all the
levels below it.
-/
namespace Ligature

inductive Level where
  | error
  | warn
  | info
  | debug
  | trace
  deriving DecidableEq, Repr

inductive Channel where
  | program
  | config
  | hierarchy
  | generator
  | tables
  | dispatch
  | runtime
  deriving DecidableEq, Repr

structure Record where
  level : Level
  channel : Channel
  message : String
  deriving DecidableEq, Repr

inductive DebugLevel where
  | off
  | error
  | info
  | debug
  | trace
  deriving DecidableEq, Repr

namespace DebugLevel

def number : DebugLevel → Nat
  | .off => 0
  | .error => 1
  | .info => 2
  | .debug => 3
  | .trace => 4

/-- The level of a number; everything from 4 on is the highest. -/
def ofNumber : Nat → DebugLevel
  | 0 => .off
  | 1 => .error
  | 2 => .info
  | 3 => .debug
  | _ => .trace

@[simp] theorem ofNumber_number (l : DebugLevel) : ofNumber l.number = l := by
  cases l <;> rfl

end DebugLevel

def DebugLevel.threshold : DebugLevel → Option Level
  | .off => none
  | .error => some .warn
  | .info => some .info
  | .debug => some .debug
  | .trace => some .trace

namespace Level

def rank : Level → Nat
  | .error => 1
  | .warn => 2
  | .info => 3
  | .debug => 4
  | .trace => 5

def label : Level → String
  | .error => "ERROR"
  | .warn => "WARN "
  | .info => "INFO "
  | .debug => "DEBUG"
  | .trace => "TRACE"

end Level

def Channel.label : Channel → String
  | .program => "par_ligature"
  | .config => "par_ligature_config::config"
  | .hierarchy => "par_ligature_rules::hierarchy"
  | .generator => "par_ligature_rules::generator"
  | .tables => "par_ligature_rules::tables"
  | .dispatch => "par_ligature::dispatch"
  | .runtime => "par_ligature::runtime"

def DebugLevel.admits (l : DebugLevel) (r : Record) : Bool :=
  l.threshold.any fun t => r.level.rank ≤ t.rank

/-- A line of the log, without the time. -/
def Record.line (r : Record) : String :=
  "[" ++ r.level.label ++ "] [" ++ r.channel.label ++ "] " ++ r.message

end Ligature
