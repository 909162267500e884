import Ligature.Files.Path

/-!
# Command lines

The words of a command line, read one at a time: a command, its options, and the options that may
stand before or behind the name of any command. The value of an option is looked at only when the
next option or operand comes, or the command ends, so a word that is not understood is reported
before a wrong value in front of it.
-/
namespace Ligature

open Files (Path)

inductive Command where
  | show (mode : String)
  | scan (mode text : String)
  | check
  deriving DecidableEq, Repr

structure Invocation where
  command : Command
  config : Option Path
  logLevel : Option Nat
  deriving DecidableEq, Repr

namespace CommandLine

inductive Refusal where
  | help
  | version
  | nothingGiven
  | unknownCommand
  | missingCommand
  | unknownWord
  | missingWord
  | givenTwice
  | noValue
  | needlessValue
  | badLevel
  deriving DecidableEq, Repr

def Refusal.isAnswer : Refusal → Bool
  | .help | .version => true
  | _ => false

def Refusal.exitCode (r : Refusal) : Nat := if r.isAnswer then 0 else 2

inductive CommandName where
  | show
  | scan
  | check
  deriving DecidableEq, Repr

def commandName? : String → Option CommandName
  | "show" => some .show
  | "scan" => some .scan
  | "check" => some .check
  | _ => none

def namesCommand (word : String) : Bool := word = "help" || (commandName? word).isSome

inductive OptionName where
  | config
  | logLevel
  | mode
  deriving DecidableEq, Repr

def optionName? : Option CommandName → String → Option OptionName
  | _, "config" => some .config
  | _, "log-level" => some .logLevel
  | some .show, "mode" | some .scan, "mode" => some .mode
  | _, _ => none

/-! ### Words -/

inductive Word where
  /-- The word behind which all words are operands. -/
  | separator
  | long (name : String) (value : Option String)
  | short (letter : Char)
  | plain
  deriving DecidableEq, Repr

def Word.ofString (word : String) : Word :=
  match word.toList with
  | ['-', '-'] => .separator
  | '-' :: '-' :: body =>
    .long (String.ofList (body.takeWhile (· ≠ '=')))
      (match body.dropWhile (· ≠ '=') with
        | [] => none
        | _ :: value => some (String.ofList value))
  | '-' :: letter :: _ => .short letter
  | _ => .plain

/-- The number of a debug level: digits with an optional sign, from 0 to 4. -/
def readLevel? (value : String) : Option Nat :=
  let (digits, negative) := match value.toList with
    | '+' :: r => (r, false)
    | '-' :: r => (r, true)
    | r => (r, false)
  if digits.isEmpty ∨ !digits.all Char.isDigit then none
  else
    let n := digits.foldl (fun n c => 10 * n + (c.toNat - '0'.toNat)) 0
    if n = 0 ∨ n ≤ 4 ∧ !negative then some n else none

/-! ### One command -/

structure Given where
  config : Option String
  logLevel : Option Nat
  mode : Option String
  text : Option String
  deriving DecidableEq, Repr

namespace Given

def empty : Given := ⟨none, none, none, none⟩

def set (g : Given) (o : OptionName) (value : String) : Except Refusal Given :=
  match o with
  | .config =>
    if g.config.isSome then .error .givenTwice
    else if value = "" then .error .noValue
    else .ok { g with config := some value }
  | .logLevel =>
    if g.logLevel.isSome then .error .givenTwice
    else match readLevel? value with
      | none => .error .badLevel
      | some n => .ok { g with logLevel := some n }
  | .mode =>
    if g.mode.isSome then .error .givenTwice else .ok { g with mode := some value }

def command (g : Given) : CommandName → Except Refusal Command
  | .show => match g.mode with
    | some mode => .ok (.show mode)
    | none => .error .missingWord
  | .scan => match g.mode, g.text with
    | some mode, some text => .ok (.scan mode text)
    | _, _ => .error .missingWord
  | .check => .ok .check

end Given

structure Reading where
  given : Given
  /-- An option whose value is to come, or is still to be looked at. -/
  pending : Option (OptionName × Option String)
  separated : Bool
  deriving DecidableEq, Repr

namespace Reading

def start : Reading := ⟨.empty, none, false⟩

/-- Whether the next word is the value of an option, unless it has hyphens. -/
def awaitsValue (r : Reading) : Bool := r.pending.any (·.2.isNone)

def settle (r : Reading) : Except Refusal Reading := do
  match r.pending with
  | none => .ok r
  | some (_, none) => .error .noValue
  | some (o, some value) => .ok { r with given := ← r.given.set o value, pending := none }

/-- Takes a word that is neither an option nor a value. Only a scan has such an operand. -/
def takeOperand (r : Reading) (name : Option CommandName) (word : String) :
    Except Refusal Reading := do
  match name with
  | none => .error (if r.separated && namesCommand word then .unknownWord else .unknownCommand)
  | some .scan =>
    if r.given.text.isSome then .error .unknownWord
    else
      let r ← r.settle
      .ok { r with given := { r.given with text := some word } }
  | some _ => .error .unknownWord

def takeLong (r : Reading) (name : Option CommandName) (option : String)
    (value : Option String) : Except Refusal Reading := do
  let asked : Option Refusal := match name, option with
    | _, "help" => some .help
    | none, "version" => some .version
    | _, _ => none
  match asked with
  | some answer =>
    if value.isSome then .error .needlessValue
    else
      let _ ← r.settle
      .error answer
  | none =>
    match optionName? name option with
    | none => .error .unknownWord
    | some o =>
      let r ← r.settle
      match value with
      | some value => .ok { r with given := ← r.given.set o value }
      | none => .ok { r with pending := some (o, none) }

def takeShort (r : Reading) (name : Option CommandName) (letter : Char) :
    Except Refusal Reading := do
  match name, letter with
  | _, 'h' =>
    let _ ← r.settle
    .error .help
  | none, 'V' =>
    let _ ← r.settle
    .error .version
  | _, _ => .error .unknownWord

def take (r : Reading) (name : Option CommandName) (word : String) : Except Refusal Reading :=
  if r.separated then r.takeOperand name word
  else match Word.ofString word with
    | .separator => .ok { r with separated := true }
    | .long option value => r.takeLong name option value
    | .short letter => r.takeShort name letter
    | .plain => match r.pending with
      | some (o, none) => .ok { r with pending := some (o, some word) }
      | _ => r.takeOperand name word

def takeCommand (name : CommandName) (words : List String) :
    Except Refusal (Given × Command) := do
  let r ← words.foldlM (fun r word => r.take (some name) word) start
  let r ← r.settle
  .ok (r.given, ← r.given.command name)

end Reading

def helpOn : List String → Refusal
  | [] => .help
  | [word] => if namesCommand word then .help else .unknownCommand
  | _ => .unknownCommand

/-- Reads the words from the first command on; `r` are those in front of it. What is given behind
a command counts for more than what is given in front of it. -/
def readFrom (r : Reading) : List String → Except Refusal Invocation
  | [] => do
    let r ← r.settle
    .error (if r.given = .empty then .nothingGiven else .missingCommand)
  | word :: rest =>
    if r.separated || r.awaitsValue then do
      readFrom (← r.take none word) rest
    else if word = "help" then .error (helpOn rest)
    else match commandName? word with
      | none => do readFrom (← r.take none word) rest
      | some name => do
        let (inner, command) ← Reading.takeCommand name rest
        let r ← r.settle
        .ok ⟨command, (inner.config.or r.given.config).map .ofString,
          inner.logLevel.or r.given.logLevel⟩

def read (words : List String) : Except Refusal Invocation := readFrom .start words

/-! ### Texts -/

def versionText : String := "par-ligature 0.1.0\n"

def helpText : String :=
  "ligature dispatch table inspector\n\n" ++
  "Usage: par-ligature [OPTIONS] <COMMAND>\n\n" ++
  "Commands:\n" ++
  "  show --mode <MODE>         Print the ligature dispatch table resolved for a mode\n" ++
  "  scan --mode <MODE> <TEXT>  Print the ligature spans found in a line of text\n" ++
  "  check                      Load the config and report ligature sets that fail to register\n" ++
  "  help                       Print this message\n\n" ++
  "Options:\n" ++
  "      --config <PATH>      Config file to use instead of ~/.config/par-ligature/ligatures.yaml\n" ++
  "      --log-level <LEVEL>  Log level 0-4 (overrides DEBUG_LEVEL)\n" ++
  "  -h, --help               Print help\n" ++
  "  -V, --version            Print version\n"

def Refusal.text : Refusal → String
  | .help | .nothingGiven => helpText
  | .version => versionText
  | .unknownCommand => "error: unrecognized command\n\n" ++ helpText
  | .missingCommand => "error: a command is required\n\n" ++ helpText
  | .unknownWord => "error: unexpected argument\n\n" ++ helpText
  | .missingWord => "error: a required argument is missing\n\n" ++ helpText
  | .givenTwice => "error: an option cannot be used more than once\n\n" ++ helpText
  | .noValue => "error: an option needs a value\n\n" ++ helpText
  | .needlessValue => "error: an option takes no value\n\n" ++ helpText
  | .badLevel => "error: the log level is a number from 0 to 4\n\n" ++ helpText

end CommandLine

end Ligature
