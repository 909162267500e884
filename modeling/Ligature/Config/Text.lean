import Ligature.Config.Reader
import Ligature.Files.Error
import Ligature.Yaml.Printer

/-!
# Configurations as text

The YAML text of a configuration, and the configuration of a YAML text, which has to be valid.
-/
namespace Ligature

open Rules (PatternExpr)
open Yaml (Tree)

inductive ConfigError where
  | io (cause : FileError)
  | parse
  | validation (cause : Config.Invalid)
  deriving DecidableEq, Repr

/-- One text for whatever a YAML reader has to say against a text: which fault it finds and where is
left out. -/
def parseErrorText : String := "the text is not a configuration"

def ConfigError.message : ConfigError → String
  | .io cause => "I/O error reading config: " ++ cause.message
  | .parse => "YAML parse error in config: " ++ parseErrorText
  | .validation cause => "Config validation error: " ++ cause.message

namespace Config

/-! ### Trees -/

mutual

def exprTree : PatternExpr → Tree
  | .str s => .mapping [("str", .text s)]
  | .chars cs => .mapping [("chars", .sequence (cs.map fun c => .quoted (String.singleton c)))]
  | .or es => .mapping [("or", .sequence (exprTrees es))]
  | .seq es => .mapping [("seq", .sequence (exprTrees es))]
  | .optional e => .mapping [("optional", exprTree e)]
  | .zeroOrMore e => .mapping [("zero_or_more", exprTree e)]
  | .oneOrMore e => .mapping [("one_or_more", exprTree e)]
  | .repeat e min max => .mapping [("repeat", .mapping [("expr", exprTree e),
      ("min", .number min.toNat),
      ("max", match max with
        | none => .null
        | some max => .number max.toNat)])]
  | .regex s => .mapping [("regex", .text s)]

def exprTrees : List PatternExpr → List Tree
  | [] => []
  | e :: es => exprTree e :: exprTrees es

end

def entryTree : LigatureEntry → Tree
  | .literal s => .text s
  | .regex c s => .mapping [("char", .quoted (String.singleton c)), ("regex", .text s)]
  | .expr c e => .mapping [("char", .quoted (String.singleton c)), ("expr", exprTree e)]

def modesTree : ModesField → Tree
  | .one name => .text name
  | .many names => .sequence (names.map .text)

def setTree (s : LigatureSet) : Tree :=
  .mapping ((s.modes.map fun m => ("modes", modesTree m)).toList ++
    [("ligatures", .sequence (s.ligatures.map entryTree))])

def declarationTree (d : ModeDeclaration) : Tree :=
  .mapping [("name", .text d.name), ("parent", .text d.parent)]

def entries (c : Config) : List (String × Tree) :=
  [("ligature_sets", .sequence (c.sets.map setTree)),
   ("modes", .sequence (c.modes.map declarationTree)),
   ("ignored_modes", .sequence (c.ignored.map .text)),
   ("regex_cache_size", .number c.cacheSize.toNat)]

/-! ### Texts -/

def toYaml (c : Config) : String := String.ofList (Yaml.printDocument c.entries)

def fromYaml (text : String) : Except ConfigError Config :=
  match (Yaml.readText text.toList).bind ofDocument? with
  | none => .error .parse
  | some c => match c.validate with
    | .error e => .error (.validation e)
    | .ok () => .ok c

end Config

end Ligature
