import Ligature.Journal

/-!
# Mode selectors

Which modes a group of rules is for. Two selectors are the same slot of the registry exactly when
they are equal, so the order of the modes of a set counts.
-/
namespace Ligature.Rules

inductive ModeSelector where
  | universal
  | single (mode : Mode)
  | set (modes : List Mode)
  deriving DecidableEq, Repr

namespace ModeSelector

def display : ModeSelector → String
  | .universal => "*"
  | .single mode => mode
  | .set modes => "[" ++ String.intercalate ", " modes ++ "]"

def targets : ModeSelector → List Mode
  | .universal => []
  | .single mode => [mode]
  | .set modes => modes

end ModeSelector

end Ligature.Rules
