import Ligature.Config.Default
import Ligature.Config.Text
import Ligature.Host
import Ligature.Text.Quoted

/-!
# Configurations on disk

Where configurations are kept, and how they are read and saved. A file is saved by writing the text
to a file beside it that then takes its place, so that a reader never sees half a text.
-/
namespace Ligature

open Files (Path)

inductive StoreError where
  | load (path : Path) (cause : ConfigError)
  | save (path : Path) (cause : ConfigError)
  deriving DecidableEq, Repr

namespace StoreError

def cause : StoreError → ConfigError
  | load _ e => e
  | save _ e => e

def context : StoreError → String
  | load p _ => s!"Failed to load config from {p}"
  | save p _ => s!"Failed to save config to {p}"

/-- What was being done, and every cause of the failure down to the first: below an error of a
file there is still the system's word for it. -/
def message (e : StoreError) : String :=
  let causes := match e.cause with
    | .io cause => [e.cause.message, cause.message]
    | _ => [e.cause.message]
  ": ".intercalate (e.context :: causes)

end StoreError

namespace Config

def directory (home : Path) : Path := (home.join ".config").join "par-ligature"

def file (home : Path) : Path := (directory home).join "ligatures.yaml"

/-- The file in which a text is collected before it takes the place of the file `p`. -/
def draft (p : Path) : Path := p.withExtension "yaml.tmp"

variable {m : Type → Type} [Monad m] [Host m]

def withFile {α : Type} (x : m (Except FileError α)) : ExceptT ConfigError m α :=
  .mk (Except.mapError .io <$> x)

def readFrom (p : Path) : ExceptT ConfigError m Config := do
  let text ← withFile (Host.readText p)
  let c ← .mk (pure (fromYaml text))
  let sets := c.sets.length
  let modes := c.modes.length
  let shown := Text.quoted p.chars
  Host.log (m := m) .debug .config
    s!"Loaded {sets} ligature sets and {modes} mode declarations from {shown}"
  pure c

/-- Saves a configuration, valid or not, in a file. -/
def writeTo (c : Config) (p : Path) : ExceptT ConfigError m Unit := do
  match p.parent? with
  | some parent => withFile (Host.makeDirectories parent)
  | none => pure ()
  withFile (Host.writeText (draft p) c.toYaml)
  withFile (Host.rename (draft p) p)

def loadFrom (p : Path) : ExceptT StoreError m Config :=
  .mk (Except.mapError (.load p) <$> (readFrom p).run)

def save (c : Config) (home : Path) : ExceptT StoreError m Unit :=
  .mk (Except.mapError (.save (file home)) <$> (c.writeTo (file home)).run)

/-- The configuration where configurations are kept; if there is none, the default configuration,
which is then saved there. -/
def load (home : Path) : ExceptT StoreError m Config := do
  let p := file home
  let shown := Text.quoted p.chars
  Host.log (m := m) .info .config s!"Config path: {shown}"
  if ← Host.contains (m := m) p then
    Host.log (m := m) .info .config s!"Loading existing config from {shown}"
    loadFrom p
  else
    Host.log (m := m) .info .config s!"Config file not found, creating default at {shown}"
    try save .default home
    catch e =>
      let context := e.context
      Host.log (m := m) .error .config s!"Failed to save default config: {context}"
      throw e
    Host.log (m := m) .info .config "Default config created successfully"
    pure .default

end Config

end Ligature
