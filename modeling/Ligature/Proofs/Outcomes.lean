import Mathlib.Control.Monad.Basic
import Ligature.Program

/-!
# What work on a disk comes to

The result of some work on a machine and the disk it leaves, without the journal.
-/
namespace Ligature

open Files (Disk Path)

namespace Machine

variable {α β ε ε' : Type}

theorem mapError_ok (g : ε → ε') (a : α) : Except.mapError g (.ok a) = .ok a := rfl

def outcome (x : ExceptT ε Machine α) (d : Disk) : Except ε α × Disk := (x.run.run d).value

theorem outcome_bind (x : ExceptT ε Machine α) (f : α → ExceptT ε Machine β) (d : Disk) :
    outcome (x >>= f) d = match outcome x d with
      | (.ok a, d') => outcome (f a) d'
      | (.error e, d') => (.error e, d') := by
  have front : outcome (x >>= f) d =
      ((ExceptT.bindCont f (outcome x d).1).run (outcome x d).2).value := rfl
  rw [front]
  obtain ⟨result, d'⟩ := outcome x d
  cases result with
  | ok a => rfl
  | error e => rfl

@[simp] theorem outcome_mapError (g : ε → ε') (x : ExceptT ε Machine α) (d : Disk) :
    outcome (.mk (Except.mapError g <$> x.run)) d =
      ((outcome x d).1.mapError g, (outcome x d).2) := rfl

theorem outcome_tryCatch (x : ExceptT ε Machine α) (f : ε → ExceptT ε Machine α) (d : Disk) :
    outcome (tryCatch x f) d = match outcome x d with
      | (.ok a, d') => (.ok a, d')
      | (.error e, d') => outcome (f e) d' := by
  have handled : ∀ y : Except ε α × Disk,
      outcome (tryCatch (.mk fun _ => pure y) f) d = match y with
        | (.ok a, d') => (.ok a, d')
        | (.error e, d') => outcome (f e) d' := by
    rintro ⟨result, d'⟩
    cases result with
    | ok a => rfl
    | error e => rfl
  exact handled (outcome x d)

@[simp] theorem outcome_log (level : Level) (channel : Channel) (message : String) (d : Disk) :
    outcome (liftM (Host.log (m := Machine) level channel message) : ExceptT ε Machine Unit) d =
      (.ok (), d) := rfl

@[simp] theorem outcome_contains (p : Path) (d : Disk) :
    outcome (liftM (Host.contains (m := Machine) p) : ExceptT ε Machine Bool) d =
      (.ok (d.contains p), d) := rfl

@[simp] theorem outcome_result (r : Except ε α) (d : Disk) :
    outcome (.mk (pure r)) d = (r, d) := rfl

theorem outcome_change (f : Disk → Except FileError Disk) (d : Disk) :
    outcome (Config.withFile (change f)) d = match f d with
      | .ok d' => (.ok (), d')
      | .error e => (.error (.io e), d) := by
  have front : outcome (Config.withFile (change f)) d =
      ((change f d).value.1.mapError .io, (change f d).value.2) := rfl
  rw [front, change]
  cases f d with
  | ok d' => rfl
  | error e => rfl

theorem value_perform (t : Traced α) (d : Disk) :
    ((Host.perform t : Machine α).run d).value = (t.value, d) := by
  obtain ⟨a, journal⟩ := t
  induction journal with
  | nil => rfl
  | cons e journal ih => exact ih

end Machine

open Machine

namespace Config

variable (p home : Path) (d : Disk)

def readOn (d : Disk) (p : Path) : Except ConfigError Config :=
  match d.readText p with
  | .error e => .error (.io e)
  | .ok text => fromYaml text

theorem readOn_of_readText {p : Path} {d : Disk} {text : String} (reads : d.readText p = .ok text) :
    readOn d p = fromYaml text := by
  rw [readOn, reads]

theorem outcome_readFrom : outcome (readFrom p) d = (readOn d p, d) := by
  have front : outcome (withFile (Host.readText (m := Machine) p)) d =
      ((d.readText p).mapError .io, d) := rfl
  rw [readFrom, outcome_bind, front, readOn]
  cases d.readText p with
  | error e => rfl
  | ok text =>
    simp only [mapError_ok, outcome_bind, outcome_result]
    cases fromYaml text with
    | error e => rfl
    | ok c => rfl

theorem outcome_loadFrom : outcome (loadFrom p) d = ((readOn d p).mapError (.load p), d) := by
  rw [loadFrom, outcome_mapError, outcome_readFrom]

theorem outcome_load_of_contains (there : d.contains (file home) = true) :
    outcome (load home) d = outcome (loadFrom (file home)) d := by
  unfold load
  simp only [outcome_bind, outcome_log, outcome_contains, there, if_true]

theorem outcome_load_of_missing (missing : d.contains (file home) = false) :
    outcome (load home) d = match outcome (save .default home) d with
      | (.ok (), d') => (.ok .default, d')
      | (.error e, d') => (.error e, d') := by
  unfold load
  simp only [outcome_bind, outcome_log, outcome_contains, missing, Bool.false_eq_true, if_false,
    outcome_tryCatch]
  obtain ⟨result, d'⟩ := outcome (save .default home) d
  cases result with
  | ok saved => rfl
  | error e => rfl

theorem outcome_save (c : Config) : outcome (save c home) d =
    ((outcome (c.writeTo (file home)) d).1.mapError (.save (file home)),
      (outcome (c.writeTo (file home)) d).2) := rfl

def makeParent (d : Disk) (p : Path) : Except FileError Unit × Disk :=
  match p.parent? with
  | some parent => d.makeDirectories parent
  | none => (.ok (), d)

/-- To save a configuration its directory is made, its text is written beside the file, and what
was written takes the place of the file. -/
theorem outcome_writeTo (c : Config) :
    outcome (c.writeTo p) d = match makeParent d p with
      | (.error e, d') => (.error (.io e), d')
      | (.ok (), d') => match d'.writeText (draft p) c.toYaml with
        | (.error e, d₁) => (.error (.io e), d₁)
        | (.ok (), d₁) => match d₁.rename (draft p) p with
          | .error e => (.error (.io e), d₁)
          | .ok d₂ => (.ok (), d₂) := by
  have written (d : Disk) :
      outcome (withFile (Host.writeText (m := Machine) (draft p) c.toYaml)) d =
        ((d.writeText (draft p) c.toYaml).1.mapError .io, (d.writeText (draft p) c.toYaml).2) := rfl
  have renamed (d : Disk) : outcome (withFile (Host.rename (m := Machine) (draft p) p)) d =
      _ := outcome_change (·.rename (draft p) p) d
  have replaced (d' : Disk) : outcome (do
        withFile (Host.writeText (m := Machine) (draft p) c.toYaml)
        withFile (Host.rename (m := Machine) (draft p) p)) d' =
      match d'.writeText (draft p) c.toYaml with
        | (.error e, d₁) => (.error (.io e), d₁)
        | (.ok (), d₁) => match d₁.rename (draft p) p with
          | .error e => (.error (.io e), d₁)
          | .ok d₂ => (.ok (), d₂) := by
    rw [outcome_bind, written]
    obtain ⟨result, d₁⟩ := d'.writeText (draft p) c.toYaml
    cases result with
    | error e => rfl
    | ok done =>
      simp only [mapError_ok, renamed]
      cases d₁.rename (draft p) p with
      | error e => rfl
      | ok d₂ => rfl
  unfold writeTo makeParent
  cases p.parent? with
  | none => exact replaced d
  | some parent =>
    have made : outcome (withFile (Host.makeDirectories (m := Machine) parent)) d =
        ((d.makeDirectories parent).1.mapError .io, (d.makeDirectories parent).2) := rfl
    dsimp only
    rw [outcome_bind, made]
    obtain ⟨result, d'⟩ := d.makeDirectories parent
    cases result with
    | error e => rfl
    | ok done => exact replaced d'

end Config

def Invocation.answerTo (i : Invocation) :
    Except StoreError Config × Disk → Except Program.Failure String × Disk
  | (.ok c, d) => ((Session.start c >>= i.command.answer).value.mapError .refused, d)
  | (.error e, d) => (.error (.store e), d)

theorem Invocation.answerTo_disk (i : Invocation) (loaded : Except StoreError Config × Disk) :
    (i.answerTo loaded).2 = loaded.2 := by
  obtain ⟨result, d⟩ := loaded
  cases result with
  | ok c => rfl
  | error e => rfl

theorem Program.outcome_run (home : Path) (i : Invocation) (d : Disk) :
    outcome (Program.run home i) d =
      i.answerTo (outcome (match i.config with
        | some p => Config.loadFrom p
        | none => Config.load home) d) := by
  unfold Program.run
  rw [outcome_bind, outcome_mapError]
  obtain ⟨result, d'⟩ := outcome (match i.config with
    | some p => Config.loadFrom p
    | none => Config.load home) d
  cases result with
  | error e => rfl
  | ok c =>
    have performed := value_perform (Session.start c >>= i.command.answer) d'
    exact congrArg (fun y => (Except.mapError Program.Failure.refused y.1, y.2)) performed

end Ligature
