import Ligature.Files.Path
import Ligature.Log

/-!
# Journals

What an operation puts on record while it works: lines of the log, the questions it asks about
the hierarchy of modes, and what it writes to the terminal. A `Traced` value is a value together
with the journal of the work that led to it, so that both are reasoned about without an outside
world.
-/
namespace Ligature

abbrev Mode := String

inductive Event where
  | logged (r : Record)
  | asked (mode ancestor : Mode) (answer : Bool)
  /-- From here on the log is written, to a file or else to the error stream. -/
  | logOpened (level : DebugLevel) (file : Option Files.Path)
  | printed (text : String)
  | complained (line : String)
  deriving DecidableEq, Repr

/-- A value and the journal of the work that led to it. -/
structure Traced (α : Type) where
  value : α
  journal : List Event

namespace Traced

variable {α β : Type}

instance : Monad Traced where
  pure a := ⟨a, []⟩
  bind x f := ⟨(f x.value).value, x.journal ++ (f x.value).journal⟩

@[simp] theorem value_pure (a : α) : (pure a : Traced α).value = a := rfl

@[simp] theorem journal_pure (a : α) : (pure a : Traced α).journal = [] := rfl

@[simp] theorem value_bind (x : Traced α) (f : α → Traced β) :
    (x >>= f).value = (f x.value).value := rfl

@[simp] theorem journal_bind (x : Traced α) (f : α → Traced β) :
    (x >>= f).journal = x.journal ++ (f x.value).journal := rfl

@[simp] theorem value_map (f : α → β) (x : Traced α) : (f <$> x).value = f x.value := rfl

@[simp] theorem journal_map (f : α → β) (x : Traced α) : (f <$> x).journal = x.journal :=
  List.append_nil _

instance : LawfulMonad Traced := .mk' Traced
  (fun x => by cases x; simp [Functor.map])
  (fun a f => by simp [bind, pure])
  (fun x f g => by simp [bind, List.append_assoc])

def note (e : Event) : Traced Unit := ⟨(), [e]⟩

@[simp] theorem value_note (e : Event) : (note e).value = () := rfl

@[simp] theorem journal_note (e : Event) : (note e).journal = [e] := rfl

def log (level : Level) (channel : Channel) (message : String) : Traced Unit :=
  note (.logged ⟨level, channel, message⟩)

end Traced

namespace Event

def record? : Event → Option Record
  | .logged r => some r
  | _ => none

def question? : Event → Option (Mode × Mode × Bool)
  | .asked mode ancestor answer => some (mode, ancestor, answer)
  | _ => none

end Event

def DebugLevel.records (l : DebugLevel) (journal : List Event) : List Record :=
  (journal.filterMap Event.record?).filter l.admits

end Ligature
