import TorrentAdmission.Backend.Basic
import TorrentAdmission.Log.Notice

/-!
# Turns

A task does its work in turns. In a turn it acts on the world, and it either comes to a result or
crashes; what it did before a crash is done.
-/

namespace TorrentAdmission

inductive Act where
  | call (call : Call)
  | note (notice : Notice)
  /-- The answer to a call made the owner of a submission cancel it. -/
  | cancel (submission : Nat)
  deriving DecidableEq, Repr

structure Turn (α : Type) where
  acts : List Act
  /-- The result, or the words of a crash. -/
  result : Except String α

namespace Turn

variable {α β : Type}

def andThen (t : Turn α) (f : α → Turn β) : Turn β :=
  match t.result with
  | .ok a => { f a with acts := t.acts ++ (f a).acts }
  | .error e => ⟨t.acts, .error e⟩

instance : Monad Turn where
  pure a := ⟨[], .ok a⟩
  bind := andThen

def act (a : Act) : Turn Unit := ⟨[a], .ok ()⟩

def crash (detail : String) : Turn α := ⟨[], .error detail⟩

/-- Reports something of the lookup in progress. -/
def note (topic : Topic) (fields : Fields) : Turn Unit :=
  act (.note { topic, fields })

end Turn

inductive Step (σ α : Type) where
  | waiting (state : σ)
  | done (result : α)

end TorrentAdmission
