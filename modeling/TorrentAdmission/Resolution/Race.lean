import TorrentAdmission.Resolution.Turn

/-!
# Races

Two pieces of work side by side, of which the first success counts. In every turn both sides that
are still running have theirs, the left one first, before a winner is picked; the left one wins if
both succeed in the same turn. One failure alone settles nothing.
-/

namespace TorrentAdmission

/-- One side of a race: under way, or over without success. -/
inductive Lane (σ ε : Type) where
  | running (state : σ)
  | failed (error : ε)

inductive Finish (α β ε : Type) where
  | left (value : α)
  | right (value : β)
  | neither (left right : ε)

structure Race (σ τ ε : Type) where
  left : Lane σ ε
  right : Lane τ ε

namespace Race

variable {σ τ α β ε : Type} {m : Type → Type} [Monad m]

/-- A turn of one side. A side that is over has none. -/
def pollLane (poll : σ → m (Step σ (Except ε α))) : Lane σ ε → m (Except α (Lane σ ε))
  | .failed e => pure (.ok (.failed e))
  | .running s => do
    match ← poll s with
    | .waiting s => pure (.ok (.running s))
    | .done (.ok a) => pure (.error a)
    | .done (.error e) => pure (.ok (.failed e))

/-- What the race comes to when both sides have had their turn. -/
def decide : Except α (Lane σ ε) → Except β (Lane τ ε) → Step (Race σ τ ε) (Finish α β ε)
  | .error a, _ => .done (.left a)
  | .ok _, .error b => .done (.right b)
  | .ok (.failed e), .ok (.failed f) => .done (.neither e f)
  | .ok l, .ok r => .waiting ⟨l, r⟩

def poll (pollLeft : σ → m (Step σ (Except ε α))) (pollRight : τ → m (Step τ (Except ε β)))
    (race : Race σ τ ε) : m (Step (Race σ τ ε) (Finish α β ε)) := do
  let l ← pollLane pollLeft race.left
  let r ← pollLane pollRight race.right
  pure (decide l r)

end Race

end TorrentAdmission
