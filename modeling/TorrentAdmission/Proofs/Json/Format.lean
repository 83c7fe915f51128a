import TorrentAdmission.Proofs.Json.Printed
import TorrentAdmission.Proofs.Json.Rewording

/-!
# Formats

A format is a way to write the values of a type in JSON and to read them. `Format.isLossless` is the step from
values to texts: if a value is read from its JSON in any words, then it is read from any text that states it.
-/

namespace TorrentAdmission.Json

/-- How the values of a type are written and read, and where members may be added to what is written. -/
structure Format (α : Type) where
  toJson : α → Json
  ofJson? : Json → Option α
  shape : α → Shape

namespace Format

variable {α : Type} (f : Format α)

def encode (a : α) : String := (f.toJson a).render

def decode? (text : String) : Option α := (parse? text).bind f.ofJson?

/-- Decoding undoes encoding, also if the encoded value has been put in other words, and different values are
never encoded alike. This is to hold of the values that fit the format. -/
structure IsLossless (Fits : α → Prop) : Prop where
  decode?_encode {a : α} : Fits a → (f.toJson a).depth ≤ depthLimit → f.decode? (f.encode a) = some a
  /-- The text may be any that holds the value in other words, however it is laid out. -/
  decode?_reworded {a : α} {text : String} {w : Json} :
    Fits a → parse? text = some w → Reworded (f.shape a) (f.toJson a) w → f.decode? text = some a
  decode?_render {a : α} {w : Json} : Fits a → Reworded (f.shape a) (f.toJson a) w → w.isPlain = true →
    w.depth ≤ depthLimit → f.decode? w.render = some a
  encode_injective {a b : α} : Fits a → Fits b → f.encode a = f.encode b → a = b

variable {f} {Fits : α → Prop}

theorem isLossless (plain : ∀ a, Fits a → (f.toJson a).isPlain = true)
    (same : ∀ a, Reworded (f.shape a) (f.toJson a) (f.toJson a))
    (reads : ∀ a w, Fits a → Reworded (f.shape a) (f.toJson a) w → f.ofJson? w = some a) : f.IsLossless Fits := by
  have stated : ∀ {a : α} {text : String} {w : Json}, Fits a → parse? text = some w →
      Reworded (f.shape a) (f.toJson a) w → f.decode? text = some a := by
    intro a text w fits parsed reworded
    rw [decode?, parsed]
    exact reads a w fits reworded
  refine ⟨fun fits deep => stated fits (parse?_render (plain _ fits) deep) (same _), stated, ?_, ?_⟩
  · intro a w fits reworded plain deep
    exact stated fits (parse?_render plain deep) reworded
  · intro a b left right printed
    have written : f.toJson a = f.toJson b := render_injective (plain a left) (plain b right) printed
    have read := reads a _ left (same a)
    rw [written, reads b _ right (same b)] at read
    exact (Option.some.inj read).symm

end Format

end TorrentAdmission.Json
