import PathHeader.Report

/-! Where reports go: bytes in order, perhaps only so many of them. -/
namespace PathHeader

/-- Takes reports as bytes, as many as it has room for. -/
structure Writer where
  colour : Bool
  /-- The bytes that can still be taken; without a number there is no end. -/
  room : Option Nat
  written : Bytes
  deriving Repr, DecidableEq

namespace Writer

def plain : Writer := ⟨false, none, []⟩

/-- Writes what there is room for, and says whether that was everything. -/
def putBytes (w : Writer) (bytes : Bytes) : Writer × Bool :=
  match w.room with
  | none => ({ w with written := w.written ++ bytes }, true)
  | some room =>
    (⟨w.colour, some (room - bytes.length), w.written ++ bytes.take room⟩,
      decide (bytes.length ≤ room))

def put (w : Writer) (pieces : List Piece) : Writer × Bool :=
  w.putBytes (Utf8.encode (Report.render w.colour pieces))

theorem written_putBytes (w : Writer) (bytes : Bytes) :
    (w.putBytes bytes).1.written = w.written ++ bytes.take (w.room.getD bytes.length) := by
  cases room : w.room <;> simp [putBytes, room]

theorem putBytes_complete_iff (w : Writer) (bytes : Bytes) :
    (w.putBytes bytes).2 = true ↔ ∀ room, w.room = some room → bytes.length ≤ room := by
  cases room : w.room <;> simp [putBytes, room]

end Writer

end PathHeader
