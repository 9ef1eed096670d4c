import Columnar.Consumer.LineWriter
/-!
# Writers that take bytes in pieces

A piece writer takes some first part of the bytes that it is offered in a call, and may fail in
any call. Whoever writes to it cuts the bytes into pieces, and offers what is left of a piece until
all of it is taken. Like this a piece writer is a device, which takes all that the calls took. A call
that is interrupted takes nothing and is made again, so it is no call of its own here.
-/

set_option autoImplicit false

namespace Columnar

/-- A writer with states of a type. A call takes some first bytes of those it is offered, or fails;
a flush goes through or not. -/
structure PieceWriter (σ : Type) where
  write (bytes : List UInt8) : σ → Option (Fin (bytes.length + 1)) × σ
  flush : σ → Bool × σ

/-- A way to cut bytes into pieces. -/
structure Cutting where
  pieces : List UInt8 → List (List UInt8)
  flatten_pieces (bytes : List UInt8) : (pieces bytes).flatten = bytes

/-- The state of a piece writer, and the bytes that its calls took so far. -/
structure Tapped (σ : Type) where
  state : σ
  received : List UInt8

namespace PieceWriter

variable {σ : Type} (writer : PieceWriter σ)

/-- Offers bytes in one call. Gives how many were taken. -/
def call (bytes : List UInt8) (tapped : Tapped σ) : Nat × Tapped σ :=
  match writer.write bytes tapped.state with
  | (none, state) => (0, { tapped with state })
  | (some taken, state) => (taken, ⟨state, tapped.received ++ bytes.take taken⟩)

/-- Offers bytes until all of them are taken, or a call takes none. Gives how many were taken. -/
def writeAll (bytes : List UInt8) (tapped : Tapped σ) : Nat × Tapped σ :=
  match bytes with
  | [] => (0, tapped)
  | byte :: rest =>
    let called := writer.call (byte :: rest) tapped
    if _some : 0 < called.1 then
      let later := writeAll ((byte :: rest).drop called.1) called.2
      (called.1 + later.1, later.2)
    else called
termination_by bytes.length
decreasing_by
  rw [List.length_drop]
  exact Nat.sub_lt (Nat.succ_pos _) _some

/-- Writes pieces in order, up to the first that is not taken as a whole. -/
def writePieces : List (List UInt8) → Tapped σ → Nat × Tapped σ
  | [], tapped => (0, tapped)
  | piece :: pieces, tapped =>
    let written := writer.writeAll piece tapped
    if written.1 < piece.length then written
    else
      let later := writePieces pieces written.2
      (written.1 + later.1, later.2)

/-- A piece writer as a device. -/
def device (cutting : Cutting) : Device (Tapped σ) where
  write bytes tapped := writer.writePieces (cutting.pieces bytes.data.toList) tapped
  flush tapped :=
    let (flushed, state) := writer.flush tapped.state
    (flushed, { tapped with state })

end PieceWriter

end Columnar
