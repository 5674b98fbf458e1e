import Countersign.Http.Field

/-!
# Message bodies

A body arrives in **frames**: data, trailers, a failure – after which more frames
can follow – or the news that nothing is ready yet. `Countersign.Http.Body.poll`
takes one frame off; `Countersign.Http.Body.next` waits through frames that are
not ready; `Countersign.Http.Body.collect` reads a body to its end or to its first
failure.
-/

namespace Countersign.Http

/-- What reading a body yields. -/
inductive Piece where
  | data (bytes : Bytes)
  | trailers (fields : Fields)
  | failure (message : Text)
deriving DecidableEq

/-- A frame of a body: a piece, or a moment at which none is ready. -/
inductive Frame where
  | piece (p : Piece)
  | pending
deriving DecidableEq

/-- The frames of a body that have not been read. -/
abbrev Body := List Frame

/-- What asking a body for a piece gives at once. -/
inductive Poll where
  | pending
  /-- A piece, or `none` at the end. -/
  | ready (p : Option Piece)
deriving DecidableEq

/-- The data of a piece; trailers and failures have none. -/
def Piece.bytes : Piece → Bytes
  | .data b => b
  | _ => []

/-- The data of a frame. -/
def Frame.bytes : Frame → Bytes
  | .piece p => p.bytes
  | .pending => []

namespace Body

/-- A body of one data frame. -/
def ofBytes (b : Bytes) : Body := [.piece (.data b)]

/-- All data of a body, one frame after the other. -/
def bytes (body : Body) : Bytes := body.flatMap Frame.bytes

/-- Ask for a piece. -/
def poll : Body → Poll × Body
  | [] => (.ready none, [])
  | .pending :: r => (.pending, r)
  | .piece p :: r => (.ready (some p), r)

/-- Wait for a piece; `none` at the end. -/
def next : Body → Option Piece × Body
  | [] => (none, [])
  | .pending :: r => next r
  | .piece p :: r => (some p, r)

/-- Whether no frame is left, pending ones included. -/
def atEnd (body : Body) : Bool := body.isEmpty

/-- The exact number of data bytes that are left. -/
def size (body : Body) : Nat := body.bytes.length

/-- Read to the end: all data, and the trailers if there are any. Fails with the first
failure. -/
def collect : Body → Except Text (Bytes × Option Fields)
  | [] => .ok ([], none)
  | .pending :: r => collect r
  | .piece (.failure m) :: _ => .error m
  | .piece (.data b) :: r => (collect r).map fun (bs, t) => (b ++ bs, t)
  | .piece (.trailers f) :: r =>
    (collect r).map fun (bs, t) => (bs, some (match t with
      | none => f
      | some g => f.override g))

end Body

end Countersign.Http
