import ResourceTrace.Ledger
import ResourceTrace.Json

/-!
Snapshots of a ledger as JSON, and writing them where the writer may fail. The text is written in
pieces, and nothing is written behind the first piece that is not taken whole. A snapshot is
followed by one line break; a writer that fails within the JSON text and one that fails behind
it are told apart.
-/

set_option autoImplicit false

namespace ResourceTrace.Snapshot

def recordJson {δ : Type} (r : Record δ) : Json :=
  .obj
    [("handle", .str r.handle.text), ("size", .num r.size), ("created_at", .str r.created.stamp),
     ("frames", .arr (r.stack.map fun f => .str f.text))]

def json {δ : Type} (l : Ledger δ) : Json :=
  .obj
    [("total_size", .num l.total), ("record_count", .num l.size),
     ("records", .arr (l.byAge.map recordJson))]

inductive Layout where
  | compact
  | spread
  deriving DecidableEq, Repr

def body {δ : Type} (layout : Layout) (l : Ledger δ) : String :=
  match layout with
  | .compact => String.ofList (json l).compact
  | .spread => String.ofList ((json l).spread 0)

def text {δ : Type} (layout : Layout) (l : Ledger δ) : String := body layout l ++ "\n"

/-- A writer takes a number of bytes, or all of them, and then a flush. -/
structure Writer where
  takes : Option Nat := none
  flushes : Bool := true
  deriving DecidableEq, Repr

inductive ExportError where
  | json (reason : String)
  | io (reason : String)
  deriving DecidableEq, Repr

def ExportError.message : ExportError → String
  | .json reason => reason
  | .io reason => reason

structure Reasons where
  full : String
  unflushed : String
  deriving DecidableEq, Repr

structure Channel where
  taken : List UInt8 := []
  room : Option Nat := none
  deriving DecidableEq, Repr

namespace Channel

/-- Hands a piece of text to the writer, which takes as much of it as it has room for; answers
whether this was all. -/
def send (c : Channel) (piece : List Char) : Bool × Channel :=
  let bytes := (String.ofList piece).toUTF8.toList
  match c.room with
  | none => (true, ⟨c.taken ++ bytes, none⟩)
  | some room =>
    (decide (bytes.length ≤ room), ⟨c.taken ++ bytes.take room, some (room - bytes.length)⟩)

def sendAll (c : Channel) : List (List Char) → Bool × Channel
  | [] => (true, c)
  | piece :: pieces =>
    match c.send piece with
    | (true, c) => c.sendAll pieces
    | (false, c) => (false, c)

end Channel

def pieces {δ : Type} (layout : Layout) (l : Ledger δ) : List (List Char) :=
  match layout with
  | .compact => (json l).pieces .compact 0
  | .spread => (json l).pieces .spread 0

/-- The bytes that the writer has taken in the end, and whether all went well. -/
def write {δ : Type} (layout : Layout) (l : Ledger δ) (w : Writer) (reasons : Reasons) :
    List UInt8 × Except ExportError Unit :=
  match ({ room := w.takes } : Channel).sendAll (pieces layout l) with
  | (false, c) => (c.taken, .error (.json reasons.full))
  | (true, c) =>
    match c.send ['\n'] with
    | (false, c) => (c.taken, .error (.io reasons.full))
    | (true, c) => (c.taken, if w.flushes then .ok () else .error (.io reasons.unflushed))

end ResourceTrace.Snapshot
