import ResourceTrace.Handle
import ResourceTrace.Keyed
import ResourceTrace.Calendar
import ResourceTrace.Stack

set_option autoImplicit false

namespace ResourceTrace

/-- One live resource; `detail` is what its kind adds, such as the path of a file. -/
structure Record (δ : Type) where
  handle : Handle
  size : Nat
  created : Moment
  stack : Stack
  detail : δ
  deriving DecidableEq, Repr

/-- Nanoseconds since the resource was acquired; none for one stamped in the future. -/
def Record.age {δ : Type} (r : Record δ) (now : Moment) : Nat := r.created.elapsed now

/-- Order by time, and by handle among records of one time. -/
def Record.notAfter {δ : Type} (r s : Record δ) : Bool :=
  decide (r.created.nanos < s.created.nanos ∨
    (r.created.nanos = s.created.nanos ∧ r.handle.address ≤ s.handle.address))

inductive LedgerError where
  | duplicateHandle (handle : Handle)
  | unknownHandle (handle : Handle)
  deriving DecidableEq, Repr

def LedgerError.message : LedgerError → String
  | duplicateHandle handle => s!"Handle {handle.text} is already tracked"
  | unknownHandle handle => s!"Handle {handle.text} is not tracked"

structure Ledger (δ : Type) where
  records : Keyed Handle (Record δ) := {}
  total : Nat := 0
  deriving DecidableEq, Repr

namespace Ledger

variable {δ : Type}

def empty : Ledger δ := {}

def get? (l : Ledger δ) (h : Handle) : Option (Record δ) := l.records.get? h

def contains (l : Ledger δ) (h : Handle) : Bool := l.records.contains h

def size (l : Ledger δ) : Nat := l.records.size

def isEmpty (l : Ledger δ) : Bool := l.records.isEmpty

def sizes : List (Record δ) → Nat
  | [] => 0
  | r :: rs => r.size + sizes rs

def sum (l : Ledger δ) : Nat := sizes l.records.values

def insert (l : Ledger δ) (r : Record δ) : Ledger δ :=
  ⟨l.records.put r.handle r, l.total + r.size⟩

def drop (l : Ledger δ) (h : Handle) (r : Record δ) : Ledger δ :=
  ⟨l.records.erase h, l.total - r.size⟩

def add (l : Ledger δ) (r : Record δ) : Except LedgerError (Ledger δ) :=
  if l.contains r.handle then .error (.duplicateHandle r.handle) else .ok (l.insert r)

def remove (l : Ledger δ) (h : Handle) : Except LedgerError (Record δ × Ledger δ) :=
  match l.get? h with
  | none => .error (.unknownHandle h)
  | some r => .ok (r, l.drop h r)

def release (l : Ledger δ) (old : Handle) : Ledger δ :=
  if old.isNull then l
  else match l.remove old with
    | .ok (_, l') => l'
    | .error _ => l

/-- Moves a resource to the handle of `r`. A null or untracked `old` releases nothing, and a
record without size adds nothing. On failure the old handle has been released all the same. -/
def reallocate (l : Ledger δ) (old : Handle) (r : Record δ) : Except LedgerError Unit × Ledger δ :=
  let released := l.release old
  if r.size = 0 then (.ok (), released)
  else match released.add r with
    | .ok l' => (.ok (), l')
    | .error e => (.error e, released)

def replace (l : Ledger δ) (r : Record δ) : Option (Record δ) × Ledger δ :=
  match l.get? r.handle with
  | none => (none, l.insert r)
  | some previous => (some previous, (l.drop r.handle previous).insert r)

/-- Keeps the records that `keep` accepts, and answers the number of the others. -/
def retain (l : Ledger δ) (keep : Record δ → Bool) : Nat × Ledger δ :=
  let kept := l.records.filter keep
  let dropped := l.records.values.filter fun r => !keep r
  (l.records.size - kept.size, ⟨kept, l.total - sizes dropped⟩)

def byAge (l : Ledger δ) : List (Record δ) := l.records.values.mergeSort Record.notAfter

end Ledger

end ResourceTrace
