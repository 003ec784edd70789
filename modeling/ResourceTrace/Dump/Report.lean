import ResourceTrace.Dump.Filter

/-!
Reports on the live resources of a ledger. A report is either silent or prints the accepted
records oldest first and a summary behind them. Only a report that prints moves the throttle,
and moves it to the total of the whole ledger.
-/

set_option autoImplicit false

namespace ResourceTrace

/-- What a report writes and whether it emitted anything, with the throttle it leaves: the
total of the last emitted report. -/
structure Report where
  lines : List String
  emitted : Bool
  throttle : Nat
  deriving DecidableEq, Repr

namespace Report

def silent (throttle : Nat) : Report := ⟨[], false, throttle⟩

def recordLines {δ : Type} (r : Record δ) (frames : List String) (zone : Zone) : List String :=
  [s!"Allocated {r.size} bytes at {r.handle.text}", s!"Timestamp: {r.created.text zone}",
   "Allocated at:"] ++ frames.map ("\t" ++ ·)

def summary (printed count size total : Nat) : String :=
  s!"Printed {printed} of {count} allocations with {size} bytes " ++
    s!"(of {total} bytes allocated in total)."

structure Progress where
  lines : List String := []
  count : Nat := 0
  size : Nat := 0
  deriving DecidableEq, Repr

variable [PatternEngine]

def print {δ : Type} (f : DumpFilter) (now : Moment) (zone : Zone) (p : Progress) (r : Record δ) :
    Progress :=
  match f.accepts? r now with
  | none => p
  | some frames => ⟨p.lines ++ recordLines r frames zone, p.count + 1, p.size + r.size⟩

def make {δ : Type} (l : Ledger δ) (f : DumpFilter) (throttle : Nat) (now : Moment)
    (zone : Zone := Zone.utc) : Report :=
  if !f.shouldDump l.total throttle then silent throttle
  else
    let p := l.byAge.foldl (print f now zone) {}
    if p.count = 0 then ⟨p.lines, false, throttle⟩
    else ⟨p.lines ++ [summary p.count l.size p.size l.total], true, l.total⟩

end Report

end ResourceTrace
