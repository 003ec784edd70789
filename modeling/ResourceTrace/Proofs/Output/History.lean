import ResourceTrace.Output

set_option autoImplicit false

namespace ResourceTrace

namespace Host

def fileOf (host : Host) (dest : String) : Option String :=
  match Destination.ofText dest with
  | .file path _ => host.locate path
  | _ => none

def sinkOf (host : Host) (dest : String) : Sink :=
  match Destination.ofText dest with
  | .stdout => .stdout
  | .stderr => .stderr
  | .nowhere => .nowhere
  | .file path _ => if (host.locate path).isSome then .file dest else .stderr

def Distinct (host : Host) (dests : List String) : Prop :=
  ∀ d ∈ dests, ∀ e ∈ dests, (host.fileOf d).isSome = true → host.fileOf d = host.fileOf e → d = e

instance (host : Host) (dests : List String) : Decidable (host.Distinct dests) :=
  inferInstanceAs (Decidable (∀ d ∈ dests, ∀ e ∈ dests, _ → _))

section

variable {host : Host} {dest path : String} {append : Bool}

theorem fileOf_of_located {file : String} (h : Destination.ofText dest = .file path append)
    (hlocate : host.locate path = some file) : host.fileOf dest = some file := by
  simp only [fileOf, h, hlocate]

theorem sinkOf_of_located {file : String} (h : Destination.ofText dest = .file path append)
    (hlocate : host.locate path = some file) : host.sinkOf dest = .file dest := by
  simp only [sinkOf, h, hlocate, Option.isSome_some, if_true]

theorem sinkOf_of_not_located (h : Destination.ofText dest = .file path append)
    (hlocate : host.locate path = none) : host.sinkOf dest = .stderr := by
  simp only [sinkOf, h, hlocate, Option.isSome_none, Bool.false_eq_true, if_false]

end

theorem Distinct.mono {host : Host} {ds es : List String} (h : host.Distinct es) (hsub : ds ⊆ es) :
    host.Distinct ds :=
  fun d hd e he => h d (hsub hd) e (hsub he)

end Host

namespace Output

/-- Calls on the output. The sinks that were answered so far are numbered from 0. -/
inductive Call where
  | resolveDest (dest : String)
  | resolve (options : OptionLine)
  | write (sink : Nat) (line : String)
  deriving DecidableEq, Repr

def Call.dest? : Call → Option String
  | .resolveDest dest => some dest
  | .resolve options => some ((options.text? "logDest" (some "stderr")).getD "stderr")
  | .write _ _ => none

def resolved (calls : List Call) : List String := calls.filterMap Call.dest?

structure Issued where
  output : Output
  sinks : List Sink := []

def Issued.take (s : Issued) (answer : Sink × Output) : Issued :=
  ⟨answer.2, s.sinks ++ [answer.1]⟩

def Issued.perform (s : Issued) : Call → Issued
  | .resolveDest dest => s.take (s.output.resolveDest dest)
  | .resolve options => s.take (s.output.resolve options)
  | .write i line =>
    match s.sinks[i]? with
    | some sink => { s with output := s.output.write sink line }
    | none => s

def Issued.performAll (s : Issued) (calls : List Call) : Issued := calls.foldl perform s

def Call.writes (issued : List String) : Call → List (String × String)
  | .write i line => (issued[i]?.map fun dest => (dest, line)).toList
  | _ => []

/-- The lines that calls write, each with the destination of its sink, where the destinations
`issued` were resolved before. -/
def written (issued : List String) : List Call → List (String × String)
  | [] => []
  | c :: calls => c.writes issued ++ written (issued ++ c.dest?.toList) calls

def linesFor (dest : String) (writes : List (String × String)) : List String :=
  (writes.filter fun w => w.1 == dest).map Prod.snd

inductive Entry where
  | unopenable (dest : String)
  | failed (dest line : String)
  | line (dest line : String)
  deriving DecidableEq, Repr

namespace Entry

def dest : Entry → String
  | unopenable d => d
  | failed d _ => d
  | line d _ => d

/-- The notice of a failure stands directly in front of the line that failed. -/
def texts : Entry → List String
  | unopenable d => [s!"Could not open file '{d}' for output. Using stderr instead."]
  | failed d text => [s!"Could not write to file '{d}'. Using stderr instead.", text]
  | line _ text => [text]

def write? : Entry → Option (String × String)
  | unopenable _ => none
  | failed d text => some (d, text)
  | line d text => some (d, text)

end Entry

def entriesFor (dest : String) (entries : List Entry) : List Entry :=
  entries.filter fun e => e.dest == dest

def diversion (dest : String) : List String → List Entry
  | [] => []
  | text :: later => .failed dest text :: later.map (.line dest)

def bytes (lines : List String) : List UInt8 :=
  lines.flatMap fun line => (line ++ "\n").toUTF8.toList

/-- What became of the lines for a destination, by the files before and after: the entries that the
error sink got. A file has its lines up to the first write that failed, behind what it held if it is
extended. -/
inductive Delivered (host : Host) (before after : Files) (dest : String) (lines : List String) :
    List Entry → Prop
  | stdout (h : Destination.ofText dest = .stdout) : Delivered host before after dest lines []
  | stderr (h : Destination.ofText dest = .stderr) :
    Delivered host before after dest lines (lines.map (.line dest))
  | nowhere (h : Destination.ofText dest = .nowhere) : Delivered host before after dest lines []
  | unopenable {path : String} {append : Bool} (h : Destination.ofText dest = .file path append)
    (hlocate : host.locate path = none) :
    Delivered host before after dest lines (.unopenable dest :: lines.map (.line dest))
  | file {path file : String} {append : Bool} {kept diverted : List String}
    (h : Destination.ofText dest = .file path append) (hlocate : host.locate path = some file)
    (hlines : lines = kept ++ diverted)
    (hkept : ∀ k < kept.length, host.accepts file k = true)
    (hfailed : diverted ≠ [] → host.accepts file kept.length = false)
    (hcontents : after.contents file =
      (if append then before.contents file else []) ++ bytes kept) :
    Delivered host before after dest lines (diversion dest diverted)

def withConsole (o : Output) (out err : List String) : Output :=
  match o.console with
  | .memory => { o with out := o.out ++ out, err := o.err ++ err }
  | .streams => { o with stdout := o.stdout ++ out, stderr := o.stderr ++ err }

section

variable (dest : String)

@[simp] theorem linesFor_append (ws vs : List (String × String)) :
    linesFor dest (ws ++ vs) = linesFor dest ws ++ linesFor dest vs := by
  simp [linesFor]

@[simp] theorem linesFor_self (text : String) : linesFor dest [(dest, text)] = [text] := by
  simp [linesFor]

theorem linesFor_of_ne {d : String} (h : d ≠ dest) (text : String) :
    linesFor dest [(d, text)] = [] := by
  simp [linesFor, h]

@[simp] theorem entriesFor_append (es fs : List Entry) :
    entriesFor dest (es ++ fs) = entriesFor dest es ++ entriesFor dest fs := by
  simp [entriesFor]

theorem entriesFor_of_dest {d : String} {es : List Entry} (h : ∀ e ∈ es, e.dest = d) :
    entriesFor dest es = if d = dest then es else [] := by
  by_cases hd : d = dest
  · rw [if_pos hd]
    exact List.filter_eq_self.mpr fun e he => by simp [h e he, hd]
  · rw [if_neg hd]
    exact List.filter_eq_nil_iff.mpr fun e he => by simp [h e he, hd]

end

@[simp] theorem bytes_append (ls ms : List String) : bytes (ls ++ ms) = bytes ls ++ bytes ms := by
  simp [bytes]

@[simp] theorem bytes_singleton (line : String) :
    bytes [line] = (line ++ "\n").toUTF8.toList := by
  simp [bytes]

@[simp] theorem resolved_append (cs ds : List Call) :
    resolved (cs ++ ds) = resolved cs ++ resolved ds :=
  List.filterMap_append

theorem resolved_singleton (c : Call) : resolved [c] = c.dest?.toList := by
  cases h : c.dest? <;> simp [resolved, h]

theorem written_append (issued : List String) (cs ds : List Call) :
    written issued (cs ++ ds) = written issued cs ++ written (issued ++ resolved cs) ds := by
  induction cs generalizing issued with
  | nil => simp [written, resolved]
  | cons c cs ih =>
    have hc : resolved (c :: cs) = c.dest?.toList ++ resolved cs := by
      rw [← resolved_singleton, ← resolved_append, List.singleton_append]
    simp only [List.cons_append, written, ih, hc, List.append_assoc]

theorem written_snoc (cs : List Call) (c : Call) :
    written [] (cs ++ [c]) = written [] cs ++ c.writes (resolved cs) := by
  simp [written_append, written]

section

variable (o : Output) (out err : List String) (line : String)

@[simp] theorem withConsole_nil : o.withConsole [] [] = o := by
  unfold withConsole
  split <;> simp only [List.append_nil]

theorem toOut_eq : o.toOut line = o.withConsole [line] [] := by
  cases h : o.console <;> simp [toOut, withConsole, print, h]

theorem toErr_eq : o.toErr line = o.withConsole [] [line] := by
  cases h : o.console <;> simp [toErr, withConsole, complain, h]

@[simp] theorem withConsole_withConsole (out' err' : List String) :
    (o.withConsole out err).withConsole out' err' = o.withConsole (out ++ out') (err ++ err') := by
  cases h : o.console <;> simp [withConsole, h]

theorem with_withConsole (dests : Keyed String FileState) (files : Files) :
    ({ o with dests, files } : Output).withConsole out err =
      { o.withConsole out err with dests, files } := by
  cases h : o.console <;> simp [withConsole, h]

@[simp] theorem host_withConsole : (o.withConsole out err).host = o.host := by
  cases h : o.console <;> simp [withConsole, h]

@[simp] theorem dests_withConsole : (o.withConsole out err).dests = o.dests := by
  cases h : o.console <;> simp [withConsole, h]

@[simp] theorem files_withConsole : (o.withConsole out err).files = o.files := by
  cases h : o.console <;> simp [withConsole, h]

end

end Output

end ResourceTrace
