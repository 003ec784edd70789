import ResourceTrace.Proofs.Output.History

set_option autoImplicit false

namespace ResourceTrace

namespace Files

theorem length_overwrite (old new : List UInt8) (start : Nat) :
    (overwrite old start new).length = max old.length (start + new.length) := by
  simp only [overwrite, List.length_append, List.length_take, List.length_replicate,
    List.length_drop]
  omega

theorem overwrite_overwrite (old first second : List UInt8) (start : Nat) :
    overwrite (overwrite old start first) (start + first.length) second =
      overwrite old start (first ++ second) := by
  have hlength := length_overwrite old first start
  have hfront : (old.take start ++ List.replicate (start - old.length) 0 ++ first).length =
      start + first.length := by
    simp only [List.length_append, List.length_take, List.length_replicate]
    omega
  have htake : (overwrite old start first).take (start + first.length) =
      old.take start ++ List.replicate (start - old.length) 0 ++ first := by
    rw [overwrite, ← hfront]
    exact List.take_left
  have hdrop : (overwrite old start first).drop (start + first.length + second.length) =
      old.drop (start + (first ++ second).length) := by
    rw [overwrite, List.drop_append, hfront, List.drop_eq_nil_of_le (by omega), List.nil_append,
      List.drop_drop, List.length_append]
    congr 1
    omega
  have hgap : start + first.length - (overwrite old start first).length = 0 := by omega
  rw [overwrite, htake, hdrop, hgap]
  simp [overwrite]

theorem contents_put_self (files : Files) (file : String) (bytes : List UInt8) :
    contents (files.put file bytes) file = bytes := by
  rw [contents, Keyed.get?_put_self]
  rfl

end Files

namespace Opening

def start (o : Opening) (old : List UInt8) : Nat := if o.append then old.length else o.offset

/-- The next line is written where this one ends, at an offset and at the end alike. -/
theorem start_write (o : Opening) (old new : List UInt8) :
    (o.write old new).2.start (o.write old new).1 = o.start old + new.length := by
  change (if o.append then (Files.overwrite old (o.start old) new).length
    else o.start old + new.length) = _
  split
  · next happend =>
    rw [Files.length_overwrite, start, if_pos happend]
    omega
  · rfl

end Opening

namespace Output

/-- Lines for a file that is open. Those before the first that the host refuses are written over
what is there, at the end if the file is extended; the others are on the error sink, behind a
notice. -/
structure Filed (o : Output) (dest : String) (opening : Opening) (kept diverted : List String)
    (o' : Output) : Prop where
  accepted : ∀ k < kept.length, o.host.accepts opening.file (opening.writes + k) = true
  refused : diverted ≠ [] → o.host.accepts opening.file (opening.writes + kept.length) = false
  console : o' = { o.withConsole [] ((diversion dest diverted).flatMap Entry.texts) with
    dests := o'.dests, files := o'.files }
  contents : kept ≠ [] →
    let old := o.files.contents opening.file
    let start := if opening.append then old.length else opening.offset
    o'.files.contents opening.file =
      old.take start ++ List.replicate (start - old.length) 0 ++ bytes kept ++
        old.drop (start + (bytes kept).length)
  files : ∀ file, file ≠ opening.file ∨ kept = [] → o'.files.get? file = o.files.get? file
  dests : ∀ d ≠ dest, o'.dests.get? d = o.dests.get? d

/-- What becomes of lines for a sink. A file that is not open stands for the error sink. -/
inductive Received (o : Output) (lines : List String) : Sink → Output → Prop
  | stdout : Received o lines .stdout (o.withConsole lines [])
  | stderr : Received o lines .stderr (o.withConsole [] lines)
  | nowhere : Received o lines .nowhere o
  | closed {dest : String} (h : ∀ opening, o.dests.get? dest ≠ some (.opened opening)) :
    Received o lines (.file dest) (o.withConsole [] lines)
  | opened {dest : String} {opening : Opening} {kept diverted : List String} {o' : Output}
    (h : o.dests.get? dest = some (.opened opening)) (hlines : lines = kept ++ diverted)
    (hfiled : Filed o dest opening kept diverted o') : Received o lines (.file dest) o'

def messageLines (options : OptionLine) (stack : Stack) (message : String) : List String :=
  message :: if options.isSet "logWithStack" false then stack.map fun f => "\t" ++ f.text else []

theorem log_eq_writeAll (o : Output) (sink : Sink) (options : OptionLine) (stack : Stack)
    (message : String) :
    o.log sink options stack message = o.writeAll sink (messageLines options stack message) := by
  rw [log, messageLines]
  split <;> rfl

theorem complainAll_eq (o : Output) (lines : List String) :
    o.complainAll lines = { o with stderr := o.stderr ++ lines } := by
  induction lines generalizing o with
  | nil => simp [complainAll]
  | cons line lines ih =>
    rw [complainAll, List.foldl_cons, ← complainAll, ih, complain]
    simp

theorem writeAll_cons (o : Output) (sink : Sink) (line : String) (lines : List String) :
    o.writeAll sink (line :: lines) = (o.write sink line).writeAll sink lines := rfl

theorem writeAll_stdout (o : Output) (lines : List String) :
    o.writeAll .stdout lines = o.withConsole lines [] := by
  induction lines generalizing o with
  | nil => exact o.withConsole_nil.symm
  | cons line lines ih =>
    rw [writeAll_cons, ih, write, toOut_eq, withConsole_withConsole]
    rfl

theorem writeAll_stderr (o : Output) (lines : List String) :
    o.writeAll .stderr lines = o.withConsole [] lines := by
  induction lines generalizing o with
  | nil => exact o.withConsole_nil.symm
  | cons line lines ih =>
    rw [writeAll_cons, ih, write, toErr_eq, withConsole_withConsole]
    rfl

theorem writeAll_nowhere (o : Output) (lines : List String) : o.writeAll .nowhere lines = o := by
  induction lines with
  | nil => rfl
  | cons line lines ih => exact ih

theorem writeAll_closed {o : Output} {dest : String}
    (h : ∀ opening, o.dests.get? dest ≠ some (.opened opening)) (lines : List String) :
    o.writeAll (.file dest) lines = o.withConsole [] lines := by
  induction lines generalizing o with
  | nil => exact o.withConsole_nil.symm
  | cons line lines ih =>
    have hwrite : o.write (.file dest) line = o.withConsole [] [line] := by
      rw [write, ← toErr_eq]
      split
      · next opening hopened => exact absurd hopened (h opening)
      · rfl
    rw [writeAll_cons, hwrite, ih (by rwa [dests_withConsole]), withConsole_withConsole]
    rfl

theorem filed_of_refused {o : Output} {dest : String} {opening : Opening}
    (h : o.dests.get? dest = some (.opened opening)) {line : String} (lines : List String)
    (hrefused : o.host.accepts opening.file opening.writes = false) :
    Filed o dest opening [] (line :: lines) (o.writeAll (.file dest) (line :: lines)) := by
  have hwrite : o.write (.file dest) line =
      { o with dests := o.dests.put dest .failed }.withConsole [] [failedLine dest, line] := by
    simp only [write, h, writeFile, hrefused, Bool.false_eq_true, if_false, toErr_eq,
      withConsole_withConsole, List.append_nil, List.cons_append, List.nil_append]
  have hall : o.writeAll (.file dest) (line :: lines) =
      { o with dests := o.dests.put dest .failed }.withConsole []
        (failedLine dest :: line :: lines) := by
    rw [writeAll_cons, hwrite, writeAll_closed, withConsole_withConsole]
    · rfl
    · simp [dests_withConsole]
  have htexts : (diversion dest (line :: lines)).flatMap Entry.texts =
      failedLine dest :: line :: lines := by
    have hlater : (lines.map (Entry.line dest)).flatMap Entry.texts = lines := by
      rw [List.flatMap_map]
      exact List.flatMap_singleton' lines
    rw [diversion, List.flatMap_cons, hlater]
    rfl
  rw [hall]
  exact {
    accepted := fun k hk => absurd hk (Nat.not_lt_zero k)
    refused := fun _ => hrefused
    console := by rw [htexts]; cases hc : o.console <;> simp [withConsole, hc]
    contents := fun hne => absurd rfl hne
    files := fun file _ => by rw [files_withConsole]
    dests := fun d hd => by rw [dests_withConsole]; exact Keyed.get?_put_of_ne hd _ _ }

theorem writeFile_of_accepted {o : Output} {opening : Opening}
    (h : o.host.accepts opening.file opening.writes = true) (dest line : String) :
    o.writeFile dest opening line = { o with
      dests := o.dests.put dest
        (.opened (opening.write (o.files.contents opening.file) (bytes [line])).2)
      files := o.files.put opening.file
        (opening.write (o.files.contents opening.file) (bytes [line])).1 } := by
  rw [writeFile, if_pos h, bytes_singleton]

theorem filed_of_accepted {o o' : Output} {dest line : String} {opening : Opening}
    {kept diverted : List String} (haccepted : o.host.accepts opening.file opening.writes = true)
    (hlater : Filed (o.writeFile dest opening line) dest
      (opening.write (o.files.contents opening.file) (bytes [line])).2 kept diverted o') :
    Filed o dest opening (line :: kept) diverted o' := by
  let old := o.files.contents opening.file
  let now := (o.writeFile dest opening line).files.contents opening.file
  have hwrite := writeFile_of_accepted haccepted dest line
  have hwritten : now = (opening.write old (bytes [line])).1 := by
    change Files.contents (o.writeFile dest opening line).files opening.file = _
    rw [hwrite]
    exact Files.contents_put_self _ _ _
  have hbytes : bytes (line :: kept) = bytes [line] ++ bytes kept := by
    rw [← bytes_append]
    rfl
  refine ⟨fun k hk => ?_, fun hne => ?_, ?_, fun _ => ?_, fun file hfile => ?_, fun d hd => ?_⟩
  · cases k with
    | zero => exact haccepted
    | succ k =>
      have hk' := hlater.accepted k (Nat.lt_of_succ_lt_succ hk)
      rw [hwrite] at hk'
      exact (congrArg (o.host.accepts opening.file) (Nat.add_right_comm ..)).trans hk'
  · have hrefused := hlater.refused hne
    rw [hwrite] at hrefused
    exact (congrArg (o.host.accepts opening.file) (Nat.add_right_comm ..)).trans hrefused
  · rw [hlater.console, hwrite, with_withConsole]
  · show o'.files.contents opening.file =
      Files.overwrite old (opening.start old) (bytes (line :: kept))
    rw [hbytes]
    by_cases hk : kept = []
    · have hsame : o'.files.contents opening.file = now :=
        congrArg (Option.getD · []) (hlater.files opening.file (.inr hk))
      rw [hsame, hwritten, hk]
      exact congrArg (Files.overwrite old (opening.start old)) (List.append_nil _).symm
    · have hrest : o'.files.contents opening.file = Files.overwrite now
          ((opening.write old (bytes [line])).2.start now) (bytes kept) := hlater.contents hk
      rw [hrest, hwritten, Opening.start_write]
      exact Files.overwrite_overwrite old (bytes [line]) (bytes kept) (opening.start old)
  · obtain hne | hc := hfile
    · rw [hlater.files file (.inl hne), hwrite]
      exact Keyed.get?_put_of_ne hne _ _
    · cases hc
  · rw [hlater.dests d hd, hwrite]
    exact Keyed.get?_put_of_ne hd _ _

theorem exists_filed (lines : List String) {o : Output} {dest : String} {opening : Opening}
    (h : o.dests.get? dest = some (.opened opening)) :
    ∃ kept diverted, lines = kept ++ diverted ∧
      Filed o dest opening kept diverted (o.writeAll (.file dest) lines) := by
  induction lines generalizing o opening with
  | nil =>
    exact ⟨[], [], rfl, {
      accepted := fun k hk => absurd hk (Nat.not_lt_zero k)
      refused := fun hne => absurd rfl hne
      console := by rw [diversion, List.flatMap_nil, withConsole_nil]; rfl
      contents := fun hne => absurd rfl hne
      files := fun _ _ => rfl
      dests := fun _ _ => rfl }⟩
  | cons line lines ih =>
    cases haccepts : o.host.accepts opening.file opening.writes with
    | false => exact ⟨[], line :: lines, rfl, filed_of_refused h lines haccepts⟩
    | true =>
      have hwrite : o.write (.file dest) line = o.writeFile dest opening line := by
        simp only [write, h]
      have hopened : (o.writeFile dest opening line).dests.get? dest = some (.opened
          (opening.write (o.files.contents opening.file) (bytes [line])).2) := by
        rw [writeFile_of_accepted haccepts]
        exact Keyed.get?_put_self _ _ _
      obtain ⟨kept, diverted, rfl, hfiled⟩ := ih hopened
      rw [writeAll_cons, hwrite]
      exact ⟨line :: kept, diverted, rfl, filed_of_accepted haccepts hfiled⟩

theorem received_writeAll (o : Output) (sink : Sink) (lines : List String) :
    Received o lines sink (o.writeAll sink lines) := by
  cases sink with
  | stdout => rw [writeAll_stdout]; exact .stdout
  | stderr => rw [writeAll_stderr]; exact .stderr
  | nowhere => rw [writeAll_nowhere]; exact .nowhere
  | file dest =>
    by_cases h : ∃ opening, o.dests.get? dest = some (.opened opening)
    · obtain ⟨opening, hopened⟩ := h
      obtain ⟨kept, diverted, hlines, hfiled⟩ := exists_filed lines hopened
      exact .opened hopened hlines hfiled
    · rw [not_exists] at h
      rw [writeAll_closed h]
      exact .closed h

end Output

end ResourceTrace
