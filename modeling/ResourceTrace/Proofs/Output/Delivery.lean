import Mathlib.Data.List.Induction
import ResourceTrace.Proofs.Output.History

/-!
The output along a history. A call is about one destination, and leaves the states and the files of
the others alone. So each destination has an account of its own, kept by every call: what its file
holds by now, and which entries the error sink got for it.
-/

set_option autoImplicit false

namespace ResourceTrace

namespace Output

/-- What the output knows of a destination that was resolved, by the lines written for it. -/
inductive Account (before : Files) (o : Output) (dest : String) (lines : List String) :
    List Entry → Prop
  | stdout (h : Destination.ofText dest = .stdout) : Account before o dest lines []
  | stderr (h : Destination.ofText dest = .stderr) :
    Account before o dest lines (lines.map (.line dest))
  | nowhere (h : Destination.ofText dest = .nowhere) : Account before o dest lines []
  | unopenable {path : String} {append : Bool} (h : Destination.ofText dest = .file path append)
    (hlocate : o.host.locate path = none) (hstate : o.dests.get? dest = some .unopenable) :
    Account before o dest lines (.unopenable dest :: lines.map (.line dest))
  | opened {path file : String} {append : Bool} {offset : Nat}
    (h : Destination.ofText dest = .file path append) (hlocate : o.host.locate path = some file)
    (hstate : o.dests.get? dest = some (.opened { file, append, offset, writes := lines.length }))
    (hkept : ∀ k < lines.length, o.host.accepts file k = true)
    (hcontents : o.files.contents file =
      (if append then before.contents file else []) ++ bytes lines)
    (hoffset : append = false → offset = (bytes lines).length) : Account before o dest lines []
  | failed {path file line : String} {append : Bool} {kept later : List String}
    (h : Destination.ofText dest = .file path append) (hlocate : o.host.locate path = some file)
    (hstate : o.dests.get? dest = some .failed) (hlines : lines = kept ++ line :: later)
    (hkept : ∀ k < kept.length, o.host.accepts file k = true)
    (hfailed : o.host.accepts file kept.length = false)
    (hcontents : o.files.contents file =
      (if append then before.contents file else []) ++ bytes kept) :
    Account before o dest lines (.failed dest line :: later.map (.line dest))

structure Touches (dest : String) (o o' : Output) (out : List String) (new : List Entry) : Prop where
  output : o' = { o.withConsole out (new.flatMap Entry.texts) with
    dests := o'.dests, files := o'.files }
  dests : ∀ d ≠ dest, o'.dests.get? d = o.dests.get? d
  files : ∀ file, o.host.fileOf dest ≠ some file → o'.files.get? file = o.files.get? file
  dest_eq : ∀ e ∈ new, e.dest = dest

namespace Touches

variable {dest : String} {o o' : Output} {out : List String} {new : List Entry}

theorem host_eq (h : Touches dest o o' out new) : o'.host = o.host := by
  rw [h.output, host_withConsole]

theorem refl (dest : String) (o : Output) : Touches dest o o [] [] where
  output := by rw [List.flatMap_nil, withConsole_nil]
  dests _ _ := rfl
  files _ _ := rfl
  dest_eq _ he := absurd he List.not_mem_nil

theorem ofConsole (h : o' = o.withConsole out (new.flatMap Entry.texts))
    (hnew : ∀ e ∈ new, e.dest = dest) : Touches dest o o' out new := by
  have hdests : o'.dests = o.dests := by rw [h, dests_withConsole]
  have hfiles : o'.files = o.files := by rw [h, files_withConsole]
  exact {
    output := by rw [h]
    dests := fun d _ => by rw [hdests]
    files := fun file _ => by rw [hfiles]
    dest_eq := hnew }

end Touches

namespace Account

variable {before : Files} {o o' : Output} {dest : String} {lines : List String} {es : List Entry}

/-- An account is told by the state of its destination and by its own file. -/
theorem frame (h : Account before o dest lines es) (hhost : o'.host = o.host)
    (hdests : o'.dests.get? dest = o.dests.get? dest)
    (hfiles : ∀ file, o.host.fileOf dest = some file → o'.files.get? file = o.files.get? file) :
    Account before o' dest lines es := by
  have hfile {path file : String} {append : Bool} (h : Destination.ofText dest = .file path append)
      (hlocate : o.host.locate path = some file) :
      o'.files.contents file = o.files.contents file := by
    rw [Files.contents, Files.contents, hfiles file (Host.fileOf_of_located h hlocate)]
  cases h with
  | stdout h => exact .stdout h
  | stderr h => exact .stderr h
  | nowhere h => exact .nowhere h
  | unopenable h hlocate hstate => exact .unopenable h (hhost ▸ hlocate) (hdests ▸ hstate)
  | opened h hlocate hstate hkept hcontents hoffset =>
    exact .opened h (hhost ▸ hlocate) (hdests ▸ hstate) (hhost ▸ hkept)
      ((hfile h hlocate).trans hcontents) hoffset
  | failed h hlocate hstate hlines hkept hfailed hcontents =>
    exact .failed h (hhost ▸ hlocate) (hdests ▸ hstate) hlines (hhost ▸ hkept) (hhost ▸ hfailed)
      ((hfile h hlocate).trans hcontents)

theorem delivered (h : Account before o dest lines es) :
    Delivered o.host before o.files dest lines es := by
  cases h with
  | stdout h => exact .stdout h
  | stderr h => exact .stderr h
  | nowhere h => exact .nowhere h
  | unopenable h hlocate _ => exact .unopenable h hlocate
  | opened h hlocate _ hkept hcontents _ =>
    have hlines : lines = lines ++ [] := (List.append_nil lines).symm
    exact .file h hlocate hlines hkept (fun hne => absurd rfl hne) hcontents
  | failed h hlocate _ hlines hkept hfailed hcontents =>
    exact .file h hlocate hlines hkept (fun _ => hfailed) hcontents

theorem resolveDest_eq (h : Account before o dest lines es) :
    o.resolveDest dest = (o.host.sinkOf dest, o) := by
  cases h with
  | stdout h => simp only [resolveDest, Host.sinkOf, h]
  | stderr h => simp only [resolveDest, Host.sinkOf, h]
  | nowhere h => simp only [resolveDest, Host.sinkOf, h]
  | unopenable h hlocate hstate =>
    rw [Host.sinkOf_of_not_located h hlocate]
    simp only [resolveDest, h, hstate]
  | opened h hlocate hstate =>
    rw [Host.sinkOf_of_located h hlocate]
    simp only [resolveDest, h, hstate]
  | failed h hlocate hstate =>
    rw [Host.sinkOf_of_located h hlocate]
    simp only [resolveDest, h, hstate]

end Account

theorem exists_account_of_resolveDest {before : Files} {o : Output} {dest : String}
    (hstate : o.dests.get? dest = none)
    (hfile : ∀ file, o.host.fileOf dest = some file → o.files.get? file = before.get? file) :
    ∃ new, (o.resolveDest dest).1 = o.host.sinkOf dest ∧
      Touches dest o (o.resolveDest dest).2 [] new ∧ new.filterMap Entry.write? = [] ∧
      Account before (o.resolveDest dest).2 dest [] new := by
  cases h : Destination.ofText dest with
  | stdout =>
    have hr : o.resolveDest dest = (.stdout, o) := by simp only [resolveDest, h]
    rw [hr]
    exact ⟨[], by simp only [Host.sinkOf, h], .refl dest o, rfl, .stdout h⟩
  | stderr =>
    have hr : o.resolveDest dest = (.stderr, o) := by simp only [resolveDest, h]
    rw [hr]
    exact ⟨[], by simp only [Host.sinkOf, h], .refl dest o, rfl, .stderr h⟩
  | nowhere =>
    have hr : o.resolveDest dest = (.nowhere, o) := by simp only [resolveDest, h]
    rw [hr]
    exact ⟨[], by simp only [Host.sinkOf, h], .refl dest o, rfl, .nowhere h⟩
  | file path append =>
    have hr : o.resolveDest dest = o.openFile dest path append := by
      simp only [resolveDest, h, hstate]
    rw [hr]
    cases hlocate : o.host.locate path with
    | none =>
      have hopen : o.openFile dest path append =
          (.stderr, { o with dests := o.dests.put dest .unopenable }.toErr
            (unopenableLine dest)) := by
        simp only [openFile, hlocate]
      rw [hopen, toErr_eq, with_withConsole]
      refine ⟨[.unopenable dest], (Host.sinkOf_of_not_located h hlocate).symm, ?_, rfl,
        .unopenable h ?_ ?_⟩
      · exact {
          output := rfl
          dests := fun d hd => Keyed.get?_put_of_ne hd _ _
          files := fun _ _ => rfl
          dest_eq := fun e he => by rw [List.mem_singleton.mp he]; rfl }
      · rw [host_withConsole, hlocate]
      · exact Keyed.get?_put_self _ _ _
    | some file =>
      have hof : o.host.fileOf dest = some file := Host.fileOf_of_located h hlocate
      have hopen : o.openFile dest path append =
          (.file dest, { o with
            dests := o.dests.put dest (.opened { file, append })
            files := o.files.put file (if append then o.files.contents file else []) }) := by
        simp only [openFile, hlocate]
      rw [hopen]
      refine ⟨[], (Host.sinkOf_of_located h hlocate).symm, ?_, rfl,
        .opened h hlocate (Keyed.get?_put_self _ _ _) ?_ ?_ ?_⟩
      · exact {
          output := by rw [List.flatMap_nil, withConsole_nil]
          dests := fun d hd => Keyed.get?_put_of_ne hd _ _
          files := fun f hf => by
            have hne : f ≠ file := by rintro rfl; exact hf hof
            exact Keyed.get?_put_of_ne hne _ _
          dest_eq := fun e he => absurd he List.not_mem_nil }
      · exact fun k hk => absurd hk (Nat.not_lt_zero k)
      · simp [Files.contents, hfile file hof, bytes]
      · exact fun _ => rfl

theorem overwrite_length (old new : List UInt8) :
    Files.overwrite old old.length new = old ++ new := by
  simp [Files.overwrite]

theorem eq_stdout_of_ofText {dest : String} (h : Destination.ofText dest = .stdout) :
    dest = "stdout" := by
  unfold Destination.ofText at h
  split at h
  · assumption
  · repeat' split at h
    all_goals cases h

namespace Account

variable {before : Files} {o : Output} {dest : String} {lines : List String} {es : List Entry}

theorem touches_toErr (dest : String) (o : Output) (line : String) :
    Touches dest o (o.toErr line) [] [.line dest line] := by
  refine .ofConsole (toErr_eq o line) fun e he => ?_
  rw [List.mem_singleton.mp he]
  rfl

theorem write_opened {path file : String} {append : Bool} {offset : Nat} {line : String}
    (h : Destination.ofText dest = .file path append) (hlocate : o.host.locate path = some file)
    (hstate : o.dests.get? dest = some (.opened { file, append, offset, writes := lines.length }))
    (hkept : ∀ k < lines.length, o.host.accepts file k = true)
    (hcontents : o.files.contents file =
      (if append then before.contents file else []) ++ bytes lines)
    (hoffset : append = false → offset = (bytes lines).length)
    (haccepts : o.host.accepts file lines.length = true) :
    Touches dest o (o.write (.file dest) line) [] [] ∧
      Account before (o.write (.file dest) line) dest (lines ++ [line]) [] := by
  have hstart : (if append then (o.files.contents file).length else offset) =
      (o.files.contents file).length := by
    cases append with
    | true => rfl
    | false => simp [hcontents, hoffset rfl]
  obtain ⟨offset', hoffset'⟩ :
      ∃ n, n = (o.files.contents file).length + (line ++ "\n").toUTF8.toList.length := ⟨_, rfl⟩
  have hw : o.write (.file dest) line = { o with
      dests := o.dests.put dest
        (.opened { file, append, offset := offset', writes := lines.length + 1 })
      files := o.files.put file (o.files.contents file ++ (line ++ "\n").toUTF8.toList) } := by
    simp only [Output.write, hstate, writeFile, haccepts, if_true, Opening.write, hstart,
      overwrite_length, hoffset']
  have hof : o.host.fileOf dest = some file := Host.fileOf_of_located h hlocate
  rw [hw]
  constructor
  · exact {
      output := by rw [List.flatMap_nil, withConsole_nil]
      dests := fun d hd => Keyed.get?_put_of_ne hd _ _
      files := fun f hf => by
        have hne : f ≠ file := by rintro rfl; exact hf hof
        exact Keyed.get?_put_of_ne hne _ _
      dest_eq := fun e he => absurd he List.not_mem_nil }
  · have hlength : (lines ++ [line]).length = lines.length + 1 := List.length_append
    have hstate' : (o.dests.put dest
        (.opened { file, append, offset := offset', writes := lines.length + 1 })).get? dest =
        some (.opened { file, append, offset := offset', writes := (lines ++ [line]).length }) := by
      rw [hlength]
      exact Keyed.get?_put_self _ _ _
    refine .opened h hlocate hstate' ?_ ?_ ?_
    · intro k hk
      rw [hlength] at hk
      rcases Nat.lt_succ_iff_lt_or_eq.mp hk with hlt | rfl
      · exact hkept k hlt
      · exact haccepts
    · simp only [Files.contents, Keyed.get?_put_self, Option.getD_some, bytes_append,
        bytes_singleton, ← List.append_assoc]
      exact congrArg (· ++ _) hcontents
    · rintro rfl
      rw [hoffset', hcontents, bytes_append, bytes_singleton, List.length_append,
        List.length_append]
      simp

theorem write_rejected {path file : String} {append : Bool} {offset : Nat} {line : String}
    (h : Destination.ofText dest = .file path append) (hlocate : o.host.locate path = some file)
    (hstate : o.dests.get? dest = some (.opened { file, append, offset, writes := lines.length }))
    (hkept : ∀ k < lines.length, o.host.accepts file k = true)
    (hcontents : o.files.contents file =
      (if append then before.contents file else []) ++ bytes lines)
    (hrejects : o.host.accepts file lines.length = false) :
    Touches dest o (o.write (.file dest) line) [] [.failed dest line] ∧
      Account before (o.write (.file dest) line) dest (lines ++ [line]) [.failed dest line] := by
  have hw : o.write (.file dest) line =
      { o.withConsole [] [failedLine dest, line] with
        dests := o.dests.put dest .failed, files := o.files } := by
    simp only [Output.write, hstate, writeFile, hrejects, Bool.false_eq_true, if_false,
      toErr_eq, withConsole_withConsole, with_withConsole, List.append_nil, List.cons_append,
      List.nil_append]
  have hhost : (o.withConsole [] [failedLine dest, line]).host = o.host := host_withConsole ..
  rw [hw]
  constructor
  · exact {
      output := rfl
      dests := fun d hd => Keyed.get?_put_of_ne hd _ _
      files := fun _ _ => rfl
      dest_eq := fun e he => by rw [List.mem_singleton.mp he]; rfl }
  · exact .failed h (hhost ▸ hlocate) (Keyed.get?_put_self _ _ _) rfl (hhost ▸ hkept)
      (hhost ▸ hrejects) hcontents

theorem write (h : Account before o dest lines es) (line : String) :
    ∃ new, Touches dest o (o.write (o.host.sinkOf dest) line) (linesFor "stdout" [(dest, line)])
        new ∧
      (new.filterMap Entry.write?).Sublist [(dest, line)] ∧
      Account before (o.write (o.host.sinkOf dest) line) dest (lines ++ [line]) (es ++ new) := by
  have hout (hne : Destination.ofText dest ≠ .stdout) :
      linesFor "stdout" [(dest, line)] = [] := by
    have hd : dest ≠ "stdout" := by rintro rfl; exact hne rfl
    exact linesFor_of_ne _ hd line
  cases h with
  | stdout h =>
    have hs : o.host.sinkOf dest = .stdout := by simp only [Host.sinkOf, h]
    have hlines : linesFor "stdout" [(dest, line)] = [line] := by
      rw [eq_stdout_of_ofText h, linesFor_self]
    rw [hs, hlines]
    exact ⟨[], .ofConsole (toOut_eq o line) (fun e he => absurd he List.not_mem_nil),
      List.nil_sublist _, .stdout h⟩
  | stderr h =>
    have hs : o.host.sinkOf dest = .stderr := by simp only [Host.sinkOf, h]
    rw [hs, hout (by simp [h])]
    refine ⟨[.line dest line], touches_toErr dest o line, List.Sublist.refl _, ?_⟩
    rw [← List.map_singleton, ← List.map_append]
    exact .stderr h
  | nowhere h =>
    have hs : o.host.sinkOf dest = .nowhere := by simp only [Host.sinkOf, h]
    rw [hs, hout (by simp [h])]
    exact ⟨[], .refl dest o, List.nil_sublist _, .nowhere h⟩
  | unopenable h hlocate hstate =>
    have hw : o.write .stderr line = o.toErr line := rfl
    rw [Host.sinkOf_of_not_located h hlocate, hout (by simp [h]), hw]
    have ht := touches_toErr dest o line
    refine ⟨[.line dest line], ht, List.Sublist.refl _, ?_⟩
    rw [List.cons_append, ← List.map_singleton, ← List.map_append]
    have hdests : (o.toErr line).dests = o.dests := by rw [toErr_eq, dests_withConsole]
    exact .unopenable h (ht.host_eq ▸ hlocate) (hdests ▸ hstate)
  | @opened path file append offset h hlocate hstate hkept hcontents hoffset =>
    rw [Host.sinkOf_of_located h hlocate, hout (by simp [h])]
    cases haccepts : o.host.accepts file lines.length with
    | true =>
      obtain ⟨ht, ha⟩ := write_opened h hlocate hstate hkept hcontents hoffset haccepts
      exact ⟨[], ht, List.nil_sublist _, ha⟩
    | false =>
      obtain ⟨ht, ha⟩ := write_rejected h hlocate hstate hkept hcontents haccepts
      exact ⟨[.failed dest line], ht, List.Sublist.refl _, ha⟩
  | @failed path file text append kept later h hlocate hstate hlines hkept hfailed hcontents =>
    have hw : o.write (.file dest) line = o.toErr line := by simp only [Output.write, hstate]
    rw [Host.sinkOf_of_located h hlocate, hout (by simp [h]), hw]
    have ht := touches_toErr dest o line
    refine ⟨[.line dest line], ht, List.Sublist.refl _, ?_⟩
    rw [List.cons_append, ← List.map_singleton, ← List.map_append]
    have hlater : lines ++ [line] = kept ++ text :: (later ++ [line]) := by
      rw [hlines, List.append_assoc, List.cons_append]
    have hdests : (o.toErr line).dests = o.dests := by rw [toErr_eq, dests_withConsole]
    have hfiles : (o.toErr line).files = o.files := by rw [toErr_eq, files_withConsole]
    exact .failed h (ht.host_eq ▸ hlocate) (hdests ▸ hstate) hlater (ht.host_eq ▸ hkept)
      (ht.host_eq ▸ hfailed) (hfiles ▸ hcontents)

end Account

/-- What a history has come to. A destination that was not resolved was not touched, and neither was
a file that no resolved destination names. -/
structure Conveyed (o : Output) (calls : List Call) (s : Issued) (entries : List Entry) : Prop where
  sinks : s.sinks = (resolved calls).map o.host.sinkOf
  output : s.output =
    { o.withConsole (linesFor "stdout" (written [] calls)) (entries.flatMap Entry.texts) with
      dests := s.output.dests, files := s.output.files }
  accounts : ∀ dest ∈ resolved calls, Account o.files s.output dest
    (linesFor dest (written [] calls)) (entriesFor dest entries)
  fresh : ∀ dest ∉ resolved calls, s.output.dests.get? dest = none ∧
    linesFor dest (written [] calls) = [] ∧ entriesFor dest entries = []
  untouched : ∀ file, (∀ dest ∈ resolved calls, o.host.fileOf dest ≠ some file) →
    s.output.files.get? file = o.files.get? file
  order : (entries.filterMap Entry.write?).Sublist (written [] calls)

namespace Conveyed

variable {o : Output} {calls : List Call} {s s' : Issued} {entries new : List Entry} {c : Call}
  {dest : String}

theorem nil (h : o.dests = {}) : Conveyed o [] ⟨o, []⟩ [] where
  sinks := rfl
  output := by
    have hnil : linesFor "stdout" (written [] []) = [] := rfl
    rw [hnil, List.flatMap_nil, withConsole_nil]
  accounts _ hd := absurd hd List.not_mem_nil
  fresh _ _ := ⟨by rw [h]; rfl, rfl, rfl⟩
  untouched _ _ := rfl
  order := List.Sublist.refl _

theorem host_eq (h : Conveyed o calls s entries) : s.output.host = o.host := by
  rw [h.output, host_withConsole]

/-- A call that is about one of the destinations that are resolved by then: it is enough to account
for that one. -/
theorem touch (h : Conveyed o calls s entries)
    (hdistinct : o.host.Distinct (resolved (calls ++ [c])))
    (hdest : resolved (calls ++ [c]) ⊆ dest :: resolved calls)
    (hmem : dest ∈ resolved (calls ++ [c]))
    (hwrites : ∀ w ∈ c.writes (resolved calls), w.1 = dest)
    (hsinks : s'.sinks = s.sinks ++ c.dest?.toList.map o.host.sinkOf)
    (htouches : Touches dest s.output s'.output
      (linesFor "stdout" (c.writes (resolved calls))) new)
    (horder : (new.filterMap Entry.write?).Sublist (c.writes (resolved calls)))
    (haccount : Account o.files s'.output dest
      (linesFor dest (written [] calls) ++ linesFor dest (c.writes (resolved calls)))
      (entriesFor dest entries ++ new)) :
    Conveyed o (calls ++ [c]) s' (entries ++ new) := by
  have hlines (d : String) (hd : d ≠ dest) : linesFor d (c.writes (resolved calls)) = [] := by
    rw [linesFor, List.filter_eq_nil_iff.mpr, List.map_nil]
    intro w hw
    simp [hwrites w hw, Ne.symm hd]
  have hnew (d : String) (hd : d ≠ dest) : entriesFor d new = [] := by
    rw [entriesFor_of_dest d htouches.dest_eq, if_neg (Ne.symm hd)]
  have hcalls : resolved calls ⊆ resolved (calls ++ [c]) := by
    rw [resolved_append]
    exact List.subset_append_left _ _
  have hof (d : String) : s.output.host.fileOf d = o.host.fileOf d := by rw [h.host_eq]
  refine ⟨?_, ?_, ?_, ?_, ?_, ?_⟩
  · rw [hsinks, h.sinks, resolved_append, resolved_singleton, List.map_append]
  · have hconsole := with_withConsole
      (o.withConsole (linesFor "stdout" (written [] calls)) (entries.flatMap Entry.texts))
      (linesFor "stdout" (c.writes (resolved calls))) (new.flatMap Entry.texts)
      s.output.dests s.output.files
    rw [← h.output, withConsole_withConsole, ← linesFor_append, ← written_snoc,
      ← List.flatMap_append] at hconsole
    have houtput := htouches.output
    rw [hconsole] at houtput
    exact houtput
  · intro d hd
    rw [written_snoc, linesFor_append, entriesFor_append]
    by_cases hne : d = dest
    · rw [hne, entriesFor_of_dest dest htouches.dest_eq, if_pos rfl]
      exact haccount
    · -- Another destination: its file is not the one that was touched.
      have hd' : d ∈ resolved calls := List.mem_of_ne_of_mem hne (hdest hd)
      rw [hlines d hne, hnew d hne, List.append_nil, List.append_nil]
      refine (h.accounts d hd').frame htouches.host_eq (htouches.dests d hne) fun file hfile => ?_
      refine htouches.files file fun hsame => hne ?_
      rw [hof] at hfile hsame
      refine hdistinct d hd dest hmem ?_ (hfile.trans hsame.symm)
      rw [hfile, Option.isSome_some]
  · intro d hd
    have hne : d ≠ dest := by rintro rfl; exact hd hmem
    obtain ⟨hstate, hls, hes⟩ := h.fresh d fun hd' => hd (hcalls hd')
    rw [written_snoc, linesFor_append, entriesFor_append, hlines d hne, hnew d hne, hls, hes]
    exact ⟨(htouches.dests d hne).trans hstate, rfl, rfl⟩
  · intro file hfile
    have hthis : s.output.host.fileOf dest ≠ some file := by
      rw [hof]
      exact hfile dest hmem
    rw [htouches.files file hthis]
    exact h.untouched file fun d hd => hfile d (hcalls hd)
  · rw [written_snoc, List.filterMap_append]
    exact h.order.append horder

theorem resolve (h : Conveyed o calls s entries)
    (hdistinct : o.host.Distinct (resolved (calls ++ [c]))) (hc : c.dest? = some dest)
    (hwrites : c.writes (resolved calls) = []) :
    ∃ entries', Conveyed o (calls ++ [c]) (s.take (s.output.resolveDest dest)) entries' := by
  have hresolved : resolved (calls ++ [c]) = resolved calls ++ [dest] := by
    rw [resolved_append, resolved_singleton, hc, Option.toList_some]
  have hmem : dest ∈ resolved (calls ++ [c]) := by simp [hresolved]
  have hdest : resolved (calls ++ [c]) ⊆ dest :: resolved calls := by simp [hresolved]
  have hstep : ∃ new, (s.output.resolveDest dest).1 = o.host.sinkOf dest ∧
      Touches dest s.output (s.output.resolveDest dest).2 [] new ∧
      new.filterMap Entry.write? = [] ∧
      Account o.files (s.output.resolveDest dest).2 dest (linesFor dest (written [] calls))
        (entriesFor dest entries ++ new) := by
    -- Its account is open by now, or its file is still as it was before any call.
    by_cases hold : dest ∈ resolved calls
    · have ha := h.accounts dest hold
      rw [ha.resolveDest_eq, h.host_eq]
      exact ⟨[], rfl, .refl dest s.output, rfl, by rwa [List.append_nil]⟩
    · obtain ⟨hstate, hls, hes⟩ := h.fresh dest hold
      have hfile : ∀ file, s.output.host.fileOf dest = some file →
          s.output.files.get? file = o.files.get? file := by
        intro file hfile
        rw [h.host_eq] at hfile
        refine h.untouched file fun d hd hsame => hold ?_
        have hd' : d ∈ resolved (calls ++ [c]) := by simp [hresolved, hd]
        have he : d = dest := hdistinct d hd' dest hmem (by rw [hsame]; rfl) (hsame.trans hfile.symm)
        exact he ▸ hd
      rw [← h.host_eq, hls, hes]
      exact exists_account_of_resolveDest hstate hfile
  obtain ⟨new, hsink, htouches, hnone, haccount⟩ := hstep
  refine ⟨entries ++ new, h.touch hdistinct hdest hmem ?_ ?_ ?_ ?_ ?_⟩
  · simp [hwrites]
  · simp [Issued.take, hsink, hc]
  · rw [hwrites]
    exact htouches
  · rw [hnone]
    exact List.nil_sublist _
  · have hnil : linesFor dest [] = [] := rfl
    rw [hwrites, hnil, List.append_nil]
    exact haccount

theorem write (h : Conveyed o calls s entries) (hdistinct : o.host.Distinct (resolved calls))
    (i : Nat) (line : String) :
    ∃ entries', Conveyed o (calls ++ [.write i line]) (s.perform (.write i line)) entries' := by
  have hresolved : resolved (calls ++ [.write i line]) = resolved calls := by
    rw [resolved_append, resolved_singleton]
    exact List.append_nil _
  -- Nothing is written without a sink.
  cases hi : (resolved calls)[i]? with
  | none =>
    have hsink : s.sinks[i]? = none := by rw [h.sinks, List.getElem?_map, hi, Option.map_none]
    have hwritten : written [] (calls ++ [.write i line]) = written [] calls := by
      rw [written_snoc]
      simp [Call.writes, hi]
    have hs : s.perform (.write i line) = s := by simp only [Issued.perform, hsink]
    rw [hs]
    refine ⟨entries, ?_, ?_, ?_, ?_, ?_, ?_⟩ <;> simp only [hresolved, hwritten]
    exacts [h.sinks, h.output, h.accounts, h.fresh, h.untouched, h.order]
  | some dest =>
    have hsink : s.sinks[i]? = some (o.host.sinkOf dest) := by
      rw [h.sinks, List.getElem?_map, hi, Option.map_some]
    have hwrites : Call.writes (resolved calls) (.write i line) = [(dest, line)] := by
      simp [Call.writes, hi]
    have hmem : dest ∈ resolved calls := List.mem_of_getElem? hi
    obtain ⟨new, htouches, horder, haccount⟩ := (h.accounts dest hmem).write line
    rw [h.host_eq] at htouches haccount
    have hs : s.perform (.write i line) =
        { s with output := s.output.write (o.host.sinkOf dest) line } := by
      simp only [Issued.perform, hsink]
    rw [hs]
    have hmem' : dest ∈ resolved (calls ++ [.write i line]) := by rwa [hresolved]
    refine ⟨entries ++ new, h.touch ?_ ?_ hmem' ?_ ?_ ?_ ?_ ?_⟩
    · rwa [hresolved]
    · rw [hresolved]
      exact List.subset_cons_self _ _
    · simp [hwrites]
    · exact (List.append_nil _).symm
    · rw [hwrites]
      exact htouches
    · rwa [hwrites]
    · rw [hwrites, linesFor_self]
      exact haccount

theorem perform (h : Conveyed o calls s entries)
    (hdistinct : o.host.Distinct (resolved (calls ++ [c]))) :
    ∃ entries', Conveyed o (calls ++ [c]) (s.perform c) entries' := by
  cases c with
  | resolveDest dest => exact h.resolve hdistinct rfl rfl
  | resolve options => exact h.resolve hdistinct rfl rfl
  | write i line =>
    refine h.write (hdistinct.mono ?_) i line
    rw [resolved_append]
    exact List.subset_append_left _ _

end Conveyed

theorem exists_conveyed {o : Output} (ho : o.dests = {}) (calls : List Call)
    (hdistinct : o.host.Distinct (resolved calls)) :
    ∃ entries, Conveyed o calls (Issued.performAll ⟨o, []⟩ calls) entries := by
  -- By the last call: a history numbers its sinks from the front.
  induction calls using List.reverseRecOn with
  | nil => exact ⟨[], .nil ho⟩
  | append_singleton calls c ih =>
    have hsub : resolved calls ⊆ resolved (calls ++ [c]) := by
      rw [resolved_append]
      exact List.subset_append_left _ _
    obtain ⟨entries, h⟩ := ih (hdistinct.mono hsub)
    have hrun : Issued.performAll ⟨o, []⟩ (calls ++ [c]) =
        (Issued.performAll ⟨o, []⟩ calls).perform c := by
      simp only [Issued.performAll, List.foldl_append, List.foldl_cons, List.foldl_nil]
    rw [hrun]
    exact h.perform hdistinct

/-- Lines end up once, in order. Each sink is that of its destination, and to resolve a destination
again changes nothing. Standard output has the lines written for it. The error sink has entries and
nothing else, in the order of the lines; those of one destination tell what its file did not take.
-/
theorem lines_end_up_once (o : Output) (ho : o.dests = {}) (calls : List Call)
    (hdistinct : o.host.Distinct (resolved calls)) :
    let s := Issued.performAll ⟨o, []⟩ calls
    s.sinks = (resolved calls).map o.host.sinkOf ∧
      (∀ dest ∈ resolved calls, s.output.resolveDest dest = (o.host.sinkOf dest, s.output)) ∧
      ∃ entries : List Entry,
        s.output =
          { o.withConsole (linesFor "stdout" (written [] calls)) (entries.flatMap Entry.texts) with
            dests := s.output.dests, files := s.output.files } ∧
        (∀ e ∈ entries, e.dest ∈ resolved calls) ∧
        (entries.filterMap Entry.write?).Sublist (written [] calls) ∧
        (∀ dest ∈ resolved calls, Delivered o.host o.files s.output.files dest
          (linesFor dest (written [] calls)) (entriesFor dest entries)) ∧
        ∀ file, (∀ dest ∈ resolved calls, o.host.fileOf dest ≠ some file) →
          s.output.files.get? file = o.files.get? file := by
  intro s
  obtain ⟨entries, h⟩ := exists_conveyed ho calls hdistinct
  refine ⟨h.sinks, fun dest hd => ?_, entries, h.output, fun e he => ?_, h.order, fun dest hd => ?_,
    h.untouched⟩
  · rw [(h.accounts dest hd).resolveDest_eq, h.host_eq]
  · by_contra hne
    obtain ⟨-, -, hes⟩ := h.fresh e.dest hne
    have hmem : e ∈ entriesFor e.dest entries := List.mem_filter.mpr ⟨he, by simp⟩
    rw [hes] at hmem
    exact List.not_mem_nil hmem
  · have hd := (h.accounts dest hd).delivered
    rwa [h.host_eq] at hd

def onFullDisk : Output where
  host := {
    locate := fun path => if path = "locked" then none else some path
    accepts := fun file k => file != "full" || k < 1 }
  files := Keyed.ofList [("log", bytes ["old"])]

/-- A file that fails its second write, resolved again after that; one that is extended; one that
cannot be opened; and lines in between for the sinks of the console. -/
def diverted : List Call :=
  [.resolveDest "full", .resolveDest "+log", .write 0 "a", .resolveDest "locked", .write 1 "b",
    .resolveDest "none", .write 0 "c", .resolveDest "full", .write 2 "d", .write 3 "e",
    .resolve {}, .write 4 "f", .write 5 "g", .resolveDest "stdout", .write 6 "h"]

theorem lines_end_up_once_of_diverted :
    (onFullDisk.dests = {} ∧ onFullDisk.host.Distinct (resolved diverted)) ∧
      linesFor "full" (written [] diverted) = ["a", "c", "f"] ∧
      (Issued.performAll ⟨onFullDisk, []⟩ diverted).sinks =
        [.file "full", .file "+log", .stderr, .nowhere, .file "full", .stderr, .stdout] ∧
      (Issued.performAll ⟨onFullDisk, []⟩ diverted).output.err =
        ["Could not open file 'locked' for output. Using stderr instead.",
          "Could not write to file 'full'. Using stderr instead.", "c", "d", "f", "g"] ∧
      ∃ entries, Delivered onFullDisk.host onFullDisk.files
        (Issued.performAll ⟨onFullDisk, []⟩ diverted).output.files "full"
        (linesFor "full" (written [] diverted)) (entriesFor "full" entries) := by
  have hdistinct : onFullDisk.host.Distinct (resolved diverted) := by decide +kernel
  have hmem : "full" ∈ resolved diverted := by decide +kernel
  obtain ⟨hsinks, -, entries, -, -, -, hdelivered, -⟩ :=
    lines_end_up_once onFullDisk rfl diverted hdistinct
  refine ⟨⟨rfl, hdistinct⟩, by decide +kernel, ?_, by decide +kernel,
    entries, hdelivered "full" hmem⟩
  rw [hsinks]
  decide +kernel

end Output

end ResourceTrace
