import ResourceTrace.Dump.Report
import ResourceTrace.Pattern.Interpreter
import ResourceTrace.Proofs.Ledger.Age

set_option autoImplicit false

namespace ResourceTrace

variable {δ : Type}

namespace DumpFilter

def texts (f : DumpFilter) (s : Stack) : List String := (s.take f.maxFrames).map Frame.text

theorem acceptsSizeAndAge_iff (f : DumpFilter) (r : Record δ) (now : Moment) :
    f.acceptsSizeAndAge r now = true ↔
      f.minStackSize ≤ (r.size : Int) ∧
        (now.nanos - r.created.nanos).toNat ≤ f.maxAge * 1000000000 ∧
        f.minAge * 1000000000 ≤ (now.nanos - r.created.nanos).toNat := by
  rw [acceptsSizeAndAge, decide_eq_true_iff]
  rfl

variable [PatternEngine]

/-- The bounds on a record of its own. A record from the future has the age zero, and the
patterns see only what would be printed. -/
structure Accepts (f : DumpFilter) (now : Moment) (r : Record δ) : Prop where
  size : f.minStackSize ≤ (r.size : Int)
  minAge : f.minAge * 1000000000 ≤ (now.nanos - r.created.nanos).toNat
  maxAge : (now.nanos - r.created.nanos).toNat ≤ f.maxAge * 1000000000
  contains : ∀ p, f.mustContain = some p → ∃ line ∈ f.texts r.stack, p.isFoundIn line = true
  lacks : ∀ p, f.mustNotContain = some p → ∀ line ∈ f.texts r.stack, p.isFoundIn line = false

theorem acceptsLines_iff (f : DumpFilter) (lines : List String) :
    f.acceptsLines lines = true ↔
      (∀ p, f.mustContain = some p → ∃ line ∈ lines, p.isFoundIn line = true) ∧
        ∀ p, f.mustNotContain = some p → ∀ line ∈ lines, p.isFoundIn line = false := by
  cases hc : f.mustContain <;> cases hn : f.mustNotContain <;> simp [acceptsLines, hc, hn]

theorem accepts?_eq (f : DumpFilter) (r : Record δ) (now : Moment) :
    f.accepts? r now =
      if (f.acceptsSizeAndAge r now && f.acceptsLines (f.texts r.stack)) = true then
        some (f.texts r.stack)
      else none := rfl

theorem accepts?_of_accepts {f : DumpFilter} {now : Moment} {r : Record δ} (h : f.Accepts now r) :
    f.accepts? r now = some (f.texts r.stack) := by
  have hbounds := (f.acceptsSizeAndAge_iff r now).mpr ⟨h.size, h.maxAge, h.minAge⟩
  have hlines := (f.acceptsLines_iff (f.texts r.stack)).mpr ⟨h.contains, h.lacks⟩
  rw [accepts?_eq, hbounds, hlines]
  rfl

theorem accepts?_of_not_accepts {f : DumpFilter} {now : Moment} {r : Record δ}
    (h : ¬f.Accepts now r) : f.accepts? r now = none := by
  rw [accepts?_eq, if_neg]
  intro hc
  rw [Bool.and_eq_true] at hc
  obtain ⟨hsize, hmax, hmin⟩ := (f.acceptsSizeAndAge_iff r now).mp hc.1
  obtain ⟨hcontains, hlacks⟩ := (f.acceptsLines_iff _).mp hc.2
  exact h ⟨hsize, hmin, hmax, hcontains, hlacks⟩

theorem isSome_accepts?_iff (f : DumpFilter) (now : Moment) (r : Record δ) :
    (f.accepts? r now).isSome = true ↔ f.Accepts now r := by
  by_cases h : f.Accepts now r
  · simp [accepts?_of_accepts h, h]
  · simp [accepts?_of_not_accepts h, h]

end DumpFilter

section

variable [PatternEngine]

namespace Report

open Ledger (sizes)

def accepted (l : Ledger δ) (f : DumpFilter) (now : Moment) : List (Record δ) :=
  l.byAge.filter fun r => (f.accepts? r now).isSome

theorem print_of_accepts {f : DumpFilter} {now : Moment} {r : Record δ} (h : f.Accepts now r)
    (zone : Zone) (p : Progress) :
    print f now zone p r =
      ⟨p.lines ++ recordLines r (f.texts r.stack) zone, p.count + 1, p.size + r.size⟩ := by
  simp [print, DumpFilter.accepts?_of_accepts h]

theorem print_of_not_accepts {f : DumpFilter} {now : Moment} {r : Record δ}
    (h : ¬f.Accepts now r) (zone : Zone) (p : Progress) : print f now zone p r = p := by
  simp [print, DumpFilter.accepts?_of_not_accepts h]

/-- The loop prints the accepted records and counts what it has printed. -/
theorem foldl_print (f : DumpFilter) (now : Moment) (zone : Zone) (rs : List (Record δ))
    (p : Progress) :
    rs.foldl (print f now zone) p =
      let printed := rs.filter fun r => (f.accepts? r now).isSome
      ⟨p.lines ++ printed.flatMap fun r => recordLines r (f.texts r.stack) zone,
        p.count + printed.length, p.size + sizes printed⟩ := by
  -- The records that were printed before only change what the loop starts from.
  induction rs generalizing p with
  | nil => simp
  | cons r rs ih =>
    rw [List.foldl_cons, ih]
    by_cases h : f.Accepts now r
    · have hs := (f.isSome_accepts?_iff now r).mpr h
      simp [print_of_accepts h, hs]
      omega
    · have hs : (f.accepts? r now).isSome = false := by
        simp [DumpFilter.accepts?_of_not_accepts h]
      simp [print_of_not_accepts h, hs]

theorem make_eq (l : Ledger δ) (f : DumpFilter) (throttle : Nat) (now : Moment) (zone : Zone) :
    make l f throttle now zone =
      let printed := accepted l f now
      if f.shouldDump l.total throttle = true ∧ printed ≠ [] then
        ⟨(printed.flatMap fun r => recordLines r (f.texts r.stack) zone) ++
          [summary printed.length l.size (sizes printed) l.total], true, l.total⟩
      else silent throttle := by
  have hloop := foldl_print f now zone l.byAge {}
  by_cases hd : f.shouldDump l.total throttle = true
  · by_cases hp : accepted l f now = []
    · simp only [accepted] at hp
      simp [make, hd, hloop, accepted, hp, silent]
    · simp only [accepted] at hp
      simp [make, hd, hloop, accepted, hp]
  · simp [make, hd]

theorem make_zone (l : Ledger δ) (f : DumpFilter) (throttle : Nat) (now : Moment)
    (zone zone' : Zone) :
    (make l f throttle now zone).emitted = (make l f throttle now zone').emitted ∧
      (make l f throttle now zone).throttle = (make l f throttle now zone').throttle := by
  rw [make_eq, make_eq]
  dsimp only
  split <;> exact ⟨rfl, rfl⟩

section

variable {l : Ledger δ} (h : l.Conserved) (f : DumpFilter) (now : Moment)

include h

theorem mem_accepted (r : Record δ) :
    r ∈ accepted l f now ↔ l.get? r.handle = some r ∧ f.Accepts now r := by
  rw [accepted, List.mem_filter, h.mem_byAge, f.isSome_accepts?_iff]

theorem accepted_before : (accepted l f now).Pairwise Record.Before :=
  h.byAge_before.filter _

theorem sizes_accepted_le : sizes (accepted l f now) ≤ l.total := by
  have hs := Ledger.sizes_filter l.byAge fun r => (f.accepts? r now).isSome
  rw [h.sizes_byAge] at hs
  rw [accepted]
  omega

theorem accepted_ne_nil :
    accepted l f now ≠ [] ↔ ∃ r, l.get? r.handle = some r ∧ f.Accepts now r := by
  simp only [← mem_accepted h]
  constructor
  · exact List.exists_mem_of_ne_nil _
  · rintro ⟨r, hr⟩
    exact List.ne_nil_of_mem hr

end

/-- A report on any ledger that operations lead to. It prints if the gates are open and some
record is accepted, and then it prints exactly the accepted records, each with its header and
its frames, strictly in the order of age, and one summary behind them, and it moves the throttle
to the total of the ledger. Otherwise it writes nothing and leaves the throttle alone. -/
theorem prints_accepted_records (ops : List (Ledger.Operation δ)) (f : DumpFilter)
    (throttle : Nat) (now : Moment) (zone : Zone) :
    let l := Ledger.run {} ops
    let report := make l f throttle now zone
    (report.emitted = true ↔ f.shouldDump l.total throttle = true ∧
      ∃ r, l.get? r.handle = some r ∧ f.Accepts now r) ∧
    (report.emitted = true → ∃ printed : List (Record δ),
      (∀ r, r ∈ printed ↔ l.get? r.handle = some r ∧ f.Accepts now r) ∧
      printed.Pairwise Record.Before ∧
      report.lines =
        (printed.flatMap fun r =>
          [s!"Allocated {r.size} bytes at {r.handle.text}",
           s!"Timestamp: {r.created.text zone}", "Allocated at:"] ++
            (f.texts r.stack).map ("\t" ++ ·)) ++
        [s!"Printed {printed.length} of {l.size} allocations with {sizes printed} bytes " ++
          s!"(of {l.total} bytes allocated in total)."] ∧
      sizes printed ≤ l.total ∧ report.throttle = l.total) ∧
    (report.emitted = false → report.lines = [] ∧ report.throttle = throttle) := by
  intro l report
  have hl : l.Conserved := Ledger.conserved_empty.run ops
  have hmake : report = _ := make_eq l f throttle now zone
  by_cases hopen : f.shouldDump l.total throttle = true ∧ accepted l f now ≠ []
  · rw [if_pos hopen] at hmake
    rw [hmake]
    refine ⟨?_, fun _ => ?_, fun hc => Bool.noConfusion hc⟩
    · rw [← accepted_ne_nil hl]
      exact ⟨fun _ => hopen, fun _ => rfl⟩
    · exact ⟨accepted l f now, mem_accepted hl f now, accepted_before hl f now, rfl,
        sizes_accepted_le hl f now, rfl⟩
  · rw [if_neg hopen] at hmake
    rw [hmake]
    refine ⟨?_, fun hc => Bool.noConfusion hc, fun _ => ⟨rfl, rfl⟩⟩
    rw [← accepted_ne_nil hl]
    exact ⟨fun hc => Bool.noConfusion hc, fun hc => absurd hc hopen⟩

end Report

end

/-- The pattern is found in the one frame that is printed, two hours east of Greenwich. -/
example :
    let stack : Stack := [⟨"app::alloc", some "app.rs", some 7⟩, ⟨"app::main", none, none⟩]
    let f : DumpFilter := ⟨1, 0, 0, -1, 0, 0, 60, some ⟨"alloc"⟩, none⟩
    let l : Ledger Unit := Ledger.run {} [.add ⟨⟨16⟩, 570, ⟨5⟩, stack, ()⟩]
    Report.make l f 0 ⟨9⟩ (fun _ => 7200) =
      ⟨["Allocated 570 bytes at 0x10", "Timestamp: Thu Jan 01 02:00:00 +02:00 1970",
        "Allocated at:", "\tapp::alloc (app.rs:7)",
        "Printed 1 of 1 allocations with 570 bytes (of 570 bytes allocated in total)."],
        true, 570⟩ := by
  decide +kernel

end ResourceTrace
