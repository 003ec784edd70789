import ResourceTrace.Proofs.OpenFiles.Frame
import ResourceTrace.Proofs.Session.StartUp

/-!
The open files of the workload. It keeps the last eight files open that it has opened. The agent hears
of each file that is opened, but of those that are closed only where debug messages are logged, so
that otherwise it holds on to all files that were ever opened.
-/

set_option autoImplicit false

namespace ResourceTrace

namespace Workload

def detail (iteration : Nat) : FileDetail :=
  ⟨path iteration, if iteration % 4 = 0 then "rw" else "r"⟩

def file (iteration : Nat) : Handle × FileDetail := (⟨iteration + 2⟩, detail iteration)

def lastFiles (n count : Nat) : List (Handle × FileDetail) :=
  (List.range' (n + 1 - count) count).map file

theorem lastFiles_succ {n count : Nat} (h : count ≤ n) :
    lastFiles (n + 1) (count + 1) = lastFiles n count ++ [file (n + 1)] := by
  have hfirst : n + 1 + 1 - (count + 1) = n + 1 - count := by omega
  have hlast : n + 1 - count + count = n + 1 := by omega
  rw [lastFiles, hfirst, List.range'_concat, List.map_append, Nat.one_mul, hlast]
  rfl

theorem lastFiles_eq_cons {n count : Nat} (h : count ≤ n) :
    lastFiles n (count + 1) = file (n - count) :: lastFiles n count := by
  have hfirst : n + 1 - (count + 1) = n - count := by omega
  have hsecond : n - count + 1 = n + 1 - count := by omega
  rw [lastFiles, hfirst, List.range'_succ, hsecond]
  rfl

theorem length_lastFiles (n count : Nat) : (lastFiles n count).length = count := by
  simp [lastFiles]

theorem mem_lastFiles {n count : Nat} (h : count ≤ n) (k : Handle) (d : FileDetail) :
    (k, d) ∈ lastFiles n count ↔ ∃ i, n < i + count ∧ i ≤ n ∧ k = ⟨i + 2⟩ ∧ d = detail i := by
  simp only [lastFiles, List.mem_map, List.mem_range'_1, file, Prod.mk.injEq, eq_comm (a := k),
    eq_comm (a := d)]
  refine exists_congr fun i => ?_
  constructor
  · rintro ⟨hi, hk⟩
    exact ⟨by omega, by omega, hk⟩
  · rintro ⟨hi, hi', hk⟩
    exact ⟨by omega, hk⟩

/-- The descriptors go up, so that no two iterations share one. -/
theorem not_mem_lastFiles {n count : Nat} (h : count ≤ n) {i : Nat} (hi : i + count ≤ n ∨ n < i)
    (d : FileDetail) : ((⟨i + 2⟩, d) : Handle × FileDetail) ∉ lastFiles n count := by
  rw [mem_lastFiles h]
  rintro ⟨j, hj, hj', hk, -⟩
  have haddress : i + 2 = j + 2 := congrArg Handle.address hk
  omega

theorem nodup_lastFiles (n count : Nat) : ((lastFiles n count).map Prod.fst).Nodup := by
  rw [lastFiles, List.map_map]
  refine (List.nodup_range' 1).map fun i j hij => ?_
  have haddress : i + 2 = j + 2 := congrArg Handle.address hij
  omega

structure Apart (s s' : State) : Prop where
  iteration : s'.1.iteration = s.1.iteration
  nextDescriptor : s'.1.nextDescriptor = s.1.nextDescriptor
  opened : s'.1.opened = s.1.opened
  agent : s.2.SameFiles s'.2

namespace Apart

theorem refl (s : State) : Apart s s := ⟨rfl, rfl, rfl, .refl s.2⟩

theorem trans {s s' s'' : State} (h : Apart s s') (h' : Apart s' s'') : Apart s s'' where
  iteration := h'.iteration.trans h.iteration
  nextDescriptor := h'.nextDescriptor.trans h.nextDescriptor
  opened := h'.opened.trans h.opened
  agent := h.agent.trans h'.agent

end Apart

open Agent (sameFiles_stage sameFiles_closeAllocation)

theorem allocations_ne_openFiles : Logger.allocations ≠ Logger.openFiles := by decide

theorem apart_allocate (s : State) : Apart s (allocate s) where
  iteration := rfl
  nextDescriptor := rfl
  opened := rfl
  agent := (sameFiles_stage allocations_ne_openFiles _ _ _ _ _).trans
    (sameFiles_closeAllocation _ _ _)

theorem apart_grow (s : State) : Apart s (grow s) := by
  rw [grow]
  split
  · refine ⟨rfl, rfl, rfl, ?_⟩
    exact ((sameFiles_stage allocations_ne_openFiles _ _ _ _ _).trans
      (sameFiles_stage allocations_ne_openFiles _ _ _ _ _)).trans (sameFiles_closeAllocation _ _ _)
  · exact .refl s

theorem apart_free (s : State) : Apart s (free s) := by
  rw [free]
  split
  · split
    · exact .refl s
    · exact ⟨rfl, rfl, rfl, Agent.sameFiles_free _ _⟩
  · exact .refl s

theorem apart_buffers (s : State) : Apart s (free (grow (allocate s))) :=
  (apart_allocate s).trans ((apart_grow _).trans (apart_free _))

theorem apart_logRequest [PatternEngine] (s : State) : Apart s (logRequest s) where
  iteration := rfl
  nextDescriptor := rfl
  opened := rfl
  agent := (Agent.sameFiles_stageValue _ _ _ _).trans (Agent.sameFiles_closeValues _ _ _ _)

theorem sameFiles_begin (a : Agent) : a.SameFiles (begin a) :=
  .of_aside (Session.aside_begin ChangeKind.locale.logger_ne a)

/-- After `n` iterations the application has the last `held` files open, and the agent tracks the
last `tracked` ones, each as what its own iteration has opened it as. -/
structure Holds (s : State) (n held tracked : Nat) : Prop where
  nextDescriptor : s.1.nextDescriptor = n + 3
  opened : s.1.opened = (lastFiles n held).map Prod.fst
  tracks : ∃ log, s.2.Tracks log ∧ log.staged? OpenFiles.Action.mode? thread = none ∧
    ∀ k d, log.openAs? k = some d ↔ (k, d) ∈ lastFiles n tracked

def stageFile (a : Agent) (i : Nat) : Agent :=
  let a := a.stagePath thread (path i)
  if i % 4 = 0 then a.stageMode thread "rw" else a

theorem openFile_eq (s : State) :
    openFile s =
      ({ s.1 with
          nextDescriptor := s.1.nextDescriptor + 1
          opened := s.1.opened ++ [⟨s.1.nextDescriptor⟩] },
        (stageFile s.2 s.1.iteration).closeOpening thread ⟨s.1.nextDescriptor⟩) := rfl

theorem rotate_of_length_le {debugging : Bool} {s : State} (h : s.1.opened.length ≤ 8) :
    rotate debugging s = s := by
  rw [rotate]
  split
  · rfl
  · rw [if_pos h]

theorem rotate_of_cons {debugging : Bool} {s : State} {oldest : Handle} {rest : List Handle}
    (h : s.1.opened = oldest :: rest) (hlength : 8 ≤ rest.length) :
    rotate debugging s =
      ({ s.1 with opened := rest }, if debugging then (s.2.closeFile oldest).2 else s.2) := by
  have hmany : ¬s.1.opened.length ≤ 8 := by
    rw [h, List.length_cons]
    omega
  simp only [rotate, h, if_neg (h ▸ hmany)]

def callOn (a : Agent) (action : OpenFiles.Action) : OpenFiles.Call :=
  { thread, action, stack := a.stack, now := a.now }

theorem openAs?_opened (a : Agent) (h : Handle) (log : OpenFiles.History) (k : Handle) :
    OpenFiles.History.openAs? k (callOn a (.opened h) :: log) =
      if h = k then (log.detail? thread).or (log.openAs? k) else log.openAs? k := rfl

theorem openAs?_closed (a : Agent) (h : Handle) (log : OpenFiles.History) (k : Handle) :
    OpenFiles.History.openAs? k (callOn a (.closed h) :: log) =
      if h = k then none else log.openAs? k := rfl

/-- The mode must not be left over from an earlier file. -/
theorem exists_stageFile {a : Agent} {log : OpenFiles.History} (h : a.Tracks log)
    (hmode : log.staged? OpenFiles.Action.mode? thread = none) (i : Nat) :
    ∃ log', (stageFile a i).Tracks log' ∧ log'.detail? thread = some (detail i) ∧
      ∀ k, log'.openAs? k = log.openAs? k := by
  have hpath : (a.stagePath thread (path i)).Tracks (callOn a (.path (path i)) :: log) :=
    h.step (callOn a (.path (path i)))
  by_cases hi : i % 4 = 0
  · rw [stageFile, if_pos hi]
    refine ⟨callOn _ (.mode "rw") :: _, hpath.step (callOn _ (.mode "rw")), ?_, fun _ => rfl⟩
    simp [OpenFiles.History.detail?, OpenFiles.History.staged?, callOn, OpenFiles.Action.path?,
      OpenFiles.Action.mode?, detail, hi]
  · rw [stageFile, if_neg hi]
    refine ⟨_, hpath, ?_, fun _ => rfl⟩
    simp [OpenFiles.History.detail?, OpenFiles.History.staged?, callOn, OpenFiles.Action.path?,
      OpenFiles.Action.mode?, detail, hi, hmode]

namespace Holds

variable {s s' : State} {n held tracked : Nat}

theorem start {a : Agent} (h : a.Tracks []) : Holds ({}, begin a) 0 0 0 where
  nextDescriptor := rfl
  opened := rfl
  tracks := ⟨[], (sameFiles_begin a).tracks h, rfl, fun k d => by
    simp [OpenFiles.History.openAs?, lastFiles]⟩

theorem of_apart (h : Holds s n held tracked) (ha : Apart s s') : Holds s' n held tracked where
  nextDescriptor := ha.nextDescriptor.trans h.nextDescriptor
  opened := ha.opened.trans h.opened
  tracks := by
    obtain ⟨log, htracks, hmode, hopen⟩ := h.tracks
    exact ⟨log, ha.agent.tracks htracks, hmode, hopen⟩

theorem nextIteration (h : Holds s n held tracked) :
    Holds (Workload.nextIteration s) n held tracked :=
  ⟨h.nextDescriptor, h.opened, h.tracks⟩

theorem openFile (h : Holds s n held tracked) (hi : s.1.iteration = n + 1) (hheld : held ≤ n)
    (htracked : tracked ≤ n) : Holds (Workload.openFile s) (n + 1) (held + 1) (tracked + 1) := by
  obtain ⟨log, htracks, hmode, hopen⟩ := h.tracks
  obtain ⟨log', htracks', hdetail, hsame⟩ := exists_stageFile htracks hmode (n + 1)
  have hopened := htracks'.step (callOn (stageFile s.2 (n + 1)) (.opened ⟨n + 3⟩))
  rw [openFile_eq, hi, h.nextDescriptor]
  refine ⟨rfl, ?_, _, hopened, ?_, fun k d => ?_⟩
  · rw [lastFiles_succ hheld, List.map_append, ← h.opened]
    rfl
  · simp [OpenFiles.History.staged?, callOn]
  · rw [openAs?_opened, lastFiles_succ htracked, List.mem_append, List.mem_singleton, file,
      Prod.mk.injEq, ← hopen, ← hsame]
    by_cases hk : k = ⟨n + 3⟩
    · -- Nothing was ever open under the next descriptor.
      have hnew : log'.openAs? k ≠ some d := by
        rw [hsame, ne_eq, hopen, hk]
        exact not_mem_lastFiles htracked (.inr (Nat.lt_succ_self n)) d
      rw [if_pos hk.symm, hdetail, Option.some_or, Option.some.injEq]
      exact ⟨fun hd => .inr ⟨hk, hd.symm⟩, fun hd => (hd.resolve_left hnew).2.symm⟩
    · rw [if_neg (Ne.symm hk)]
      simp [hk]

theorem rotate_of_few (h : Holds s n held tracked) (hheld : held ≤ 8) (debugging : Bool) :
    Holds (rotate debugging s) n held tracked := by
  have hlength : s.1.opened.length ≤ 8 := by
    rw [h.opened, List.length_map, length_lastFiles]
    exact hheld
  rwa [rotate_of_length_le hlength]

theorem rotate_of_many (h : Holds s n 9 tracked) (hn : 8 ≤ n) (debugging : Bool)
    (htracked : debugging = true → tracked = 9) :
    Holds (rotate debugging s) n 8 (if debugging then 8 else tracked) := by
  have hcons := lastFiles_eq_cons hn
  have hopened : s.1.opened = ⟨n - 8 + 2⟩ :: (lastFiles n 8).map Prod.fst := by
    rw [h.opened, hcons]
    rfl
  rw [rotate_of_cons hopened (by simp [length_lastFiles])]
  cases debugging with
  | false => exact ⟨h.nextDescriptor, rfl, h.tracks⟩
  | true =>
    obtain ⟨log, htracks, hmode, hopen⟩ := h.tracks
    rw [htracked rfl, hcons] at hopen
    refine ⟨h.nextDescriptor, rfl, _, htracks.step (callOn s.2 (.closed ⟨n - 8 + 2⟩)), ?_,
      fun k d => ?_⟩
    · rw [OpenFiles.History.staged?_cons_of_none rfl (by simp [callOn]), hmode]
    · rw [openAs?_closed]
      by_cases hk : k = ⟨n - 8 + 2⟩
      · rw [if_pos hk.symm, hk]
        have hgone := not_mem_lastFiles hn (i := n - 8) (.inl (by omega)) d
        exact ⟨fun hc => (by cases hc), fun hc => absurd hc hgone⟩
      · rw [if_neg (Ne.symm hk), hopen, List.mem_cons, file, Prod.mk.injEq]
        simp [hk]

end Holds

def trackedCount (debugging : Bool) (n : Nat) : Nat := if debugging then min n 8 else n

theorem iteration_rotate (debugging : Bool) (s : State) :
    (rotate debugging s).1.iteration = s.1.iteration := by
  rw [rotate]
  split
  · rfl
  · split
    · rfl
    · rfl

theorem iteration_step [PatternEngine] (debugging : Bool) (s : State) :
    (step debugging s).1.iteration = s.1.iteration + 1 := by
  rw [step, (apart_logRequest _).iteration, iteration_rotate, openFile_eq]
  exact (apart_buffers (nextIteration s)).iteration

theorem Holds.step [PatternEngine] {s : State} {n : Nat} {debugging : Bool}
    (h : Holds s n (min n 8) (trackedCount debugging n)) (hi : s.1.iteration = n) :
    Holds (step debugging s) (n + 1) (min (n + 1) 8) (trackedCount debugging (n + 1)) := by
  have hbuffers := apart_buffers (Workload.nextIteration s)
  have htracked : trackedCount debugging n ≤ n := by
    rw [trackedCount]
    split <;> omega
  have hopened := (h.nextIteration.of_apart hbuffers).openFile
    (hbuffers.iteration.trans (congrArg (· + 1) hi)) (Nat.min_le_left n 8) htracked
  rw [Workload.step]
  refine Holds.of_apart ?_ (apart_logRequest _)
  by_cases hn : n < 8
  · have hcounts : min n 8 + 1 = min (n + 1) 8 ∧
        trackedCount debugging n + 1 = trackedCount debugging (n + 1) := by
      simp only [trackedCount]
      split <;> omega
    rw [hcounts.1, hcounts.2] at hopened
    exact hopened.rotate_of_few (Nat.min_le_right _ _) debugging
  · have hcounts : min n 8 + 1 = 9 ∧ min (n + 1) 8 = 8 := by omega
    rw [hcounts.1] at hopened
    rw [hcounts.2]
    have hrotated := hopened.rotate_of_many (by omega) debugging fun hd => by
      simp only [trackedCount, hd, if_true]
      omega
    have hcount : (if debugging then 8 else trackedCount debugging n + 1) =
        trackedCount debugging (n + 1) := by
      cases debugging with
      | true => exact hcounts.2.symm
      | false => rfl
    rwa [hcount] at hrotated

theorem holds_iterate [PatternEngine] {a : Agent} (h : a.Tracks []) (debugging : Bool) (n : Nat) :
    Holds (iterate debugging n ({}, begin a)) n (min n 8) (trackedCount debugging n) := by
  have hiteration (n : Nat) : (iterate debugging n ({}, begin a)).1.iteration = n := by
    induction n with
    | zero => rfl
    | succ n ih => rw [iterate, iteration_step, ih]
  induction n with
  | zero => cases debugging <;> exact .start h
  | succ n ih => exact ih.step (hiteration n)

namespace Holds

variable {s : State} {n held tracked : Nat}

theorem get?_iff (h : Holds s n held tracked) (k : Handle) (d : FileDetail) :
    (∃ r, s.2.files.ledger.get? k = some r ∧ r.detail = d) ↔ (k, d) ∈ lastFiles n tracked := by
  obtain ⟨log, htracks, -, hopen⟩ := h.tracks
  rw [← hopen, ← htracks.holds.detail_eq, Option.map_eq_some_iff]

theorem exists_get?_iff (h : Holds s n held tracked) (k : Handle) :
    (∃ r, s.2.files.ledger.get? k = some r) ↔ k ∈ (lastFiles n tracked).map Prod.fst := by
  simp only [List.mem_map, Prod.exists, exists_and_right, exists_eq_right, ← h.get?_iff]
  constructor
  · rintro ⟨r, hr⟩
    exact ⟨r.detail, r, hr, rfl⟩
  · rintro ⟨d, r, hr, -⟩
    exact ⟨r, hr⟩

theorem size_eq (h : Holds s n held tracked) : s.2.files.ledger.size = tracked := by
  have hkeys (k : Handle) :
      k ∈ s.2.files.ledger.records.keys ↔ k ∈ (lastFiles n tracked).map Prod.fst := by
    rw [← h.exists_get?_iff, ← Option.ne_none_iff_exists', Ledger.get?, ne_eq,
      Keyed.get?_eq_none_iff, Classical.not_not]
  have hperm := (List.perm_ext_iff_of_nodup s.2.files.ledger.records.nodup
    (nodup_lastFiles n tracked)).mpr hkeys
  have hlength := hperm.length_eq
  rw [List.length_map, List.length_map, length_lastFiles] at hlength
  exact hlength

end Holds

end Workload

namespace Session

open Workload (lastFiles)

theorem tracks_startUp {host : Host} {now : Moment} {args : Arguments} {b : Agent}
    (h : startUp args (freshAgent host now) = .running b) : b.Tracks [] := by
  have hsame : Agent.SameFiles { now } (freshAgent host now) := .of_staging rfl rfl rfl
  refine startUp_keeps (P := fun a => a.Tracks []) (fun {a b name line} ha hb => ?_)
    (fun {a} ha => a.sameFiles_start.tracks ha) (hsame.tracks (Agent.tracks_fresh {} now)) h
  rw [Agent.configure] at hb
  split at hb
  · cases hb
  · cases hb
    exact ⟨ha.logger, ha.holds, ha.events⟩

theorem sameFiles_greet (args : Arguments) (a : Agent) : a.SameFiles (greet args a) :=
  .of_aside (aside_greet _ args a)

/-- After any start and any number of iterations the application has its last eight files open, or
all if there are fewer. Where debug messages are logged the agent tracks just these, each as what
its own iteration has opened it as; otherwise it tracks all files that were ever opened. The two
agree exactly as long as no file was closed. -/
theorem tracked_files_by_log_level [PatternEngine] (host : Host) (now : Moment)
    (args : Arguments) {b : Agent} (hrunning : startUp args (freshAgent host now) = .running b)
    (debugging : Bool) (n : Nat) :
    let s := Workload.iterate debugging n ({}, Workload.begin (greet args b))
    let ledger := s.2.files.ledger
    let tracked := if debugging then min n 8 else n
    s.1.opened = (lastFiles n (min n 8)).map Prod.fst ∧
      (∀ k d, (∃ r, ledger.get? k = some r ∧ r.detail = d) ↔ (k, d) ∈ lastFiles n tracked) ∧
      ledger.size = tracked ∧
      ((∀ k, (∃ r, ledger.get? k = some r) ↔ k ∈ s.1.opened) ↔ debugging = true ∨ n ≤ 8) := by
  intro s ledger tracked
  have htracks := (sameFiles_greet args b).tracks (tracks_startUp hrunning)
  have hholds : Workload.Holds s n (min n 8) tracked := Workload.holds_iterate htracks debugging n
  have hexists (k : Handle) :
      (∃ r, ledger.get? k = some r) ↔ k ∈ (lastFiles n tracked).map Prod.fst :=
    hholds.exists_get?_iff k
  refine ⟨hholds.opened, hholds.get?_iff, hholds.size_eq, ?_⟩
  by_cases hnone : debugging = true ∨ n ≤ 8
  · have hcount : tracked = min n 8 := by
      rcases hnone with rfl | hn
      · rfl
      · cases debugging with
        | true => rfl
        | false => exact (Nat.min_eq_left hn).symm
    refine iff_of_true (fun k => ?_) hnone
    rw [hexists, hholds.opened, hcount]
  · obtain ⟨hquiet, hn⟩ := not_or.mp hnone
    have hcount : tracked = n := if_neg hquiet
    refine iff_of_false (fun hsame => ?_) hnone
    -- The first file was closed, and the agent still has it.
    have hfirst : ∃ r, ledger.get? ⟨3⟩ = some r := by
      obtain ⟨r, hr, -⟩ := (hholds.get?_iff ⟨3⟩ (Workload.detail 1)).mpr (by
        rw [hcount, Workload.mem_lastFiles (Nat.le_refl n)]
        exact ⟨1, by omega, by omega, rfl, rfl⟩)
      exact ⟨r, hr⟩
    have hopened := (hsame ⟨3⟩).mp hfirst
    rw [hholds.opened, List.mem_map] at hopened
    obtain ⟨⟨k, d⟩, hopen, hk⟩ := hopened
    cases hk
    exact Workload.not_mem_lastFiles (Nat.min_le_left n 8) (.inl (by omega)) d hopen

theorem tracked_files_by_log_level_of_nine :
    ∃ (b : Agent) (s : Workload.State),
      startUp {} (freshAgent .emptyDirectory ⟨0⟩) = .running b ∧
      s = Workload.iterate true 9 ({}, Workload.begin (greet {} b)) ∧
      s.1.opened = [⟨4⟩, ⟨5⟩, ⟨6⟩, ⟨7⟩, ⟨8⟩, ⟨9⟩, ⟨10⟩, ⟨11⟩] ∧
      (∃ r, s.2.files.ledger.get? ⟨6⟩ = some r ∧
        r.detail = ⟨"/var/lib/app/segment-4.dat", "rw"⟩) ∧
      (¬∃ r, s.2.files.ledger.get? ⟨3⟩ = some r) ∧ s.2.files.ledger.size = 8 := by
  have hrunning := startUp_nothing .emptyDirectory ⟨0⟩
  obtain ⟨hopened, hfiles, hsize, hagree⟩ :=
    tracked_files_by_log_level .emptyDirectory ⟨0⟩ {} hrunning true 9
  have hfourth := (hfiles ⟨6⟩ ⟨"/var/lib/app/segment-4.dat", "rw"⟩).mpr (by decide +kernel)
  refine ⟨_, _, hrunning, rfl, hopened, hfourth, fun hfirst => ?_, hsize⟩
  have hstays := (hagree.mpr (.inl rfl) ⟨3⟩).mp hfirst
  rw [hopened] at hstays
  exact absurd hstays (by decide)

/-- Whether debug messages are logged makes a difference to what is tracked, and none to what is
open: the first of nine files is closed, and without these messages it stays tracked. -/
theorem closed_file_stays_tracked :
    let after (debugging : Bool) : Workload.State := Workload.iterate debugging 9
      ({}, Workload.begin (greet {} (freshAgent .emptyDirectory ⟨0⟩).start))
    startUp {} (freshAgent .emptyDirectory ⟨0⟩) = .running (freshAgent .emptyDirectory ⟨0⟩).start ∧
      (after false).1.opened = (after true).1.opened ∧ ⟨3⟩ ∉ (after false).1.opened ∧
      ((after false).2.files.ledger.get? ⟨3⟩).map Record.detail =
        some ⟨"/var/lib/app/segment-1.dat", "r"⟩ ∧
      (after false).2.files.ledger.size = 9 ∧ (after true).2.files.ledger.size = 8 := by
  refine ⟨startUp_nothing _ _, ?_⟩
  decide +kernel

end Session

end ResourceTrace
