import Mathlib.Algebra.Order.BigOperators.Group.List
import Mathlib.Algebra.Order.Ring.Nat
import ResourceTrace.Proofs.Allocations.Frame
import ResourceTrace.Proofs.Session.StartUp

set_option autoImplicit false

namespace ResourceTrace

namespace Workload

variable {s s' : State} {w : Workload} {o : Output}

theorem grow_allocate_fst (s : State) :
    (grow (allocate s)).1 =
      if s.1.iteration % 3 = 0 then
        { s.1 with nextAddress := s.1.nextAddress + 0x1000 }.addBuffer (bufferSize s.1.iteration * 2)
      else s.1.addBuffer (bufferSize s.1.iteration) := by
  have hlast : (allocate s).1.live.getLast? =
      some (⟨s.1.nextAddress⟩, bufferSize s.1.iteration) := by
    simp [allocate, addBuffer]
  have hrest : (allocate s).1.live.dropLast = s.1.live := by simp [allocate, addBuffer]
  rw [grow]
  by_cases h3 : s.1.iteration % 3 = 0
  · have hthird : (allocate s).1.iteration % 3 = 0 := h3
    simp only [hthird, hlast, hrest, h3, if_true]
    rfl
  · rw [if_neg h3]
    split
    · next hthird _ => exact absurd hthird h3
    · rfl

theorem free_fst (s : State) :
    (free s).1 =
      if s.1.iteration % 8 = 0 ∨ s.1.live.length ≤ 1 then s.1
      else { s.1 with live := s.1.live.tail } := by
  rw [free]
  split
  · next oldest _ second rest hlive =>
    have hmany : ¬s.1.live.length ≤ 1 := by simp [hlive]
    by_cases hkept : s.1.iteration % 8 = 0
    · rw [if_pos hkept, if_pos (.inl hkept)]
    · rw [if_neg hkept, if_neg (not_or.mpr ⟨hkept, hmany⟩), hlive]
      rfl
  · next hfew =>
    have hlength : s.1.live.length ≤ 1 := by
      cases hlive : s.1.live with
      | nil => simp
      | cons oldest rest =>
        cases rest with
        | nil => simp
        | cons second rest => exact absurd hlive (hfew oldest.1 oldest.2 second rest)
    rw [if_pos (.inr hlength)]

/-- The addresses go up, so that the next one is free, and all buffers have sizes, the largest one
twice the largest size that is allocated. -/
structure Sound (w : Workload) : Prop where
  address_pos : 0 < w.nextAddress
  placed : ∀ e ∈ w.live, e.1 ≠ Handle.null ∧ e.1.address < w.nextAddress
  sized : ∀ e ∈ w.live, 0 < e.2 ∧ e.2 ≤ 8318

theorem bufferSize_bounds (iteration : Nat) :
    0 < bufferSize iteration ∧ bufferSize iteration * 2 ≤ 8318 := by
  have hmod := Nat.mod_lt (iteration * 97) (by decide : 0 < 4096)
  rw [bufferSize]
  omega

namespace Sound

theorem start : Sound {} := ⟨by decide, by simp, by simp⟩

theorem not_mem (h : w.Sound) : (⟨w.nextAddress⟩ : Handle) ∉ w.live.map Prod.fst := by
  rw [List.mem_map]
  rintro ⟨e, he, heq⟩
  have hbelow := (h.placed e he).2
  rw [heq] at hbelow
  exact Nat.lt_irrefl _ hbelow

theorem next_ne_null (h : w.Sound) : (⟨w.nextAddress⟩ : Handle) ≠ Handle.null := by
  intro hnull
  have hzero : w.nextAddress = 0 := congrArg Handle.address hnull
  exact Nat.ne_of_gt h.address_pos hzero

theorem skip (h : w.Sound) : Sound { w with nextAddress := w.nextAddress + 0x1000 } :=
  ⟨Nat.add_pos_left h.address_pos _,
    fun e he => ⟨(h.placed e he).1, Nat.lt_add_right _ (h.placed e he).2⟩, h.sized⟩

theorem addBuffer (h : w.Sound) {size : Nat} (hsize : 0 < size ∧ size ≤ 8318) :
    (w.addBuffer size).Sound := by
  refine ⟨h.skip.address_pos, fun e he => ?_, fun e he => ?_⟩
  · rcases List.mem_append.mp he with he | he
    · exact h.skip.placed e he
    · rw [List.mem_singleton.mp he]
      exact ⟨h.next_ne_null, Nat.lt_add_of_pos_right (by decide)⟩
  · rcases List.mem_append.mp he with he | he
    · exact h.sized e he
    · rw [List.mem_singleton.mp he]
      exact hsize

theorem allocate (h : s.1.Sound) : (allocate s).1.Sound := by
  have hbounds := bufferSize_bounds s.1.iteration
  exact h.addBuffer ⟨hbounds.1, by omega⟩

theorem grow_allocate (h : s.1.Sound) : (grow (Workload.allocate s)).1.Sound := by
  have hbounds := bufferSize_bounds s.1.iteration
  rw [grow_allocate_fst]
  split
  · exact h.skip.addBuffer ⟨by omega, hbounds.2⟩
  · exact h.addBuffer ⟨hbounds.1, by omega⟩

theorem free (h : s.1.Sound) : (free s).1.Sound := by
  rw [free_fst]
  split
  · exact h
  · exact ⟨h.address_pos, fun e he => h.placed e (List.mem_of_mem_tail he),
      fun e he => h.sized e (List.mem_of_mem_tail he)⟩

end Sound

structure Counts (w : Workload) (n : Nat) : Prop where
  iteration : w.iteration = n
  nextAddress : w.nextAddress = 0x100000 + 0x1000 * (n + n / 3)
  length : w.live.length = if n = 0 then 0 else 1 + n / 8

structure InStep (s : State) (o : Output) : Prop where
  sound : s.1.Sound
  lists : s.2.Lists o thread [] s.1.live

/-- The state after each of the three parts of an iteration that are about buffers. -/
def probed (s : State) : List State := [allocate s, grow (allocate s), free (grow (allocate s))]

namespace InStep

theorem allocate (h : InStep s o) : InStep (allocate s) o :=
  ⟨h.sound.allocate, h.lists.allocate _ h.sound.next_ne_null h.sound.not_mem⟩

theorem lists_grow (h : InStep s o) : (grow s).2.Lists o thread [] (grow s).1.live := by
  rw [grow]
  split
  · next old size _ hlast =>
    have hlive : s.1.live.dropLast ++ [(old, size)] = s.1.live :=
      List.dropLast_append_getLast? _ hlast
    have hold : (old, size) ∈ s.1.live := List.mem_of_getLast? hlast
    have hnew : (⟨s.1.nextAddress⟩ : Handle) ∉ s.1.live.dropLast.map Prod.fst := fun hmem =>
      h.sound.not_mem ((List.dropLast_sublist _).map Prod.fst |>.subset hmem)
    have hlists := h.lists
    rw [← hlive] at hlists
    have hsize := (h.sound.sized _ hold).1
    exact hlists.reallocate (h.sound.placed _ hold).1 h.sound.next_ne_null hnew (by omega)
  · exact h.lists

theorem grow_allocate (h : InStep s o) : InStep (grow (Workload.allocate s)) o :=
  ⟨h.sound.grow_allocate, h.allocate.lists_grow⟩

theorem free (h : InStep s o) : InStep (free s) o := by
  refine ⟨h.sound.free, ?_⟩
  rw [Workload.free]
  split
  · next oldest size second rest hlive =>
    split
    · exact h.lists
    · have hlists := h.lists
      have hfirst : (oldest, size) ∈ s.1.live := by simp [hlive]
      rw [hlive] at hlists
      exact hlists.free (h.sound.placed _ hfirst).1
  · exact h.lists

theorem probed (h : InStep s o) : ∀ u ∈ probed s, InStep u o := by
  intro u hu
  simp only [Workload.probed, List.mem_cons, List.not_mem_nil, or_false] at hu
  rcases hu with rfl | rfl | rfl
  · exact h.allocate
  · exact h.grow_allocate
  · exact h.grow_allocate.free

theorem total_le (h : InStep s o) : s.2.allocations.ledger.total ≤ 8318 * s.1.live.length := by
  have hle := List.sum_le_card_nsmul (s.1.live.map Prod.snd) 8318 fun size hsize => by
    obtain ⟨e, he, rfl⟩ := List.mem_map.mp hsize
    exact (h.sound.sized e he).2
  rw [h.lists.ledger.total_eq]
  simpa [Nat.mul_comm] using hle

end InStep

theorem length_probed (s : State) :
    ∀ u ∈ probed s, u.1.live.length ≤ s.1.live.length + 1 := by
  have hgrow : (grow (allocate s)).1.live.length = s.1.live.length + 1 := by
    rw [grow_allocate_fst]
    split <;> simp [addBuffer]
  intro u hu
  simp only [probed, List.mem_cons, List.not_mem_nil, or_false] at hu
  rcases hu with rfl | rfl | rfl
  · simp [allocate, addBuffer]
  · exact Nat.le_of_eq hgrow
  · rw [← hgrow, free_fst]
    split
    · exact Nat.le_refl _
    · simp

/-- The application has the same buffers and goes on at the same address, and the agent has heard of
no buffer in between. -/
structure Elsewhere (s s' : State) : Prop where
  iteration : s'.1.iteration = s.1.iteration
  nextAddress : s'.1.nextAddress = s.1.nextAddress
  live : s'.1.live = s.1.live
  agent : s.2.SameAllocations s'.2

namespace Elsewhere

theorem refl (s : State) : Elsewhere s s := ⟨rfl, rfl, rfl, .refl s.2⟩

theorem trans {s s' s'' : State} (h : Elsewhere s s') (h' : Elsewhere s' s'') : Elsewhere s s'' where
  iteration := h'.iteration.trans h.iteration
  nextAddress := h'.nextAddress.trans h.nextAddress
  live := h'.live.trans h.live
  agent := h.agent.trans h'.agent

end Elsewhere

open Agent (sameAllocations_stageFile sameAllocations_closeOpening)

theorem elsewhere_openFile (s : State) : Elsewhere s (openFile s) := by
  refine ⟨rfl, rfl, rfl, ?_⟩
  rw [openFile]
  dsimp only
  split
  · exact ((sameAllocations_stageFile _ _ _ _).trans (sameAllocations_stageFile _ _ _ _)).trans
      (sameAllocations_closeOpening _ _ _)
  · exact (sameAllocations_stageFile _ _ _ _).trans (sameAllocations_closeOpening _ _ _)

theorem elsewhere_rotate (debugging : Bool) (s : State) : Elsewhere s (rotate debugging s) := by
  rw [rotate]
  split
  · exact .refl s
  · split
    · exact .refl s
    · refine ⟨rfl, rfl, rfl, ?_⟩
      cases debugging with
      | false => exact .refl s.2
      | true => exact Agent.sameAllocations_closeFile s.2 _

theorem elsewhere_logRequest [PatternEngine] (s : State) : Elsewhere s (logRequest s) := by
  have hl : Logger.values requestFamily ≠ Logger.allocations := by decide
  exact ⟨rfl, rfl, rfl,
    .of_aside ((Agent.aside_stageValue hl _ _ _).trans (Agent.aside_closeValues hl _ _ _))⟩

theorem elsewhere_rest [PatternEngine] (debugging : Bool) (s : State) :
    Elsewhere s (logRequest (rotate debugging (openFile s))) :=
  ((elsewhere_openFile s).trans (elsewhere_rotate debugging _)).trans (elsewhere_logRequest _)

theorem InStep.of_elsewhere (h : InStep s o) (he : Elsewhere s s') : InStep s' s'.2.output where
  sound := by
    have hsound := h.sound
    refine ⟨he.nextAddress ▸ hsound.address_pos, ?_, ?_⟩
    · rw [he.live, he.nextAddress]
      exact hsound.placed
    · rw [he.live]
      exact hsound.sized
  lists := by
    rw [he.live]
    exact he.agent.lists h.lists

theorem InStep.nextIteration (h : InStep s o) : InStep (nextIteration s) o :=
  ⟨⟨h.sound.address_pos, h.sound.placed, h.sound.sized⟩, h.lists⟩

theorem InStep.step [PatternEngine] (h : InStep s o) (debugging : Bool) :
    InStep (step debugging s) (step debugging s).2.output :=
  h.nextIteration.grow_allocate.free.of_elsewhere (elsewhere_rest debugging _)

theorem Counts.of_elsewhere {n : Nat} (h : s.1.Counts n) (he : Elsewhere s s') : s'.1.Counts n :=
  ⟨he.iteration.trans h.iteration, he.nextAddress.trans h.nextAddress, by rw [he.live, h.length]⟩

theorem counts_grow_allocate {i : Nat} (h : s.1.iteration = i) :
    (grow (allocate s)).1.iteration = i ∧
      (grow (allocate s)).1.nextAddress =
        s.1.nextAddress + (if i % 3 = 0 then 0x2000 else 0x1000) ∧
      (grow (allocate s)).1.live.length = s.1.live.length + 1 := by
  rw [grow_allocate_fst, h]
  split <;> simp [addBuffer, h]

theorem Counts.step [PatternEngine] {n : Nat} (h : s.1.Counts n) (debugging : Bool) :
    (step debugging s).1.Counts (n + 1) := by
  refine Counts.of_elsewhere (s := free (grow (allocate (nextIteration s)))) ?_
    (elsewhere_rest debugging _)
  have hiteration : (nextIteration s).1.iteration = n + 1 := congrArg (· + 1) h.iteration
  have hnext : (nextIteration s).1.nextAddress = 0x100000 + 0x1000 * (n + n / 3) := h.nextAddress
  have hlength : (nextIteration s).1.live.length = if n = 0 then 0 else 1 + n / 8 := h.length
  obtain ⟨hgi, hgn, hgl⟩ := counts_grow_allocate hiteration
  rw [hnext] at hgn
  rw [hlength] at hgl
  have haddress : 0x100000 + 0x1000 * (n + n / 3) +
      (if (n + 1) % 3 = 0 then 0x2000 else 0x1000) =
        0x100000 + 0x1000 * (n + 1 + (n + 1) / 3) := by
    split <;> omega
  rw [haddress] at hgn
  rw [free_fst, hgi, hgl]
  -- The queue was empty before the first iteration, whose buffer stays like that of an eighth one.
  by_cases hkept : (n + 1) % 8 = 0 ∨ (if n = 0 then 0 else 1 + n / 8) + 1 ≤ 1
  · rw [if_pos hkept]
    refine ⟨hgi, hgn, ?_⟩
    rw [hgl, if_neg (Nat.succ_ne_zero n)]
    split at hkept <;> split <;> omega
  · rw [if_neg hkept]
    refine ⟨hgi, hgn, ?_⟩
    rw [List.length_tail, hgl, if_neg (Nat.succ_ne_zero n)]
    split at hkept <;> split <;> omega

theorem inStep_iterate [PatternEngine] (h : InStep s s.2.output) (debugging : Bool) (n : Nat) :
    InStep (iterate debugging n s) (iterate debugging n s).2.output := by
  induction n with
  | zero => exact h
  | succ n ih => exact ih.step debugging

theorem counts_iterate [PatternEngine] (h : s.1.Counts 0) (debugging : Bool) (n : Nat) :
    (iterate debugging n s).1.Counts n := by
  induction n with
  | zero => exact h
  | succ n ih => exact ih.step debugging

/-- The totals fit as long as the addresses do: of eight buffers one stays, and it is smaller than
the addresses have gone up by in the meantime. -/
theorem total_le_of_counts {n k : Nat} (h : InStep s s.2.output) (hn : w.Counts n)
    (hk : s.1.Counts k) (hlt : k < n) (hfits : w.nextAddress ≤ Numeral.maxUnsigned64) {u : State}
    (hu : u ∈ probed (nextIteration s)) : u.2.allocations.ledger.total ≤ Numeral.maxUnsigned64 := by
  have htotal := (h.nextIteration.probed u hu).total_le
  have hlonger := length_probed (nextIteration s) u hu
  have hlength : (nextIteration s).1.live.length ≤ 1 + k / 8 := by
    change s.1.live.length ≤ 1 + k / 8
    rw [hk.length]
    split <;> omega
  rw [hn.nextAddress] at hfits
  omega

theorem sameAllocations_begin (a : Agent) : a.SameAllocations (begin a) :=
  .of_aside (Session.aside_begin (by decide) a)

theorem counts_start : Counts {} 0 := ⟨rfl, rfl, rfl⟩

theorem inStep_begin {a : Agent} (h : a.Lists a.output thread [] []) :
    InStep ({}, begin a) (begin a).output :=
  ⟨.start, (sameAllocations_begin a).lists h⟩

end Workload

namespace Session

open Workload (probed nextIteration)

theorem lists_startUp {host : Host} {now : Moment} {args : Arguments} {b : Agent}
    (h : startUp args (freshAgent host now) = .running b) :
    b.Lists b.output Workload.thread [] [] := by
  refine startUp_keeps (P := fun a => a.Lists a.output Workload.thread [] [])
    (fun ha hb => (Agent.sameAllocations_configure hb).lists ha)
    (fun {a} ha => (Agent.SameAllocations.of_aside a.aside_start).lists ha) ?_ h
  exact ⟨(by decide : 0 < 10), rfl, .empty, rfl⟩

/-- After any start and any number of iterations, whether debug messages are logged or not, the
ledger holds just the buffers of the application, and its total is that of their sizes. They have
different addresses, all below the next one. The first iteration leaves one of them, and of those
after it every eighth one more. No probe of a buffer has warned in any iteration, and as long as the
next address fits, all totals on the way have fitted. -/
theorem tracked_buffers_in_step [PatternEngine] (host : Host) (now : Moment) (args : Arguments)
    {b : Agent} (hrunning : startUp args (freshAgent host now) = .running b) (debugging : Bool)
    (n : Nat) :
    let after (k : Nat) : Workload.State :=
      Workload.iterate debugging k ({}, Workload.begin (greet args b))
    let w := (after n).1
    let ledger := (after n).2.allocations.ledger
    (∀ p size, (∃ r, ledger.get? p = some r ∧ r.handle = p ∧ r.size = size) ↔ (p, size) ∈ w.live) ∧
      (w.live.map Prod.fst).Nodup ∧
      w.live.length = (if n = 0 then 0 else 1 + n / 8) ∧
      w.nextAddress = 0x100000 + 0x1000 * (n + n / 3) ∧
      (∀ e ∈ w.live, e.1.address < w.nextAddress) ∧
      ledger.total = (w.live.map Prod.snd).sum ∧
      ∀ k < n, ∀ u ∈ probed (nextIteration (after k)), u.2.output = (after k).2.output ∧
        (w.nextAddress ≤ Numeral.maxUnsigned64 →
          u.2.allocations.ledger.total ≤ Numeral.maxUnsigned64) := by
  intro after w ledger
  have hgreeted :=
    (Agent.SameAllocations.of_aside (aside_greet _ args b)).lists (lists_startUp hrunning)
  have hstep (k : Nat) : Workload.InStep (after k) (after k).2.output :=
    Workload.inStep_iterate (Workload.inStep_begin hgreeted) debugging k
  have hcounts (k : Nat) : (after k).1.Counts k :=
    Workload.counts_iterate Workload.counts_start debugging k
  have hlists : ledger.Lists w.live := (hstep n).lists.ledger
  refine ⟨fun p size => ?_, hlists.nodup, (hcounts n).length, (hcounts n).nextAddress,
    fun e he => ((hstep n).sound.placed e he).2, hlists.total_eq,
    fun k hk u hu => ⟨?_, fun hfits => ?_⟩⟩
  · rw [← hlists.mem_iff]
    constructor
    · rintro ⟨r, hr, -, hsize⟩
      exact ⟨r, hr, hsize⟩
    · rintro ⟨r, hr, hsize⟩
      exact ⟨r, hr, hlists.conserved.handle_eq p r hr, hsize⟩
  · exact ((hstep k).nextIteration.probed u hu).lists.output
  · exact Workload.total_le_of_counts (hstep k) (hcounts n) (hcounts k) hk hfits hu

/-- After nine iterations two buffers are left: the eighth one, because the first and the eighth
iteration let go of none, and the ninth one, which was grown. -/
theorem tracked_buffers_in_step_of_nine :
    ∃ (b : Agent) (s : Workload.State),
      startUp {} (freshAgent .emptyDirectory ⟨0⟩) = .running b ∧
      s = Workload.iterate false 9 ({}, Workload.begin (greet {} b)) ∧
      s.1.live = [(⟨0x109000⟩, 840), (⟨0x10b000⟩, 1874)] ∧ s.1.nextAddress = 0x10c000 ∧
      (∃ r, s.2.allocations.ledger.get? ⟨0x10b000⟩ = some r ∧ r.handle = ⟨0x10b000⟩ ∧
        r.size = 1874) ∧
      (¬∃ r, s.2.allocations.ledger.get? ⟨0x10a000⟩ = some r ∧ r.handle = ⟨0x10a000⟩ ∧
        r.size = 937) ∧
      s.2.allocations.ledger.total = 2714 := by
  have hrunning := startUp_nothing .emptyDirectory ⟨0⟩
  have hstep := tracked_buffers_in_step .emptyDirectory ⟨0⟩ {} hrunning false 9
  dsimp only at hstep
  obtain ⟨hblocks, -, -, hnext, -, htotal, -⟩ := hstep
  have hlive : (Workload.iterate false 9 ({}, Workload.begin
      (greet {} (freshAgent .emptyDirectory ⟨0⟩).start))).1.live =
        [(⟨0x109000⟩, 840), (⟨0x10b000⟩, 1874)] := by
    decide +kernel
  rw [hlive] at htotal
  have hgrown := (hblocks ⟨0x10b000⟩ 1874).mpr (by rw [hlive]; decide)
  refine ⟨_, _, hrunning, rfl, hlive, hnext, hgrown, fun hmoved => ?_, htotal⟩
  have hlisted := (hblocks ⟨0x10a000⟩ 937).mp hmoved
  rw [hlive] at hlisted
  exact absurd hlisted (by decide)

end Session

end ResourceTrace
