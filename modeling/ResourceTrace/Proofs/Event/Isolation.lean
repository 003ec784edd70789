import ResourceTrace.Event.Staging

/-!
Isolation of open events. All threads, tables and loggers share one staging structure, and yet
the calls at one site are answered as if they were the only ones, made on a buffer of their own.
That buffer is known only by the writes that reached it since it was last emptied.
-/

set_option autoImplicit false

namespace ResourceTrace

namespace Staging

inductive Action where
  | stage (position : Nat) (v : Value)
  | push (v : Value)
  | finalize
  | finalizeWith (v : Value)
  deriving DecidableEq, Repr

inductive Answer where
  | done
  | position (n : Nat)
  | values (vs : List Value)
  | refused (e : StagingError)
  deriving DecidableEq, Repr

structure Call where
  site : Site
  action : Action
  deriving DecidableEq, Repr

/-- Tables are known by their numbers, and each number has one table. -/
def perform (capacity : Nat → Nat) (s : Staging) (c : Call) : Answer × Staging :=
  let table : LoggerTable := ⟨c.site.table, capacity c.site.table⟩
  match c.action with
  | .stage position v =>
    match s.stage table c.site.thread c.site.logger position v with
    | .ok s' => (.done, s')
    | .error e => (.refused e, s)
  | .push v =>
    match s.push table c.site.thread c.site.logger v with
    | .ok (n, s') => (.position n, s')
    | .error e => (.refused e, s)
  | .finalize =>
    match s.finalize table c.site.thread c.site.logger with
    | .ok (b, s') => (.values b, s')
    | .error e => (.refused e, s)
  | .finalizeWith v =>
    match s.finalizeWith table c.site.thread c.site.logger v with
    | (.ok b, s') => (.values b, s')
    | (.error e, s') => (.refused e, s')

def answers (capacity : Nat → Nat) (s : Staging) : List Call → List (Site × Answer)
  | [] => []
  | c :: cs => (c.site, (s.perform capacity c).1) :: answers capacity (s.perform capacity c).2 cs

end Staging

/-- The writes since the buffer was last emptied, the latest first. -/
abbrev Writes := List (Nat × Value)

namespace Writes

open Staging (Action Answer)

def next : Writes → Nat
  | [] => 0
  | (position, _) :: w => max (position + 1) (next w)

/-- The last value written at a position; a hole reads as `null`. -/
def valueAt (w : Writes) (position : Nat) : Value :=
  match w with
  | [] => .null
  | (p, v) :: w => if p = position then v else valueAt w position

def values (w : Writes) : List Value := (List.range w.next).map w.valueAt

def full : StagingError := .positionOutOfRange 64 64

def stage (w : Writes) (position : Nat) (v : Value) : Answer × Writes :=
  if position < 64 then (.done, (position, v) :: w)
  else (.refused (.positionOutOfRange position 64), w)

def push (w : Writes) (v : Value) : Answer × Writes :=
  if w.next < 64 then (.position w.next, (w.next, v) :: w) else (.refused full, w)

def finalize (w : Writes) : Answer × Writes := (.values w.values, [])

def finalizeWith (w : Writes) (v : Value) : Answer × Writes :=
  match w.push v with
  | (.refused e, _) => (.refused e, [])
  | (_, pushed) => pushed.finalize

/-- The buffer of a logger; a logger that does not exist refuses everything. -/
def perform (capacity logger : Nat) (w : Writes) (a : Action) : Answer × Writes :=
  if logger < capacity then
    match a with
    | .stage position v => w.stage position v
    | .push v => w.push v
    | .finalize => w.finalize
    | .finalizeWith v => w.finalizeWith v
  else (.refused (.loggerOutOfRange logger capacity), w)

def answers (capacity logger : Nat) (w : Writes) : List Action → List Answer
  | [] => []
  | a :: as =>
    (w.perform capacity logger a).1 :: answers capacity logger (w.perform capacity logger a).2 as

@[simp] theorem next_cons (position : Nat) (v : Value) (w : Writes) :
    next ((position, v) :: w) = max (position + 1) w.next := rfl

theorem valueAt_cons (position : Nat) (v : Value) (w : Writes) (i : Nat) :
    valueAt ((position, v) :: w) i = if position = i then v else w.valueAt i := rfl

theorem valueAt_of_next_le {w : Writes} {position : Nat} (h : w.next ≤ position) :
    w.valueAt position = .null := by
  induction w with
  | nil => rfl
  | cons p w ih =>
    obtain ⟨q, v⟩ := p
    rw [next_cons] at h
    rw [valueAt_cons, if_neg (by omega)]
    exact ih (by omega)

@[simp] theorem length_values (w : Writes) : w.values.length = w.next := by simp [values]

theorem getElem?_values (w : Writes) (i : Nat) :
    w.values[i]? = if i < w.next then some (w.valueAt i) else none := by
  by_cases h : i < w.next <;> simp [values, h]

theorem write_values (w : Writes) (position : Nat) (v : Value) :
    Buffer.write w.values position v = values ((position, v) :: w) := by
  apply List.ext_getElem?
  intro i
  rw [getElem?_values, Buffer.write, List.getElem?_set]
  rw [next_cons, valueAt_cons, List.length_append, List.length_replicate, length_values]
  by_cases hp : position = i
  · rw [if_pos hp, if_pos hp, if_pos (by omega), if_pos (by omega)]
  · simp only [hp, if_false, List.getElem?_append, length_values, List.getElem?_replicate]
    by_cases hi : i < w.next
    · have hm : i < max (position + 1) w.next := by omega
      rw [if_pos hi, if_pos hm, getElem?_values, if_pos hi]
    · have hnull := valueAt_of_next_le (Nat.le_of_not_lt hi)
      rw [if_neg hi, hnull]
      by_cases hm : i < position + 1
      · rw [if_pos (by omega), if_pos (by omega)]
      · rw [if_neg (by omega), if_neg (by omega)]

theorem push_values (w : Writes) (v : Value) :
    w.values ++ [v] = values ((w.next, v) :: w) := by
  rw [← write_values, Buffer.write, length_values]
  simp

end Writes

namespace Staging

section

variable (s : Staging) (t : LoggerTable) (thread logger : Nat)

theorem stage_eq (position : Nat) (v : Value) :
    s.stage t thread logger position v =
      if logger < t.capacity then
        if position < 64 then
          .ok (s.setBuffer ⟨thread, t.id, logger⟩
            ((s.buffer ⟨thread, t.id, logger⟩).write position v))
        else .error (.positionOutOfRange position 64)
      else .error (.loggerOutOfRange logger t.capacity) := by
  by_cases hl : logger < t.capacity
  · by_cases hp : position < 64 <;>
      simp [stage, check, Buffer.stage, Buffer.capacity, bind, Except.bind, pure, Except.pure,
        hl, hp]
  · simp [stage, check, bind, Except.bind, hl]

theorem push_eq (v : Value) :
    s.push t thread logger v =
      if logger < t.capacity then
        let b := s.buffer ⟨thread, t.id, logger⟩
        if b.length < 64 then .ok (b.length, s.setBuffer ⟨thread, t.id, logger⟩ (b ++ [v]))
        else .error (.positionOutOfRange b.length 64)
      else .error (.loggerOutOfRange logger t.capacity) := by
  by_cases hl : logger < t.capacity
  · by_cases hb : (s.buffer ⟨thread, t.id, logger⟩).length < 64 <;>
      simp [push, check, Buffer.push, Buffer.capacity, bind, Except.bind, pure, Except.pure,
        hl, hb]
  · simp [push, check, bind, Except.bind, hl]

theorem finalize_eq :
    s.finalize t thread logger =
      if logger < t.capacity then
        .ok (s.buffer ⟨thread, t.id, logger⟩, s.setBuffer ⟨thread, t.id, logger⟩ [])
      else .error (.loggerOutOfRange logger t.capacity) := by
  by_cases hl : logger < t.capacity <;>
    simp [finalize, check, bind, Except.bind, pure, Except.pure, hl]

/-- The buffer of the site is emptied whether or not the last value had room. -/
theorem finalizeWith_eq (v : Value) :
    s.finalizeWith t thread logger v =
      if logger < t.capacity then
        let b := s.buffer ⟨thread, t.id, logger⟩
        if b.length < 64 then
          (.ok (b ++ [v]), (s.setBuffer ⟨thread, t.id, logger⟩ (b ++ [v])).setBuffer
            ⟨thread, t.id, logger⟩ [])
        else (.error (.positionOutOfRange b.length 64), s.setBuffer ⟨thread, t.id, logger⟩ [])
      else (.error (.loggerOutOfRange logger t.capacity), s) := by
  by_cases hl : logger < t.capacity
  · by_cases hb : (s.buffer ⟨thread, t.id, logger⟩).length < 64 <;>
      simp [finalizeWith, push_eq, finalize_eq, hl, hb]
  · simp [finalizeWith, push_eq, finalize_eq, hl]

end

variable (capacity : Nat → Nat)

theorem buffer_perform_of_ne {s : Staging} {c : Call} {site : Site} (h : site ≠ c.site) :
    (s.perform capacity c).2.buffer site = s.buffer site := by
  obtain ⟨⟨thread, table, logger⟩, action⟩ := c
  by_cases hl : logger < capacity table
  · cases action with
    | stage position v =>
      by_cases hp : position < 64 <;>
        simp [perform, stage_eq, hl, hp, buffer_setBuffer_of_ne h]
    | push v =>
      by_cases hb : (s.buffer ⟨thread, table, logger⟩).length < 64 <;>
        simp [perform, push_eq, hl, hb, buffer_setBuffer_of_ne h]
    | finalize => simp [perform, finalize_eq, hl, buffer_setBuffer_of_ne h]
    | finalizeWith v =>
      by_cases hb : (s.buffer ⟨thread, table, logger⟩).length < 64 <;>
        simp [perform, finalizeWith_eq, hl, hb, buffer_setBuffer_of_ne h]
  · cases action <;> simp [perform, stage_eq, push_eq, finalize_eq, finalizeWith_eq, hl]

structure Holds (s : Staging) (site : Site) (w : Writes) : Prop where
  values_eq : s.buffer site = w.values
  next_le : w.next ≤ 64

theorem holds_setBuffer (s : Staging) {site : Site} {b : Buffer} {w : Writes}
    (hb : b = w.values) (hw : w.next ≤ 64) : (s.setBuffer site b).Holds site w :=
  ⟨by rw [buffer_setBuffer_self, hb], hw⟩

theorem holds_emptied (s : Staging) (site : Site) : (s.setBuffer site []).Holds site [] :=
  holds_setBuffer s rfl (Nat.zero_le 64)

structure Agrees (site : Site) (r : Answer × Staging) (w : Answer × Writes) : Prop where
  answer_eq : r.1 = w.1
  holds : r.2.Holds site w.2

section

variable {s : Staging} {thread table logger : Nat} {w : Writes}
  (h : s.Holds ⟨thread, table, logger⟩ w) (hl : logger < capacity table)

include h hl

theorem stage_agrees (position : Nat) (v : Value) :
    Agrees ⟨thread, table, logger⟩
      (s.perform capacity ⟨⟨thread, table, logger⟩, .stage position v⟩) (w.stage position v) := by
  have hv := h.values_eq
  have hn := h.next_le
  by_cases hp : position < 64
  · simp only [perform, stage_eq, Writes.stage, hl, hp, if_true]
    refine ⟨rfl, holds_setBuffer s (by rw [hv, Writes.write_values]) ?_⟩
    rw [Writes.next_cons]
    omega
  · simp only [perform, stage_eq, Writes.stage, hl, hp, if_true, if_false]
    exact ⟨rfl, h⟩

theorem push_agrees (v : Value) :
    Agrees ⟨thread, table, logger⟩
      (s.perform capacity ⟨⟨thread, table, logger⟩, .push v⟩) (w.push v) := by
  have hv := h.values_eq
  have hn := h.next_le
  by_cases hb : w.next < 64
  · simp only [perform, push_eq, Writes.push, hl, hv, Writes.length_values, hb, if_true]
    refine ⟨rfl, holds_setBuffer s (Writes.push_values w v) ?_⟩
    rw [Writes.next_cons]
    omega
  · have hfull : w.next = 64 := by omega
    simp only [perform, push_eq, Writes.push, hl, hv, Writes.length_values, hb, if_true, if_false]
    exact ⟨by rw [hfull, Writes.full], h⟩

theorem finalize_agrees :
    Agrees ⟨thread, table, logger⟩
      (s.perform capacity ⟨⟨thread, table, logger⟩, .finalize⟩) w.finalize := by
  simp only [perform, finalize_eq, Writes.finalize, hl, h.values_eq, if_true]
  exact ⟨rfl, holds_emptied s _⟩

theorem finalizeWith_agrees (v : Value) :
    Agrees ⟨thread, table, logger⟩
      (s.perform capacity ⟨⟨thread, table, logger⟩, .finalizeWith v⟩) (w.finalizeWith v) := by
  have hv := h.values_eq
  have hn := h.next_le
  by_cases hb : w.next < 64
  · simp only [perform, finalizeWith_eq, Writes.finalizeWith, Writes.push, Writes.finalize, hl, hv,
      Writes.length_values, hb, if_true]
    exact ⟨by rw [Writes.push_values], holds_emptied _ _⟩
  · -- The push is refused, and yet both sides are empty afterwards.
    have hfull : w.next = 64 := by omega
    simp only [perform, finalizeWith_eq, Writes.finalizeWith, Writes.push, hl, hv,
      Writes.length_values, hb, if_true, if_false]
    exact ⟨by rw [hfull, Writes.full], holds_emptied s _⟩

end

theorem perform_agrees {s : Staging} {c : Call} {w : Writes} (h : s.Holds c.site w) :
    Agrees c.site (s.perform capacity c)
      (w.perform (capacity c.site.table) c.site.logger c.action) := by
  obtain ⟨⟨thread, table, logger⟩, action⟩ := c
  by_cases hl : logger < capacity table
  · simp only [Writes.perform, hl, if_true]
    cases action with
    | stage position v => exact stage_agrees capacity h hl position v
    | push v => exact push_agrees capacity h hl v
    | finalize => exact finalize_agrees capacity h hl
    | finalizeWith v => exact finalizeWith_agrees capacity h hl v
  · cases action <;>
      simp only [perform, stage_eq, push_eq, finalize_eq, finalizeWith_eq, Writes.perform, hl,
        if_false] <;>
      exact ⟨rfl, h⟩

theorem holds_perform_of_ne {s : Staging} {c : Call} {site : Site} {w : Writes}
    (h : s.Holds site w) (hne : site ≠ c.site) : (s.perform capacity c).2.Holds site w :=
  ⟨by rw [buffer_perform_of_ne capacity hne, h.values_eq], h.next_le⟩

theorem answers_from {s : Staging} {site : Site} {w : Writes} (h : s.Holds site w)
    (calls : List Call) :
    ((s.answers capacity calls).filter fun p => p.1 = site).map Prod.snd =
      w.answers (capacity site.table) site.logger
        ((calls.filter fun c => c.site = site).map Call.action) := by
  induction calls generalizing s w with
  | nil => rfl
  | cons c calls ih =>
    by_cases hc : c.site = site
    · subst hc
      obtain ⟨hanswer, hnext⟩ := perform_agrees capacity h
      simp [answers, Writes.answers, hanswer, ih hnext]
    · have hnext := holds_perform_of_ne capacity h (Ne.symm hc)
      simp [answers, hc, ih hnext]

/-- In any interleaving of calls by any threads on any loggers of any tables, the calls at one
site get exactly the answers that they would get alone, on a buffer of their own. -/
theorem answers_at_site (capacity : Nat → Nat) (calls : List Call) (site : Site) :
    ((answers capacity {} calls).filter fun p => p.1 = site).map Prod.snd =
      Writes.answers (capacity site.table) site.logger []
        ((calls.filter fun c => c.site = site).map Call.action) := by
  have h : Holds {} site [] := ⟨rfl, Nat.zero_le 64⟩
  exact answers_from capacity h calls

end Staging

end ResourceTrace
