import Mathlib.Data.List.Permutation
import ResourceTrace.Proofs.Allocations.Interleaving

/-!
Interleaved calls on the allocation ledger come to the same records as calls one after another. A
reallocation that meets a duplicate releases its old handle in one step and stores at its new one in
another. It can be put at either of the two places, unless other threads have meanwhile both stored
at its old handle and written at its new one; then it comes to a free and an allocation apart.
-/

set_option autoImplicit false

namespace ResourceTrace.Allocations

namespace Event

def writes : Event → Writes
  | finished _ c => c.writes
  | refused _ old _ => released old
  | corrected _ _ r => [(r.handle, some r)]

@[simp] theorem writes_corrected (t : Nat) (old : Handle) (r : Record Unit) :
    (corrected t old r).writes = [(r.handle, some r)] := rfl

def refuses (t : Nat) : Event → Bool
  | refused u _ _ => u == t
  | _ => false

end Event

def writesSince (t : Nat) : List Event → Writes
  | [] => []
  | e :: earlier => if e.refuses t then [] else writesSince t earlier ++ e.writes

/-- Meanwhile the old handle has got a record again, and the new one has been written. -/
def Disturbed (old : Handle) (r : Record Unit) (meanwhile : Writes) : Prop :=
  meanwhile.Stores old ∧ meanwhile.Touches r.handle

instance (old : Handle) (r : Record Unit) (meanwhile : Writes) :
    Decidable (Disturbed old r meanwhile) :=
  inferInstanceAs (Decidable (_ ∧ _))

def calls : List Event → List Call
  | [] => []
  | .finished _ c :: earlier => c :: calls earlier
  | .refused _ old r :: earlier => .result old r :: calls earlier
  | .corrected _ _ _ :: earlier => calls earlier

/-- The calls that a run has finished, those that were disturbed in two pieces. -/
def pieces : List Event → List Call
  | [] => []
  | .finished _ c :: earlier => c :: pieces earlier
  | .refused _ _ _ :: earlier => pieces earlier
  | .corrected t old r :: earlier =>
    if Disturbed old r (writesSince t earlier) then
      .free old :: .result Handle.null r :: pieces earlier
    else .result old r :: pieces earlier

def Calm (log : List Event) : Prop :=
  ∀ later t old r earlier, log = later ++ .corrected t old r :: earlier →
    ¬Disturbed old r (writesSince t earlier)

theorem Calm.tail {e : Event} {log : List Event} (h : Calm (e :: log)) : Calm log :=
  fun later t old r earlier he => h (e :: later) t old r earlier (by rw [he]; rfl)

theorem Calm.head {t : Nat} {old : Handle} {r : Record Unit} {log : List Event}
    (h : Calm (.corrected t old r :: log)) : ¬Disturbed old r (writesSince t log) :=
  h [] t old r log rfl

namespace Writes

variable {ws : Writes} {records : Handle → Option (Record Unit)}

theorem apply_released_comm {old : Handle} (h : ¬ws.Stores old) :
    ws.apply ((released old).apply records) = (released old).apply (ws.apply records) := by
  by_cases hold : old = Handle.null
  · simp [released, hold]
  · funext k
    by_cases hk : k = old
    · rw [hk, apply_released_self hold, apply_of_not_stores h (apply_released_self hold _)]
    · have hfree : ¬(released old).Touches k := fun ht => hk (touches_released ht)
      rw [apply_of_not_touches hfree, apply_congr (apply_of_not_touches hfree)]

theorem apply_store_comm {r : Record Unit} (h : ¬ws.Touches r.handle) :
    ws.apply (apply [(r.handle, some r)] records) =
      apply [(r.handle, some r)] (ws.apply records) := by
  funext k
  by_cases hk : k = r.handle
  · rw [hk, apply_of_not_touches h]
    simp
  · have hfree : ¬Touches [(r.handle, some r)] k := by simpa [Touches] using Ne.symm hk
    rw [apply_of_not_touches hfree, apply_congr (apply_of_not_touches hfree)]

end Writes

/-- A place in the order: a call that is done, or the first step of one that is not. -/
inductive Slot where
  | done (c : Call)
  | half (thread : Nat) (old : Handle) (r : Record Unit)

namespace Slot

def writes : Slot → Writes
  | done c => c.writes
  | half _ old _ => released old

@[simp] theorem writes_done (c : Call) : (done c).writes = c.writes := rfl

@[simp] theorem writes_half (t : Nat) (old : Handle) (r : Record Unit) :
    (half t old r).writes = released old := rfl

def call : Slot → Call
  | done c => c
  | half _ old r => .result old r

@[simp] theorem call_done (c : Call) : (done c).call = c := rfl

@[simp] theorem call_half (t : Nat) (old : Handle) (r : Record Unit) :
    (half t old r).call = .result old r := rfl

def call? : Slot → Option Call
  | done c => some c
  | half _ _ _ => none

/-- What the second step of a call can rely on, if other threads have left its handles alone: the
places behind that of its first step have left them alone, and none of them is about to store at
its old handle. -/
def Spares (log : List Event) : Slot → Slot → Prop
  | half t old r, later =>
    (¬(writesSince t log).Stores old → ¬later.writes.Stores old) ∧
      (¬(writesSince t log).Touches r.handle → ¬later.writes.Touches r.handle) ∧
      ∀ u o q, later = half u o q → u ≠ t ∧ (¬(writesSince t log).Stores old → q.handle ≠ old)
  | done _, _ => True

end Slot

def writesOf (slots : List Slot) : Writes := slots.flatMap Slot.writes

@[simp] theorem writesOf_append (slots more : List Slot) :
    writesOf (slots ++ more) = writesOf slots ++ writesOf more := List.flatMap_append

@[simp] theorem writesOf_cons (slot : Slot) (slots : List Slot) :
    writesOf (slot :: slots) = slot.writes ++ writesOf slots := rfl

@[simp] theorem writesOf_nil : writesOf [] = [] := rfl

theorem not_stores_writesOf {slots : List Slot} {h : Handle}
    (hs : ∀ slot ∈ slots, ¬slot.writes.Stores h) : ¬(writesOf slots).Stores h := by
  rintro ⟨w, hw, he⟩
  obtain ⟨slot, hslot, hmem⟩ := List.mem_flatMap.mp hw
  exact hs slot hslot ⟨w, hmem, he⟩

theorem not_touches_writesOf {slots : List Slot} {h : Handle}
    (hs : ∀ slot ∈ slots, ¬slot.writes.Touches h) : ¬(writesOf slots).Touches h := by
  rintro ⟨w, hw, he⟩
  obtain ⟨slot, hslot, hmem⟩ := List.mem_flatMap.mp hw
  exact hs slot hslot ⟨w, hmem, he⟩

structure Arranged (start : Ledger Unit) (log : List Event) (s : Shared) (slots : List Slot) :
    Prop where
  records : s.ledger.get? = (writesOf slots).apply start.get?
  done : (slots.filterMap Slot.call?).Perm (pieces log)
  made : Calm log → (slots.map Slot.call).Perm (calls log)
  owed_iff : ∀ t old r, s.owed t = some (old, r) ↔ .half t old r ∈ slots
  spares : slots.Pairwise (Slot.Spares log)

namespace Slot

variable {log : List Event} {e : Event} {x y : Slot}

theorem Spares.cons (h : Spares log x y)
    (hx : ∀ t old r, x = half t old r → e.refuses t = false) : Spares (e :: log) x y := by
  cases x with
  | done c => trivial
  | half t old r =>
    obtain ⟨hold, hnew, hhalf⟩ := h
    simp only [Spares, writesSince, hx t old r rfl, Bool.false_eq_true, if_false,
      Writes.stores_append, Writes.touches_append, not_or]
    exact ⟨fun hs => hold hs.1, fun hs => hnew hs.1,
      fun u o q hy => ⟨(hhalf u o q hy).1, fun hs => (hhalf u o q hy).2 hs.1⟩⟩

theorem spares_last (hx : ∀ t old r, x = half t old r → e.refuses t = false)
    (hstores : ∀ h, y.writes.Stores h → e.writes.Stores h)
    (htouches : ∀ t old r, x = half t old r → ¬(writesSince t log).Touches r.handle →
      y.writes.Touches r.handle → e.writes.Touches r.handle)
    (hhalf : ∀ t old r u o q, x = half t old r → y = half u o q →
      u ≠ t ∧ (¬(writesSince t log).Stores old → q.handle ≠ old)) :
    Spares (e :: log) x y := by
  cases x with
  | done c => trivial
  | half t old r =>
    simp only [Spares, writesSince, hx t old r rfl, Bool.false_eq_true, if_false,
      Writes.stores_append, Writes.touches_append, not_or]
    refine ⟨fun hs hy => hs.2 (hstores old hy), fun hs hy => hs.2 (htouches t old r rfl hs.1 hy),
      fun u o q hy => ⟨(hhalf t old r u o q rfl hy).1, fun hs => ?_⟩⟩
    exact (hhalf t old r u o q rfl hy).2 hs.1

theorem Spares.of_half {t : Nat} {old : Handle} {r : Record Unit} {c : Call}
    (h : Spares log x (half t old r)) (hc : c.writes = released old) :
    Spares log x (done c) := by
  cases x with
  | done d => trivial
  | half u o q =>
    obtain ⟨hold, hnew, -⟩ := h
    exact ⟨by simpa [hc] using hold, by simpa [hc] using hnew, fun _ _ _ he => by cases he⟩

/-- The last step makes a whole call, which other calls that are half done can bear if they can
bear its first step. -/
theorem spares_whole {t : Nat} {old : Handle} {r : Record Unit} {c : Call}
    (hc : c.writes = released old ++ [(r.handle, some r)])
    (hfree : ∀ u o q, x = half u o q → ¬(writesSince u log).Touches q.handle →
      ¬(released old).Touches q.handle) :
    Spares (.corrected t old r :: log) x (done c) := by
  refine spares_last (fun _ _ _ _ => rfl) (fun k hk => ?_) (fun u o q hx hquiet hk => ?_)
    fun _ _ _ _ _ _ _ he => by cases he
  · rw [writes_done, hc, Writes.stores_append] at hk
    exact hk.resolve_left (not_stores_released old k)
  · rw [writes_done, hc, Writes.touches_append] at hk
    exact hk.resolve_left (hfree u o q hx hquiet)

end Slot

namespace Arranged

variable {start : Ledger Unit} {log : List Event} {s : Shared} {slots : List Slot} {t : Nat}

theorem nil : Arranged start [] ⟨start, fun _ => none⟩ [] :=
  ⟨rfl, .nil, fun _ => .nil, by simp, .nil⟩

theorem ne_of_idle (h : Arranged start log s slots) (hidle : s.owed t = none) {u : Nat}
    {old : Handle} {r : Record Unit} (hmem : .half u old r ∈ slots) : t ≠ u := by
  rintro rfl
  rw [(h.owed_iff t old r).mpr hmem] at hidle
  cases hidle

theorem get?_of_quiet (h : Arranged start log s slots) {old : Handle} {r : Record Unit}
    (hmem : .half t old r ∈ slots) (hnull : old ≠ Handle.null)
    (hquiet : ¬(writesSince t log).Stores old) : s.ledger.get? old = none := by
  -- The first step has released it, and no later place stores there again.
  obtain ⟨pre, post, rfl⟩ := List.append_of_mem hmem
  obtain ⟨-, hpost, -⟩ := List.pairwise_append.mp h.spares
  have hstores : ¬(writesOf post).Stores old :=
    not_stores_writesOf fun slot hslot => ((List.pairwise_cons.mp hpost).1 slot hslot).1 hquiet
  rw [h.records, writesOf_append, writesOf_cons, Writes.apply_append, Writes.apply_append]
  exact Writes.apply_of_not_stores hstores (apply_released_self hnull _)

theorem finished (h : Arranged start log s slots) {c : Call} {l : Ledger Unit}
    (hattempt : c.attempt s.ledger = (l, false)) :
    Arranged start (.finished t c :: log) { s with ledger := l } (slots ++ [.done c]) where
  records := by
    rw [Call.get?_of_finished hattempt, h.records]
    simp
  done := by
    simp only [List.filterMap_append, List.filterMap_cons, List.filterMap_nil, Slot.call?, pieces]
    exact List.perm_append_singleton c _ |>.trans (h.done.cons c)
  made hcalm := by
    rw [List.map_append, calls]
    exact List.perm_append_singleton c _ |>.trans ((h.made hcalm.tail).cons c)
  owed_iff u old r := by simp [h.owed_iff u old r]
  spares := by
    refine List.pairwise_append.mpr ⟨h.spares.imp fun hxy => hxy.cons fun _ _ _ _ => rfl,
      List.pairwise_singleton _ _, fun x hx y hy => ?_⟩
    rw [List.mem_singleton.mp hy]
    exact Slot.spares_last (fun _ _ _ _ => rfl) (fun _ => id) (fun _ _ _ _ _ => id)
      fun _ _ _ _ _ _ _ he => by cases he

theorem refused (h : Arranged start log s slots) {old : Handle} {r : Record Unit}
    {l : Ledger Unit} (hidle : s.owed t = none)
    (hattempt : Call.attempt s.ledger (.result old r) = (l, true)) :
    Arranged start (.refused t old r :: log) ⟨l, Function.update s.owed t (some (old, r))⟩
      (slots ++ [.half t old r]) := by
  obtain ⟨hnull, -, hrecords, htaken⟩ := Call.of_refused hattempt
  have hother : ∀ {x}, x ∈ slots → ∀ u o q, x = .half u o q →
      (Event.refused t old r).refuses u = false := by
    rintro _ hx u o q rfl
    simpa [Event.refuses] using h.ne_of_idle hidle hx
  refine ⟨?_, ?_, fun hcalm => ?_, fun u o q => ?_, ?_⟩
  · rw [hrecords, h.records]
    simp
  · have hcalls : [Slot.half t old r].filterMap Slot.call? = [] := rfl
    rw [List.filterMap_append, hcalls, List.append_nil]
    exact h.done
  · rw [List.map_append, calls]
    exact List.perm_append_singleton _ _ |>.trans ((h.made hcalm.tail).cons _)
  · by_cases hu : u = t
    · subst hu
      have hnot : ∀ o q, .half u o q ∉ slots := fun o q hmem => h.ne_of_idle hidle hmem rfl
      simp [hnot, eq_comm]
    · simp [h.owed_iff, hu]
  · refine List.pairwise_append.mpr ⟨?_, List.pairwise_singleton _ _, fun x hx y hy => ?_⟩
    · exact h.spares.imp_of_mem fun hx _ hxy => hxy.cons (hother hx)
    · rw [List.mem_singleton.mp hy]
      refine Slot.spares_last (hother hx) (fun _ => id) (fun _ _ _ _ _ => id) ?_
      rintro u o q _ _ _ rfl he
      obtain ⟨rfl, rfl, rfl⟩ := Slot.half.inj he
      refine ⟨h.ne_of_idle hidle hx, fun hquiet heq => htaken ?_⟩
      -- The duplicate would stand at a handle that holds nothing.
      have hnone : s.ledger.get? o = none := h.get?_of_quiet hx (heq ▸ hnull) hquiet
      rw [hrecords, heq]
      exact Writes.apply_of_not_stores (not_stores_released old o) hnone

section

variable {pre post : List Slot} {old : Handle} {r : Record Unit}

theorem owed_iff_of_corrected (h : Arranged start log s (pre ++ .half t old r :: post))
    {slots : List Slot}
    (hmem : ∀ u o q, .half u o q ∈ slots ↔ .half u o q ∈ pre ∨ .half u o q ∈ post)
    (u : Nat) (o : Handle) (q : Record Unit) :
    Function.update s.owed t none u = some (o, q) ↔ .half u o q ∈ slots := by
  obtain ⟨-, hpost, hacross⟩ := List.pairwise_append.mp h.spares
  have hlater : ∀ o q, .half t o q ∉ post := fun o q hq =>
    (((List.pairwise_cons.mp hpost).1 _ hq).2.2 t o q rfl).1 rfl
  have hearlier : ∀ o q, .half t o q ∉ pre := fun o q hq =>
    ((hacross _ hq _ (by simp)).2.2 t old r rfl).1 rfl
  rw [hmem]
  by_cases hu : u = t
  · subst hu
    simp [hlater, hearlier]
  · have hne : Slot.half u o q ≠ .half t old r := fun he => hu (Slot.half.inj he).1
    rw [Function.update_of_ne hu, h.owed_iff]
    simp [hne]

theorem get?_of_corrected (h : Arranged start log s (pre ++ .half t old r :: post)) :
    (Call.correct s.ledger (.result old r)).get? =
      Writes.apply [(r.handle, some r)]
        ((writesOf post).apply ((released old).apply ((writesOf pre).apply start.get?))) := by
  rw [Call.correct, Ledger.get?_replace_eq, h.records]
  simp

theorem spares_of_corrected (h : Arranged start log s (pre ++ .half t old r :: post)) :
    (pre ++ .half t old r :: post).Pairwise (Slot.Spares (.corrected t old r :: log)) :=
  h.spares.imp fun hxy => hxy.cons fun _ _ _ _ => rfl

theorem calls_of_corrected (h : Arranged start log s (pre ++ .half t old r :: post)) :
    (pre.filterMap Slot.call? ++ post.filterMap Slot.call?).Perm (pieces log) := by
  simpa [List.filterMap_append, List.filterMap_cons, Slot.call?] using h.done

theorem corrected_apart (h : Arranged start log s (pre ++ .half t old r :: post))
    (hnull : r.handle ≠ Handle.null) (hd : Disturbed old r (writesSince t log)) :
    Arranged start (.corrected t old r :: log)
      ⟨Call.correct s.ledger (.result old r), Function.update s.owed t none⟩
      (pre ++ .done (.free old) :: post ++ [.done (.result Handle.null r)]) := by
  have hstore : (Call.result Handle.null r).writes = [(r.handle, some r)] := by
    simp [Call.writes, hnull, released]
  obtain ⟨hpre, hpost, hacross⟩ := List.pairwise_append.mp h.spares_of_corrected
  refine ⟨?_, ?_, fun hcalm => absurd hd hcalm.head,
    h.owed_iff_of_corrected fun u o q => by simp, ?_⟩
  · rw [h.get?_of_corrected]
    simp [hstore]
  · rw [pieces, if_pos hd]
    have hcalls := h.calls_of_corrected
    have hlast := List.perm_append_singleton (Call.result Handle.null r)
      (pre.filterMap Slot.call? ++ post.filterMap Slot.call?)
    have hfirst := (hlast.trans (hcalls.cons _)).cons (Call.free old)
    refine List.Perm.trans ?_ hfirst
    simp [List.filterMap_append, Slot.call?]
  · refine List.pairwise_append.mpr ⟨List.pairwise_append.mpr ⟨hpre, ?_, fun x hx y hy => ?_⟩,
      List.pairwise_singleton _ _, fun x _ y hy => ?_⟩
    · exact List.pairwise_cons.mpr ⟨fun _ _ => trivial, (List.pairwise_cons.mp hpost).2⟩
    · rcases List.mem_cons.mp hy with rfl | hy
      · exact (hacross x hx _ List.mem_cons_self).of_half rfl
      · exact hacross x hx y (List.mem_cons_of_mem _ hy)
    · rw [List.mem_singleton.mp hy]
      refine Slot.spares_last (fun _ _ _ _ => rfl) (fun k hk => ?_) (fun _ _ _ _ _ hk => ?_)
        fun _ _ _ _ _ _ _ he => by cases he
      · simpa [hstore] using hk
      · simpa [hstore] using hk

/-- Nothing has been stored at the old handle, so that it might have been released later. -/
theorem corrected_last (h : Arranged start log s (pre ++ .half t old r :: post))
    (hwhole : (Call.result old r).writes = released old ++ [(r.handle, some r)])
    (hquiet : ¬(writesSince t log).Stores old) :
    Arranged start (.corrected t old r :: log)
      ⟨Call.correct s.ledger (.result old r), Function.update s.owed t none⟩
      (pre ++ post ++ [.done (.result old r)]) := by
  obtain ⟨-, hpost, hacross⟩ := List.pairwise_append.mp h.spares
  have hafter := (List.pairwise_cons.mp hpost).1
  have hstores : ¬(writesOf post).Stores old :=
    not_stores_writesOf fun slot hslot => (hafter slot hslot).1 hquiet
  refine ⟨?_, ?_, fun hcalm => ?_, h.owed_iff_of_corrected fun u o q => by simp, ?_⟩
  · rw [h.get?_of_corrected, Writes.apply_released_comm hstores]
    simp [hwhole]
  · rw [pieces, if_neg fun hd => hquiet hd.1]
    have hlast := List.perm_append_singleton (Call.result old r)
      (pre.filterMap Slot.call? ++ post.filterMap Slot.call?)
    refine List.Perm.trans ?_ (hlast.trans (h.calls_of_corrected.cons _))
    simp [List.filterMap_append, Slot.call?]
  · refine List.Perm.trans ?_ (h.made hcalm.tail)
    simpa using (List.perm_append_singleton _ _).append_left (pre.map Slot.call)
  · refine List.pairwise_append.mpr ⟨h.spares_of_corrected.sublist ?_, List.pairwise_singleton _ _,
      fun x hx y hy => ?_⟩
    · exact (List.sublist_cons_self _ _).append_left pre
    · rw [List.mem_singleton.mp hy]
      refine Slot.spares_whole hwhole fun u o q hxq hnew hreleased => ?_
      subst hxq
      rcases List.mem_append.mp hx with hx | hx
      · exact (hacross _ hx _ List.mem_cons_self).2.1 hnew hreleased
      · exact ((hafter _ hx).2.2 u o q rfl).2 hquiet (touches_released hreleased)

/-- The new handle has been left alone, so that it might have been stored at before. -/
theorem corrected_first (h : Arranged start log s (pre ++ .half t old r :: post))
    (hwhole : (Call.result old r).writes = released old ++ [(r.handle, some r)])
    (hquiet : ¬(writesSince t log).Touches r.handle) :
    Arranged start (.corrected t old r :: log)
      ⟨Call.correct s.ledger (.result old r), Function.update s.owed t none⟩
      (pre ++ .done (.result old r) :: post) := by
  obtain ⟨hpre, hpost', hacross'⟩ := List.pairwise_append.mp h.spares_of_corrected
  obtain ⟨-, hpost, hacross⟩ := List.pairwise_append.mp h.spares
  have htouches : ¬(writesOf post).Touches r.handle :=
    not_touches_writesOf fun slot hslot => ((List.pairwise_cons.mp hpost).1 slot hslot).2.1 hquiet
  refine ⟨?_, ?_, fun hcalm => ?_, h.owed_iff_of_corrected fun u o q => by simp, ?_⟩
  · rw [h.get?_of_corrected, ← Writes.apply_store_comm htouches]
    simp [hwhole]
  · rw [pieces, if_neg fun hd => hquiet hd.2]
    refine List.Perm.trans ?_ (h.calls_of_corrected.cons _)
    simp [List.filterMap_append, Slot.call?]
  · simpa [calls] using h.made hcalm.tail
  · refine List.pairwise_append.mpr ⟨hpre, ?_, fun x hx y hy => ?_⟩
    · exact List.pairwise_cons.mpr ⟨fun _ _ => trivial, (List.pairwise_cons.mp hpost').2⟩
    · rcases List.mem_cons.mp hy with rfl | hy
      · refine Slot.spares_whole hwhole fun u o q hxq hnew => ?_
        subst hxq
        exact (hacross _ hx _ List.mem_cons_self).2.1 hnew
      · exact hacross' x hx y (List.mem_cons_of_mem _ hy)

end

theorem run {start : Ledger Unit} {log : List Event} {s : Shared} (hrun : Run start log s) :
    ∃ slots, Arranged start log s slots := by
  induction hrun with
  | nil => exact ⟨[], .nil⟩
  | @cons log s _ _ earlier last ih =>
    obtain ⟨slots, h⟩ := ih
    cases last with
    | finished hidle hattempt => exact ⟨_, h.finished hattempt⟩
    | refused hidle hattempt => exact ⟨_, h.refused hidle hattempt⟩
    | @corrected t old r howed =>
      obtain ⟨hnull, hwhole⟩ := earlier.writes_of_owed howed
      obtain ⟨pre, post, rfl⟩ := List.append_of_mem ((h.owed_iff t old r).mp howed)
      -- A quiet old handle lets the call be put at its second step, a quiet new one at its first.
      by_cases hstores : (writesSince t log).Stores old
      · by_cases htouches : (writesSince t log).Touches r.handle
        · exact ⟨_, h.corrected_apart hnull ⟨hstores, htouches⟩⟩
        · exact ⟨_, h.corrected_first hwhole htouches⟩
      · exact ⟨_, h.corrected_last hwhole hstores⟩

end Arranged

def serially (start : Ledger Unit) (order : List Call) : Ledger Unit := order.foldl Call.alone start

theorem get?_serially (start : Ledger Unit) (order : List Call) :
    (serially start order).get? = Writes.apply (order.flatMap Call.writes) start.get? := by
  induction order generalizing start with
  | nil => rfl
  | cons c order ih =>
    rw [serially, List.foldl_cons, ← serially, ih, Call.get?_alone, List.flatMap_cons,
      Writes.apply_append]

section

variable {slots : List Slot} (h : ∀ t old r, .half t old r ∉ slots)

include h

theorem map_call_of_whole : slots.map Slot.call = slots.filterMap Slot.call? := by
  induction slots with
  | nil => rfl
  | cons slot slots ih =>
    have hrest := ih fun t old r hmem => h t old r (List.mem_cons_of_mem _ hmem)
    cases slot with
    | done c => simp [Slot.call?, hrest]
    | half t old r => exact absurd List.mem_cons_self (h t old r)

theorem writesOf_of_whole : writesOf slots = (slots.map Slot.call).flatMap Call.writes := by
  induction slots with
  | nil => rfl
  | cons slot slots ih =>
    have hrest := ih fun t old r hmem => h t old r (List.mem_cons_of_mem _ hmem)
    cases slot with
    | done c => simp [hrest]
    | half t old r => exact absurd List.mem_cons_self (h t old r)

end

/-- However the steps of the threads interleave, the ledger ends with the records to which the calls
come one after another in some order, where a reallocation that was disturbed counts as a free of
its old handle and an allocation at its new one. If none was disturbed, these are the calls as they
were made. -/
theorem interleaved_calls_serialize {start : Ledger Unit} {log : List Event} {s : Shared}
    (run : Run start log s) (complete : ∀ t, s.owed t = none) :
    ∃ order, order.Perm (pieces log) ∧ (Calm log → order.Perm (calls log)) ∧
      (serially start order).get? = s.ledger.get? := by
  obtain ⟨slots, h⟩ := Arranged.run run
  have hwhole : ∀ t old r, .half t old r ∉ slots := by
    intro t old r hmem
    have howed := (h.owed_iff t old r).mpr hmem
    rw [complete t] at howed
    cases howed
  refine ⟨slots.map Slot.call, ?_, h.made, ?_⟩
  · rw [map_call_of_whole hwhole]
    exact h.done
  · rw [get?_serially, h.records, writesOf_of_whole hwhole]

def block (address size : Nat) : Record Unit := ⟨⟨address⟩, size, ⟨0⟩, [], ()⟩

def twoBlocks : Ledger Unit := ({} : Ledger Unit).insert (block 1 10) |>.insert (block 2 20)

/-- While one thread moves the first block to the place of the second one, another thread moves the
second block to the place of the first one. -/
def crossing : List Event :=
  [.corrected 1 ⟨1⟩ (block 2 30), .finished 2 (.result ⟨2⟩ (block 1 40)),
   .refused 1 ⟨1⟩ (block 2 30)]

def crossingAndMore : List Event :=
  .corrected 3 Handle.null (block 1 50) :: .finished 2 (.free ⟨2⟩) ::
    .refused 3 Handle.null (block 1 50) :: crossing

theorem interleaved_calls_serialize_of_crossing :
    ∃ s, Run twoBlocks crossingAndMore s ∧ (∀ t, s.owed t = none) ∧
      pieces crossingAndMore =
        [.result Handle.null (block 1 50), .free ⟨2⟩, .free ⟨1⟩,
          .result Handle.null (block 2 30), .result ⟨2⟩ (block 1 40)] ∧
      ∃ order, order.Perm (pieces crossingAndMore) ∧
        (Calm crossingAndMore → order.Perm (calls crossingAndMore)) ∧
        (serially twoBlocks order).get? = s.ledger.get? := by
  have hrun : ∃ s, Run twoBlocks crossingAndMore s ∧ ∀ t, s.owed t = none := by
    refine ⟨_, .cons (.cons (.cons (.cons (.cons (.cons .nil (.refused rfl rfl)) (.finished rfl rfl))
      (.corrected rfl)) (.refused rfl rfl)) (.finished rfl rfl)) (.corrected rfl), fun t => ?_⟩
    by_cases h1 : t = 1 <;> by_cases h3 : t = 3 <;> simp [Function.update, h1, h3]
  obtain ⟨s, run, complete⟩ := hrun
  exact ⟨s, run, complete, by decide, interleaved_calls_serialize run complete⟩

/-- In either order one of the two calls releases what the other one has stored. -/
theorem crossing_has_no_order :
    ∃ s, Run twoBlocks crossing s ∧ (∀ t, s.owed t = none) ∧
      ∀ order, order.Perm (calls crossing) → (serially twoBlocks order).get? ≠ s.ledger.get? := by
  have hrun : Run twoBlocks crossing _ :=
    .cons (.cons (.cons .nil (.refused rfl rfl)) (.finished rfl rfl)) (.corrected rfl)
  refine ⟨_, hrun, fun t => ?_, fun order horder heq => ?_⟩
  · by_cases h1 : t = 1 <;> simp [Function.update, h1]
  · rcases List.perm_pair.mp horder with rfl | rfl
    · exact absurd (congrFun heq ⟨1⟩) (by decide)
    · exact absurd (congrFun heq ⟨2⟩) (by decide)

end ResourceTrace.Allocations
