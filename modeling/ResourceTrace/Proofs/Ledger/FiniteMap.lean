import Mathlib.Data.Finmap
import ResourceTrace.Proofs.Ledger.Age

set_option autoImplicit false

namespace ResourceTrace

variable {δ : Type}

namespace Ledger

inductive Answer (δ : Type) where
  | done
  | refused (e : LedgerError)
  | removed (r : Record δ)
  | replaced (previous : Option (Record δ))
  | dropped (count : Nat)
  deriving DecidableEq, Repr

def answer (l : Ledger δ) : Operation δ → Answer δ
  | .add r => match l.add r with
    | .ok _ => .done
    | .error e => .refused e
  | .remove h => match l.remove h with
    | .ok (r, _) => .removed r
    | .error e => .refused e
  | .reallocate old r => match (l.reallocate old r).1 with
    | .ok () => .done
    | .error e => .refused e
  | .replace r => .replaced (l.replace r).1
  | .retain keep => .dropped (l.retain keep).1

end Ledger

abbrev RecordMap (δ : Type) := Finmap fun _ : Handle => Record δ

namespace RecordMap

open Ledger (Answer Operation)

def keep (m : RecordMap δ) (accept : Record δ → Bool) : RecordMap δ :=
  ⟨m.entries.filter fun entry => accept entry.2, by
    have hsub : (m.entries.filter fun entry => accept entry.2).keys ≤ m.entries.keys :=
      Multiset.map_le_map (Multiset.filter_le _ _)
    exact Multiset.nodup_keys.mp (Multiset.nodup_of_le hsub (Multiset.nodup_keys.mpr m.nodupKeys))⟩

def release (m : RecordMap δ) (old : Handle) : RecordMap δ :=
  if old = Handle.null then m else m.erase old

def add (m : RecordMap δ) (r : Record δ) : Answer δ × RecordMap δ :=
  if r.handle ∈ m then (.refused (.duplicateHandle r.handle), m)
  else (.done, m.insert r.handle r)

def perform (m : RecordMap δ) : Operation δ → Answer δ × RecordMap δ
  | .add r => m.add r
  | .remove h => match m.lookup h with
    | none => (.refused (.unknownHandle h), m)
    | some r => (.removed r, m.erase h)
  | .reallocate old r => if r.size = 0 then (.done, m.release old) else (m.release old).add r
  | .replace r => (.replaced (m.lookup r.handle), m.insert r.handle r)
  | .retain accept => (.dropped (m.keep fun r => !accept r).keys.card, m.keep accept)

def run (m : RecordMap δ) (ops : List (Operation δ)) : RecordMap δ :=
  ops.foldl (fun m op => (m.perform op).2) m

/-- The handles that an operation names; `retain` names those of the records that it rejects. -/
def Named (m : RecordMap δ) (h : Handle) : Operation δ → Prop
  | .add r => h = r.handle
  | .remove k => h = k
  | .reallocate old r => h = old ∨ h = r.handle
  | .replace r => h = r.handle
  | .retain accept => ∃ r, m.lookup h = some r ∧ accept r = false

theorem lookup_keep (m : RecordMap δ) (accept : Record δ → Bool) (h : Handle) :
    (m.keep accept).lookup h = (m.lookup h).filter accept := by
  apply Option.ext
  intro r
  rw [Finmap.lookup_eq_some_iff, Option.filter_eq_some_iff, Finmap.lookup_eq_some_iff]
  exact Multiset.mem_filter

theorem lookup_insert (m : RecordMap δ) (k h : Handle) (r : Record δ) :
    (m.insert k r).lookup h = if h = k then some r else m.lookup h := by
  split
  · next heq => rw [heq, Finmap.lookup_insert]
  · next hne => exact Finmap.lookup_insert_of_ne m hne

theorem lookup_erase (m : RecordMap δ) (k h : Handle) :
    (m.erase k).lookup h = if h = k then none else m.lookup h := by
  split
  · next heq => rw [heq, Finmap.lookup_erase]
  · next hne => exact Finmap.lookup_erase_ne hne

theorem lookup_release (m : RecordMap δ) (old h : Handle) :
    (m.release old).lookup h = if h = old ∧ old ≠ Handle.null then none else m.lookup h := by
  by_cases ho : old = Handle.null
  · simp [release, ho]
  · simp [release, ho, lookup_erase]

end RecordMap

theorem Keyed.size_eq_card {κ α : Type} [DecidableEq κ] {m : Keyed κ α}
    {f : Finmap fun _ : κ => α} (h : ∀ k, m.get? k = f.lookup k) : m.size = f.keys.card := by
  have hkeys : f.keys = m.keys.toFinset := by
    apply Finset.ext
    intro k
    rw [Finmap.mem_keys, List.mem_toFinset, ← not_iff_not, ← Finmap.lookup_eq_none, ← h,
      m.get?_eq_none_iff]
  have hcard : m.keys.toFinset.card = m.keys.length := List.toFinset_card_of_nodup m.nodup
  rw [hkeys, hcard, size, keys, List.length_map]

namespace Ledger

/-- A ledger that shows a finite map in whatever is asked of it. -/
structure Shows (l : Ledger δ) (m : RecordMap δ) : Prop where
  get?_eq : ∀ h, l.get? h = m.lookup h
  contains_iff : ∀ h, l.contains h = true ↔ h ∈ m
  size_eq : l.size = m.keys.card
  isEmpty_iff : l.isEmpty = true ↔ m = ∅
  own_handle : ∀ h r, m.lookup h = some r → r.handle = h
  byAge_before : l.byAge.Pairwise Record.Before
  mem_byAge : ∀ r, r ∈ l.byAge ↔ m.lookup r.handle = some r
  total_eq : l.total = sizes l.byAge

variable {l : Ledger δ} {m : RecordMap δ}

theorem Conserved.shows (hl : l.Conserved) (h : ∀ k, l.get? k = m.lookup k) : l.Shows m where
  get?_eq := h
  contains_iff k := by rw [contains_eq, h, Finmap.lookup_isSome]
  size_eq := Keyed.size_eq_card h
  isEmpty_iff := by
    have hsize : l.isEmpty = true ↔ l.size = 0 := by
      rw [isEmpty, Keyed.isEmpty, List.isEmpty_iff_length_eq_zero]
      rfl
    have hempty : l.size = m.keys.card := Keyed.size_eq_card h
    rw [hsize, hempty, Finset.card_eq_zero]
    constructor
    · intro hkeys
      refine Finmap.ext_lookup fun k => ?_
      rw [Finmap.lookup_empty, Finmap.lookup_eq_none, ← Finmap.mem_keys, hkeys]
      exact Finset.notMem_empty k
    · rintro rfl
      exact Finmap.keys_empty
  own_handle k r hr := hl.handle_eq k r (by rw [h, hr])
  byAge_before := hl.byAge_before
  mem_byAge r := by rw [hl.mem_byAge, h]
  total_eq := hl.sizes_byAge.symm

theorem Shows.total_unique {l' : Ledger δ} (h : l.Shows m) (h' : l'.Shows m) :
    l.total = l'.total := by
  have hage : l.byAge = l'.byAge := Record.eq_of_before h.byAge_before h'.byAge_before fun r =>
    (h.mem_byAge r).trans (h'.mem_byAge r).symm
  rw [h.total_eq, h'.total_eq, hage]

theorem shows_empty : ({} : Ledger δ).Shows (∅ : RecordMap δ) :=
  conserved_empty.shows fun h => by
    rw [Finmap.lookup_empty]
    rfl

def Performs (l : Ledger δ) (op : Operation δ) (result : Answer δ × RecordMap δ) : Prop :=
  l.answer op = result.1 ∧ ∀ h, (l.apply op).get? h = result.2.lookup h

section

variable (hm : ∀ h, l.get? h = m.lookup h)
include hm

theorem performs_add (r : Record δ) : l.Performs (.add r) (m.add r) := by
  cases hr : l.get? r.handle with
  | none =>
    have hmem : r.handle ∉ m := by rwa [← Finmap.lookup_eq_none, ← hm]
    rw [RecordMap.add, if_neg hmem]
    refine ⟨by simp [answer, add_of_free hr], fun h => ?_⟩
    rw [RecordMap.lookup_insert, ← hm]
    simp only [apply, add_of_free hr, get?_insert]
  | some s =>
    have hmem : r.handle ∈ m := Finmap.mem_of_lookup_eq_some ((hm r.handle).symm.trans hr)
    rw [RecordMap.add, if_pos hmem]
    refine ⟨by simp [answer, add_of_present hr], fun h => ?_⟩
    simp only [apply, add_of_present hr, hm]

theorem performs_remove (k : Handle) : l.Performs (.remove k) (m.perform (.remove k)) := by
  rw [RecordMap.perform, ← hm]
  cases hr : l.get? k with
  | none =>
    refine ⟨by simp [answer, remove_of_absent hr], fun h => ?_⟩
    simp only [apply, remove_of_absent hr, hm]
  | some r =>
    refine ⟨by simp [answer, remove_of_present hr], fun h => ?_⟩
    simp only [apply, remove_of_present hr, get?_drop, RecordMap.lookup_erase, hm]

theorem performs_reallocate (old : Handle) (r : Record δ) :
    l.Performs (.reallocate old r) (m.perform (.reallocate old r)) := by
  have hreleased : ∀ h, (l.release old).get? h = (m.release old).lookup h := by
    intro h
    rw [get?_release, RecordMap.lookup_release, hm]
  by_cases hz : r.size = 0
  · rw [RecordMap.perform, if_pos hz]
    refine ⟨by simp [answer, reallocate, hz], fun h => ?_⟩
    simpa [apply, reallocate, hz] using hreleased h
  · have hadd := performs_add hreleased r
    have hanswer : l.answer (.reallocate old r) = (l.release old).answer (.add r) := by
      simp only [answer, reallocate, hz, if_false]
      cases (l.release old).add r <;> rfl
    have happly : l.apply (.reallocate old r) = (l.release old).apply (.add r) :=
      (reallocate_eq_apply l old r).trans (if_neg hz)
    rw [RecordMap.perform, if_neg hz]
    exact ⟨hanswer.trans hadd.1, fun h => happly ▸ hadd.2 h⟩

theorem performs_replace (r : Record δ) : l.Performs (.replace r) (m.perform (.replace r)) := by
  have hprevious : (l.replace r).1 = l.get? r.handle := by
    cases hr : l.get? r.handle with
    | none => rw [replace_of_free hr]
    | some s => rw [replace_of_present hr]
  refine ⟨by rw [RecordMap.perform, answer, hprevious, hm], fun h => ?_⟩
  rw [RecordMap.perform, apply, get?_replace, RecordMap.lookup_insert, hm]

theorem performs_retain (accept : Record δ → Bool) :
    l.Performs (.retain accept) (m.perform (.retain accept)) := by
  have hkept : ∀ keep : Record δ → Bool, ∀ h, (l.records.filter keep).get? h =
      (m.keep keep).lookup h := by
    intro keep h
    rw [Keyed.get?_filter, RecordMap.lookup_keep, ← hm]
    rfl
  -- The records that stay and those that go are all of them together.
  have hcount : (l.retain accept).1 = (l.records.filter fun r => !accept r).size := by
    have hall := l.records.toList.length_eq_length_filter_add fun p => accept p.2
    simp only [retain, Keyed.size, Keyed.filter] at hall ⊢
    omega
  refine ⟨?_, hkept accept⟩
  rw [RecordMap.perform, answer, hcount, Keyed.size_eq_card (hkept _)]

theorem performs (op : Operation δ) : l.Performs op (m.perform op) := by
  cases op with
  | add r => exact performs_add hm r
  | remove k => exact performs_remove hm k
  | reallocate old r => exact performs_reallocate hm old r
  | replace r => exact performs_replace hm r
  | retain accept => exact performs_retain hm accept

end

end Ledger

namespace RecordMap

open Ledger (Operation)

variable {m : RecordMap δ} {h : Handle}

theorem lookup_add_of_ne {r : Record δ} (hne : h ≠ r.handle) :
    (m.add r).2.lookup h = m.lookup h := by
  rw [add]
  split
  · rfl
  · rw [lookup_insert, if_neg hne]

theorem lookup_release_of_ne {old : Handle} (hne : h ≠ old) :
    (m.release old).lookup h = m.lookup h := by
  rw [lookup_release, if_neg fun heq => hne heq.1]

theorem lookup_perform {op : Operation δ} (hn : ¬m.Named h op) :
    (m.perform op).2.lookup h = m.lookup h := by
  cases op with
  | add r => exact lookup_add_of_ne hn
  | remove k =>
    rw [perform]
    split
    · rfl
    · exact (lookup_erase m k h).trans (if_neg hn)
  | reallocate old r =>
    obtain ⟨hold, hnew⟩ := not_or.mp hn
    rw [perform]
    split
    · exact lookup_release_of_ne hold
    · rw [lookup_add_of_ne hnew, lookup_release_of_ne hold]
  | replace r => exact (lookup_insert m r.handle h r).trans (if_neg hn)
  | retain accept =>
    rw [perform, lookup_keep]
    cases hr : m.lookup h with
    | none => rfl
    | some r =>
      have haccept : accept r = true := by
        by_contra hreject
        exact hn ⟨r, hr, Bool.eq_false_iff.mpr hreject⟩
      rw [Option.filter_some, if_pos haccept]

end RecordMap

namespace Ledger

theorem shows_run (ops : List (Operation δ)) :
    (run {} ops : Ledger δ).Shows (RecordMap.run ∅ ops) := by
  induction ops using List.reverseRecOn with
  | nil => exact shows_empty
  | append_singleton ops op ih =>
    have hconserved : (run {} ops : Ledger δ).Conserved := conserved_empty.run ops
    rw [run, List.foldl_append, RecordMap.run, List.foldl_append]
    exact (hconserved.apply op).shows (performs ih.get?_eq op).2

/-- Whatever has been done to an empty ledger, it shows the finite map to which the same has been
done; its next answer, be it a failure, is that of the map, the map shows in the ledger after
it, and all records that are not named are the same as before. An operation that leaves the map
leaves the total. -/
theorem refines_finite_map (ops : List (Operation δ)) (op : Operation δ) :
    (run {} ops).Shows (RecordMap.run ∅ ops) ∧
      (run {} ops).answer op = ((RecordMap.run ∅ ops).perform op).1 ∧
      ((run {} ops).apply op).Shows ((RecordMap.run ∅ ops).perform op).2 ∧
      (∀ h, (RecordMap.run ∅ ops).Named h op ∨
        ((run {} ops).apply op).get? h = (run {} ops).get? h) ∧
      (((RecordMap.run ∅ ops).perform op).2 = RecordMap.run ∅ ops →
        ((run {} ops).apply op).total = (run {} ops).total) := by
  have hshows : (run {} ops : Ledger δ).Shows (RecordMap.run ∅ ops) := shows_run ops
  have hconserved : (run {} ops : Ledger δ).Conserved := conserved_empty.run ops
  obtain ⟨hanswer, hrecords⟩ := performs hshows.get?_eq op
  have hafter : ((run {} ops).apply op).Shows ((RecordMap.run ∅ ops).perform op).2 :=
    (hconserved.apply op).shows hrecords
  refine ⟨hshows, hanswer, hafter, fun h => ?_, fun hsame => ?_⟩
  · by_cases hn : (RecordMap.run ∅ ops).Named h op
    · exact .inl hn
    · rw [hrecords, hshows.get?_eq, RecordMap.lookup_perform hn]
      exact .inr rfl
  · exact (hsame ▸ hafter).total_unique hshows

end Ledger

end ResourceTrace
