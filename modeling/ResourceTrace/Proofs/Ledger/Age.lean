import ResourceTrace.Proofs.Ledger.Conservation

set_option autoImplicit false

namespace ResourceTrace

variable {δ : Type}

/-- Acquired earlier, or at the same time and at a lower address. -/
def Record.Before (r s : Record δ) : Prop :=
  r.created.nanos < s.created.nanos ∨
    (r.created.nanos = s.created.nanos ∧ r.handle.address < s.handle.address)

theorem Record.notAfter_iff (r s : Record δ) :
    r.notAfter s = true ↔ r.created.nanos < s.created.nanos ∨
      (r.created.nanos = s.created.nanos ∧ r.handle.address ≤ s.handle.address) := by
  simp [notAfter]

theorem Record.Before.of_notAfter {r s : Record δ} (h : r.notAfter s = true)
    (hne : r.handle ≠ s.handle) : r.Before s := by
  have ha : r.handle.address ≠ s.handle.address := fun hc => hne (congrArg Handle.mk hc)
  rw [notAfter_iff] at h
  rcases h with hlt | ⟨heq, hle⟩
  · exact .inl hlt
  · exact .inr ⟨heq, Nat.lt_of_le_of_ne hle ha⟩

theorem Record.Before.notAfter {r s : Record δ} (h : r.Before s) : r.notAfter s = true := by
  rw [notAfter_iff]
  rcases h with hlt | ⟨heq, hlt⟩
  · exact .inl hlt
  · exact .inr ⟨heq, Nat.le_of_lt hlt⟩

theorem Record.Before.not_notAfter {r s : Record δ} (h : r.Before s) : ¬s.notAfter r = true := by
  rw [notAfter_iff]
  rcases h with hlt | ⟨heq, hlt⟩ <;> omega

theorem Record.Before.asymm {r s : Record δ} (h : r.Before s) : ¬s.Before r := by
  rintro (hlt | ⟨heq, hlt⟩)
  · rcases h with h | ⟨h, -⟩ <;> omega
  · rcases h with h | ⟨-, h⟩ <;> omega

/-- The order leaves no choice: there is one way to list given records by age. -/
theorem Record.eq_of_before {rs ss : List (Record δ)} (hr : rs.Pairwise Record.Before)
    (hs : ss.Pairwise Record.Before) (hm : ∀ r, r ∈ rs ↔ r ∈ ss) : rs = ss := by
  have hnodup : ∀ {ts : List (Record δ)}, ts.Pairwise Record.Before → ts.Nodup := by
    intro ts ht
    refine ht.imp fun {a b} hab heq => ?_
    subst heq
    exact hab.asymm hab
  exact List.Perm.eq_of_pairwise (fun _ _ _ _ hab hba => absurd hba hab.asymm) hr hs
    ((List.perm_ext_iff_of_nodup (hnodup hr) (hnodup hs)).mpr hm)

theorem Record.pairwise_mergeSort (rs : List (Record δ)) :
    (rs.mergeSort Record.notAfter).Pairwise fun r s => r.notAfter s = true := by
  refine List.pairwise_mergeSort ?_ ?_ rs
  · intro a b c hab hbc
    rw [Record.notAfter_iff] at *
    omega
  · intro a b
    rw [Bool.or_eq_true, Record.notAfter_iff, Record.notAfter_iff]
    omega

theorem Record.mergeSort_before {rs : List (Record δ)} (h : (rs.map Record.handle).Nodup) :
    (rs.mergeSort Record.notAfter).Pairwise Record.Before := by
  have hperm := (List.mergeSort_perm rs Record.notAfter).map Record.handle
  exact (pairwise_mergeSort rs).imp₂ (fun _ _ hle hne => .of_notAfter hle hne)
    (List.pairwise_map.mp (hperm.nodup_iff.mpr h))

theorem Record.cons_merge {r : Record δ} {ss : List (Record δ)} (h : ∀ s ∈ ss, r.Before s)
    (rs : List (Record δ)) : (r :: rs).merge ss notAfter = r :: rs.merge ss notAfter := by
  cases ss with
  | nil => simp
  | cons s ss => exact List.cons_merge_cons_pos _ _ _ (h s List.mem_cons_self).notAfter

theorem Record.merge_cons {s : Record δ} {rs : List (Record δ)} (h : ∀ r ∈ rs, s.Before r)
    (ss : List (Record δ)) : rs.merge (s :: ss) notAfter = s :: rs.merge ss notAfter := by
  cases rs with
  | nil => simp
  | cons r rs => exact List.cons_merge_cons_neg _ _ _ (h r List.mem_cons_self).not_notAfter

theorem Record.merge_filter {rs : List (Record δ)} (h : rs.Pairwise Record.Before)
    (p : Record δ → Bool) :
    (rs.filter p).merge (rs.filter fun r => !p r) notAfter = rs := by
  induction rs with
  | nil => simp
  | cons r rs ih =>
    obtain ⟨hr, hrs⟩ := List.pairwise_cons.mp h
    have hfirst (q : Record δ → Bool) : ∀ s ∈ rs.filter q, r.Before s :=
      fun s hs => hr s (List.mem_of_mem_filter hs)
    cases hp : p r with
    | true =>
      rw [List.filter_cons_of_pos hp, List.filter_cons_of_neg (by simp [hp]), cons_merge (hfirst _),
        ih hrs]
    | false =>
      rw [List.filter_cons_of_neg (by simp [hp]), List.filter_cons_of_pos (by simp [hp]),
        merge_cons (hfirst _), ih hrs]

namespace Ledger

theorem byAge_perm (l : Ledger δ) : l.byAge.Perm l.records.values :=
  List.mergeSort_perm _ _

namespace Conserved

variable {l : Ledger δ}

theorem mem_byAge (h : l.Conserved) (r : Record δ) :
    r ∈ l.byAge ↔ l.get? r.handle = some r := by
  rw [l.byAge_perm.mem_iff, Keyed.mem_values_iff]
  constructor
  · rintro ⟨k, hk⟩
    have hkey := h.handle_eq k r hk
    rw [hkey]
    exact hk
  · intro hr
    exact ⟨r.handle, hr⟩

theorem byAge_before (h : l.Conserved) : l.byAge.Pairwise Record.Before :=
  Record.mergeSort_before h.nodup_handles

/-- The order in which the records are enumerated does not matter. -/
theorem mergeSort_eq_byAge (h : l.Conserved) {rs : List (Record δ)}
    (hrs : rs.Perm l.records.values) : rs.mergeSort Record.notAfter = l.byAge := by
  have hnodup : (rs.map Record.handle).Nodup :=
    (hrs.map Record.handle).nodup_iff.mpr h.nodup_handles
  refine Record.eq_of_before (Record.mergeSort_before hnodup) h.byAge_before fun r => ?_
  rw [(List.mergeSort_perm rs Record.notAfter).mem_iff, hrs.mem_iff, l.byAge_perm.mem_iff]

theorem byAge_eq_of_sorted (h : l.Conserved) {rs : List (Record δ)}
    (hrs : rs.Perm l.records.values) (hsorted : rs.Pairwise fun r s => r.notAfter s = true) :
    l.byAge = rs := by
  rw [← h.mergeSort_eq_byAge hrs, List.mergeSort_of_pairwise hsorted]

theorem sizes_byAge (h : l.Conserved) : sizes l.byAge = l.total := by
  rw [h.total_eq, sum]
  exact sizes_perm l.byAge_perm

end Conserved

end Ledger

end ResourceTrace
