import ResourceTrace.Proofs.Magnitude.Sum

set_option autoImplicit false

namespace ResourceTrace.Magnitude

open Numeral (InWord)

namespace Word

def checked (exact : Int) (result : Int64) : Option Int64 :=
  if result.toInt = exact then some result else none

def mul? (a b : Int64) : Option Int64 := checked (a.toInt * b.toInt) (a * b)

def add? (a b : Int64) : Option Int64 := checked (a.toInt + b.toInt) (a + b)

def append? (n : Int64) (c : Char) : Option Int64 := do
  add? (← mul? n 10) (Int64.ofNat (Numeral.digit c))

def orOutOfRange (text : String) : Option Int64 → Except OptionError Int64
  | some n => .ok n
  | none => .error (.outOfRange text)

def amount (units : Units) (text : String) (s : Segment) : Except OptionError Int64 := do
  let count ← orOutOfRange text (s.digits.foldlM append? 0)
  let factor ← scale units s.unit
  let amount ← orOutOfRange text (mul? count (Int64.ofNat factor))
  return if s.negative then -amount else amount

def add (units : Units) (text : String) (total : Int64) (s : Segment) :
    Except OptionError Int64 := do
  let amount ← amount units text s
  orOutOfRange text (add? total amount)

def parse (units : Units) (text : String) : Except OptionError Int64 :=
  (segments text.toList).foldlM (add units text) 0

theorem inWord_toInt (a : Int64) : InWord a.toInt := by
  have hle := a.le_toInt
  have hlt := a.toInt_lt
  simp only [InWord, Numeral.minInt64, Numeral.maxInt64]
  omega

theorem bmod_of_inWord {i : Int} (h : InWord i) : i.bmod (2 ^ 64) = i := by
  simp only [InWord, Numeral.minInt64, Numeral.maxInt64] at h
  exact Int.bmod_eq_of_le (by omega) (by omega)

def ofInt? (i : Int) : Option Int64 := if InWord i then some (Int64.ofInt i) else none

theorem toInt_ofInt {i : Int} (h : InWord i) : (Int64.ofInt i).toInt = i := by
  rw [Int64.toInt_ofInt]
  exact bmod_of_inWord h

theorem ofInt?_of_inWord {i : Int} (h : InWord i) : ofInt? i = some (Int64.ofInt i) := if_pos h

theorem ofInt?_of_not_inWord {i : Int} (h : ¬InWord i) : ofInt? i = none := if_neg h

theorem map_ofInt? (text : String) (i : Int) :
    (orOutOfRange text (ofInt? i)).map Int64.toInt = within text i := by
  by_cases h : InWord i
  · rw [ofInt?_of_inWord h, within_of_inWord h, orOutOfRange, Except.map, toInt_ofInt h]
  · rw [ofInt?_of_not_inWord h, within_of_not_inWord h]
    rfl

theorem checked_eq {exact : Int} {result : Int64} (h : result.toInt = exact.bmod (2 ^ 64)) :
    checked exact result = ofInt? exact := by
  by_cases hin : InWord exact
  · have hexact : result.toInt = exact := by rw [h, bmod_of_inWord hin]
    have hresult : result = Int64.ofInt exact := by rw [← hexact, Int64.ofInt_toInt]
    rw [checked, if_pos hexact, ofInt?_of_inWord hin, hresult]
  · rw [ofInt?_of_not_inWord hin]
    refine if_neg fun hexact => hin ?_
    rw [← hexact]
    exact inWord_toInt result

theorem mul?_eq (a b : Int64) : mul? a b = ofInt? (a.toInt * b.toInt) :=
  checked_eq (Int64.toInt_mul a b)

theorem add?_eq (a b : Int64) : add? a b = ofInt? (a.toInt + b.toInt) :=
  checked_eq (Int64.toInt_add a b)

theorem toInt_ofNat {n : Nat} (h : n ≤ Numeral.maxInt64) : (Int64.ofNat n).toInt = n := by
  simp only [Numeral.maxInt64] at h
  exact Int64.toInt_ofNat_of_lt (by omega)

/-- The negative of a word is a word, unless the word is the least one. -/
theorem toInt_neg {a : Int64} (h : 0 ≤ a.toInt) : (-a).toInt = -a.toInt := by
  have hlt := a.toInt_lt
  rw [Int64.toInt_neg]
  refine bmod_of_inWord ?_
  simp only [InWord, Numeral.minInt64, Numeral.maxInt64]
  omega

theorem toInt_digit (c : Char) : (Int64.ofNat (Numeral.digit c)).toInt = Numeral.digit c := by
  have hc : c.toNat < 4294967296 := c.val.toNat_lt
  refine toInt_ofNat ?_
  simp only [Numeral.digit, Numeral.maxInt64]
  omega

theorem append?_eq {n : Int64} {k : Nat} (hn : n.toInt = k) (c : Char) :
    append? n c = ofInt? (10 * k + Numeral.digit c : Nat) := by
  have hten : n.toInt * (10 : Int64).toInt = (10 * k : Nat) := by
    rw [hn, Int.natCast_mul]
    exact Int.mul_comm _ _
  rw [append?, mul?_eq, hten]
  -- A product that does not fit stays too large with the digit added.
  by_cases h : InWord (10 * k : Nat)
  · simp only [ofInt?_of_inWord h, bind, Option.bind, add?_eq, toInt_ofInt h, toInt_digit,
      Int.natCast_add]
  · have hmore : ¬InWord (10 * k + Numeral.digit c : Nat) := by
      rw [inWord_natCast] at h ⊢
      omega
    rw [ofInt?_of_not_inWord h, ofInt?_of_not_inWord hmore]
    rfl

def valueFrom (k : Nat) (digits : List Char) : Nat :=
  digits.foldl (fun n c => 10 * n + Numeral.digit c) k

theorem le_valueFrom (k : Nat) (digits : List Char) : k ≤ valueFrom k digits := by
  induction digits generalizing k with
  | nil => exact Nat.le_refl k
  | cons c digits ih =>
    have hrest : 10 * k + Numeral.digit c ≤ valueFrom k (c :: digits) := ih _
    omega

theorem foldlM_append? {n : Int64} {k : Nat} (hn : n.toInt = k) (digits : List Char) :
    digits.foldlM append? n = ofInt? (valueFrom k digits) := by
  induction digits generalizing n k with
  | nil =>
    have hin : InWord k := hn ▸ inWord_toInt n
    have hword : Int64.ofInt k = n := by rw [← hn, Int64.ofInt_toInt]
    exact ((ofInt?_of_inWord hin).trans (congrArg some hword)).symm
  | cons c digits ih =>
    rw [List.foldlM_cons, append?_eq hn]
    by_cases h : InWord (10 * k + Numeral.digit c : Nat)
    · rw [ofInt?_of_inWord h]
      exact ih (toInt_ofInt h)
    · -- Further digits only make the number larger.
      have hmore : ¬InWord (valueFrom k (c :: digits)) := by
        have hle : 10 * k + Numeral.digit c ≤ valueFrom k (c :: digits) := le_valueFrom _ digits
        rw [inWord_natCast] at h ⊢
        omega
      rw [ofInt?_of_not_inWord h, ofInt?_of_not_inWord hmore]
      rfl

theorem scale_le {units : Units} (hunits : ∀ entry ∈ units, entry.2 ≤ Numeral.maxInt64)
    {unit : Option Char} {factor : Nat} (h : scale units unit = .ok factor) :
    factor ≤ Numeral.maxInt64 := by
  cases unit with
  | none =>
    obtain rfl := Except.ok.inj h
    decide
  | some u =>
    rw [scale] at h
    split at h
    · next entry hentry =>
      obtain rfl := Except.ok.inj h
      exact hunits entry (List.mem_of_find?_eq_some hentry)
    · cases h

section

variable {units : Units} (hunits : ∀ entry ∈ units, entry.2 ≤ Numeral.maxInt64)
include hunits

theorem map_amount (text : String) (s : Segment) :
    (amount units text s).map Int64.toInt = s.amount units text := by
  have hcount : s.digits.foldlM append? 0 = ofInt? (Numeral.value s.digits) :=
    foldlM_append? (n := 0) (k := 0) rfl s.digits
  rw [amount, Segment.amount, hcount]
  by_cases hdigits : InWord (Numeral.value s.digits)
  · rw [ofInt?_of_inWord hdigits, within_of_inWord hdigits]
    cases hunit : scale units s.unit with
    | error e => rfl
    | ok factor =>
      have hfactor := toInt_ofNat (scale_le hunits hunit)
      simp only [orOutOfRange, bind, Except.bind, mul?_eq, toInt_ofInt hdigits, hfactor]
      by_cases hproduct : InWord (Numeral.value s.digits * factor : Int)
      · have hnonneg : 0 ≤ (Int64.ofInt (Numeral.value s.digits * factor)).toInt := by
          rw [toInt_ofInt hproduct, ← Int.natCast_mul]
          exact Int.natCast_nonneg _
        rw [ofInt?_of_inWord hproduct, within_of_inWord hproduct]
        cases s.negative with
        | true =>
          have hneg := toInt_neg hnonneg
          rw [toInt_ofInt hproduct] at hneg
          exact congrArg Except.ok hneg
        | false => exact congrArg Except.ok (toInt_ofInt hproduct)
      · rw [ofInt?_of_not_inWord hproduct, within_of_not_inWord hproduct]
        rfl
  · rw [ofInt?_of_not_inWord hdigits, within_of_not_inWord hdigits]
    rfl

theorem map_add (text : String) (before : Int64) (s : Segment) :
    (add units text before s).map Int64.toInt = Magnitude.add units text before.toInt s := by
  have hamount := map_amount hunits text s
  rw [add, Magnitude.add, ← hamount]
  cases amount units text s with
  | error e => rfl
  | ok a =>
    simp only [Except.map, bind, Except.bind, add?_eq]
    exact map_ofInt? text _

theorem map_foldlM (text : String) (before : Int64) (ss : List Segment) :
    (ss.foldlM (add units text) before).map Int64.toInt =
      ss.foldlM (Magnitude.add units text) before.toInt := by
  induction ss generalizing before with
  | nil => rfl
  | cons s ss ih =>
    rw [List.foldlM_cons, List.foldlM_cons, ← map_add hunits]
    cases add units text before s with
    | error e => rfl
    | ok n => exact ih n

theorem map_parse (text : String) :
    (parse units text).map Int64.toInt = Magnitude.parse units text :=
  map_foldlM hunits text 0 (segments text.toList)

end

end Word

theorem toList_toString (i : Int) :
    (toString i).toList = (if i < 0 then ['-'] else []) ++ Nat.toDigits 10 i.natAbs := by
  cases i with
  | ofNat n =>
    have hn : ¬Int.ofNat n < 0 := Int.not_lt.mpr (Int.natCast_nonneg n)
    rw [if_neg hn]
    exact String.toList_ofList
  | negSucc n =>
    have hmark : "-".toList = ['-'] := rfl
    rw [if_pos (Int.negSucc_lt_zero n)]
    exact (String.toList_append ..).trans (by rw [hmark]; exact congrArg _ String.toList_ofList)

section

variable (units : Units) (i : Int)

def decimal (i : Int) : Segment := ⟨decide (i < 0), Nat.toDigits 10 i.natAbs, none⟩

theorem segments_toString : segments (toString i).toList = [decimal i] := by
  have hrun := Numeral.isRun_toDigits i.natAbs
  have hcut : (decimal i).CutBefore [] :=
    ⟨hrun.isDigit, by simp [decimal], fun _ hnil => absurd hnil hrun.ne_nil, fun _ => rfl,
      by simp [Segment.chars, decimal, hrun.ne_nil]⟩
  have hchars : (toString i).toList = (decimal i).chars ++ [] := by
    rw [toList_toString]
    by_cases hi : i < 0 <;> simp [Segment.chars, decimal, hi]
  rw [hchars, segments_append hcut, segments]

theorem exact_decimal : (decimal i).exact units = i := by
  have hscaled : (decimal i).scaled units = i.natAbs := by
    rw [Segment.scaled, decimal, Numeral.value_toDigits, factor?, Option.getD_some, Nat.mul_one]
  have hsign : (decimal i).negative = decide (i < 0) := rfl
  rw [Segment.exact, hscaled, hsign]
  by_cases hi : i < 0
  · rw [decide_eq_true hi, if_pos rfl]
    omega
  · rw [decide_eq_false hi, if_neg Bool.false_ne_true]
    omega

theorem parse_toString :
    parse units (toString i) =
      if i.natAbs ≤ Numeral.maxInt64 then .ok i else .error (.outOfRange (toString i)) := by
  have hparse : parse units (toString i) = add units (toString i) 0 (decimal i) := by
    rw [parse, segments_toString, List.foldlM_cons]
    exact bind_pure _
  have hvalue : Numeral.value (decimal i).digits = i.natAbs := Numeral.value_toDigits _
  have hunit : factor? units (decimal i).unit = some 1 := rfl
  rw [hparse]
  split
  · next hle =>
    have hscaled : (decimal i).scaled units = i.natAbs := by
      rw [scaled_of_factor? hunit, hvalue, Nat.mul_one]
    have hin : InWord (0 + (decimal i).exact units) := by
      rw [exact_decimal]
      simp only [InWord, Numeral.minInt64, Numeral.maxInt64] at hle ⊢
      omega
    rw [add_of_scaled (by rw [hvalue]; exact hle) hunit (by rw [hscaled]; exact hle),
      within_of_inWord hin, exact_decimal, Int.zero_add]
  · next hlt => exact add_of_fault (.digits (by rw [hvalue]; exact Int.not_le.mp hlt))

end

def tables : List Units := [sizeUnits, durationUnits]

theorem factor_le {units : Units} (h : units ∈ tables) :
    ∀ entry ∈ units, entry.2 ≤ Numeral.maxInt64 := by
  have hall : ∀ units ∈ tables, ∀ entry ∈ units, entry.2 ≤ Numeral.maxInt64 := by decide
  exact hall units h

/-- A text falls into segments in one way. The first of them with a fault decides the error, and
without a fault the answer is the exact sum; on words of 64 bits the answer is the same. Decimal
texts are their numbers, but for the least one. -/
theorem parse_by_segments {units : Units} (hunits : units ∈ tables) (text : String) :
    (∃ ss, (∀ cut, Cuts text.toList cut ↔ cut = ss) ∧
      (∀ n, parse units text = .ok n ↔ Faultless units text ss ∧ n = total units ss) ∧
      ∀ e, parse units text = .error e ↔
        ∃ earlier s later, ss = earlier ++ s :: later ∧ Faultless units text earlier ∧
          Fault units text (total units earlier) s e) ∧
    (Word.parse units text).map Int64.toInt = parse units text ∧
    (∀ i, Numeral.minInt64 < i ∧ i ≤ Numeral.maxInt64 → parse units (toString i) = .ok i) ∧
    parse units (toString Numeral.minInt64) = .error (.outOfRange (toString Numeral.minInt64)) := by
  refine ⟨⟨segments text.toList, cuts_iff text.toList, foldlM_eq_ok_iff, foldlM_eq_error_iff⟩,
    Word.map_parse (factor_le hunits) text, fun i hi => ?_, parse_toString units _⟩
  have hle : i.natAbs ≤ Numeral.maxInt64 := by
    simp only [Numeral.minInt64, Numeral.maxInt64] at hi ⊢
    omega
  rw [parse_toString, if_pos hle]

/-- The second segment leaves the range, to which the third would lead back. -/
def leavingText : String := "8589934591G1048576k-1G"

def leaving : List Segment :=
  [⟨false, "8589934591".toList, some 'G'⟩, ⟨false, "1048576".toList, some 'k'⟩,
    ⟨true, ['1'], some 'G'⟩]

theorem parse_by_segments_of_leaving :
    sizeUnits ∈ tables ∧ Cuts leavingText.toList leaving ∧
      total sizeUnits leaving = 9223372035781033984 ∧
      parse sizeUnits leavingText = .error (.outOfRange leavingText) := by
  have hunits : sizeUnits ∈ tables := List.mem_cons_self
  have hcut : Cuts leavingText.toList leaving := (cuts_iff _ _).mpr <| by
    simp [leavingText, leaving, segments, Segment.read, Segment.rest, dropSign]
  obtain ⟨⟨ss, hss, -, herror⟩, -⟩ := parse_by_segments hunits leavingText
  obtain rfl := (hss leaving).mp hcut
  have hfirst : Faultless sizeUnits leavingText (leaving.take 1) :=
    ((foldlM_eq_ok_iff 9223372035781033984).mp rfl).1
  have hsecond : Fault sizeUnits leavingText (total sizeUnits (leaving.take 1))
      ⟨false, "1048576".toList, some 'k'⟩ (.outOfRange leavingText) :=
    .sum (by decide) (rfl : factor? sizeUnits (some 'k') = some 1024) (by decide) (by decide)
  exact ⟨hunits, hcut, by decide, (herror _).mpr ⟨_, _, leaving.drop 2, rfl, hfirst, hsecond⟩⟩

end ResourceTrace.Magnitude
