import Mathlib.Algebra.Group.Nat.Defs
import ResourceTrace.Text.Numeral

set_option autoImplicit false

namespace ResourceTrace

namespace Text

theorem takeWhile_append_of_stop {p : Char → Bool} {front rest : List Char}
    (hfront : ∀ c ∈ front, p c = true) (hrest : ∀ c ∈ rest.head?, p c = false) :
    (front ++ rest).takeWhile p = front := by
  have hstop : rest.takeWhile p = [] := by
    cases rest with
    | nil => rfl
    | cons c cs => exact List.takeWhile_cons_of_neg (by simp [hrest c rfl])
  rw [List.takeWhile_append_of_pos hfront, hstop, List.append_nil]

theorem dropWhile_append_of_stop {p : Char → Bool} {front rest : List Char}
    (hfront : ∀ c ∈ front, p c = true) (hrest : ∀ c ∈ rest.head?, p c = false) :
    (front ++ rest).dropWhile p = rest := by
  have hsplit := List.takeWhile_append_dropWhile (p := p) (l := front ++ rest)
  rw [takeWhile_append_of_stop hfront hrest] at hsplit
  exact List.append_cancel_left hsplit

/-- A text falls in one way into a front with a property and a rest that does not go on with it. -/
theorem append_inj_of_stop {p : Char → Bool} {front rest front' rest' : List Char}
    (h : front ++ rest = front' ++ rest') (hfront : ∀ c ∈ front, p c = true)
    (hrest : ∀ c ∈ rest.head?, p c = false) (hfront' : ∀ c ∈ front', p c = true)
    (hrest' : ∀ c ∈ rest'.head?, p c = false) : front = front' ∧ rest = rest' := by
  have hsame : front = front' := by
    rw [← takeWhile_append_of_stop hfront hrest, h, takeWhile_append_of_stop hfront' hrest']
  exact ⟨hsame, List.append_cancel_left (hsame ▸ h)⟩

end Text

namespace Numeral

structure IsRun (digits : List Char) : Prop where
  ne_nil : digits ≠ []
  isDigit : ∀ c ∈ digits, c.isDigit = true

theorem isRun_iff (digits : List Char) :
    IsRun digits ↔ (!digits.isEmpty && digits.all Char.isDigit) = true := by
  rw [Bool.and_eq_true, Bool.not_eq_true', List.isEmpty_eq_false_iff, List.all_eq_true]
  exact ⟨fun h => ⟨h.ne_nil, h.isDigit⟩, fun h => ⟨h.1, h.2⟩⟩

theorem readUnsigned?_eq_some_iff {limit n : Nat} {digits : List Char} :
    readUnsigned? limit digits = some n ↔ IsRun digits ∧ value digits = n ∧ n ≤ limit := by
  rw [readUnsigned?, Option.filter_eq_some_iff, readNat?, isRun_iff]
  cases hempty : digits.isEmpty <;> cases hdigits : digits.all Char.isDigit <;> simp

theorem value_eq_ofDigitChars (cs : List Char) : value cs = Nat.ofDigitChars 10 cs 0 := by
  rw [Nat.ofDigitChars_eq_foldl]
  rfl

theorem isRun_toDigits (n : Nat) : IsRun (Nat.toDigits 10 n) :=
  ⟨Nat.toDigits_ne_nil, fun _ hc => Nat.isDigit_of_mem_toDigits (by decide) (by decide) hc⟩

theorem value_toDigits (n : Nat) : value (Nat.toDigits 10 n) = n := by
  rw [value_eq_ofDigitChars, Nat.ofDigitChars_ten_toDigits]

theorem toList_padded (width n : Nat) :
    (padded width n).toList =
      List.replicate (width - (Nat.toDigits 10 n).length) '0' ++ Nat.toDigits 10 n := by
  rw [padded, String.toList_ofList]

theorem length_padded {width n : Nat} (hw : 0 < width) (h : n < 10 ^ width) :
    (padded width n).toList.length = width := by
  have hlength := (Nat.length_toDigits_le_iff (by decide : 1 < 10) hw).mpr h
  rw [toList_padded, List.length_append, List.length_replicate]
  omega

theorem readNat?_padded (width n : Nat) : readNat? (padded width n).toList = some n := by
  have hdigits : (padded width n).toList.all Char.isDigit = true := by
    rw [toList_padded, List.all_append, Bool.and_eq_true, List.all_eq_true, List.all_eq_true]
    constructor
    · intro c hc
      rw [List.eq_of_mem_replicate hc]
      rfl
    · exact (isRun_toDigits n).isDigit
  have hne : (padded width n).toList.isEmpty = false := by
    rw [toList_padded, List.isEmpty_eq_false_iff]
    exact List.append_ne_nil_of_right_ne_nil _ Nat.toDigits_ne_nil
  have hvalue : value (padded width n).toList = n := by
    rw [value_eq_ofDigitChars, toList_padded, Nat.ofDigitChars_append,
      Nat.ofDigitChars_replicate_zero, Nat.mul_zero, Nat.ofDigitChars_ten_toDigits]
  simp [readNat?, hdigits, hne, hvalue]

def hexDigit? (c : Char) : Option Nat :=
  if c.isDigit then some (digit c)
  else if 'a' ≤ c ∧ c ≤ 'f' then some (c.toNat - 'a'.toNat + 10)
  else if 'A' ≤ c ∧ c ≤ 'F' then some (c.toNat - 'A'.toNat + 10)
  else none

/-- The number of a run of hexadecimal digits, after the digits already read. -/
def hexValue? (n : Nat) (cs : List Char) : Option Nat :=
  cs.foldlM (fun n c => (hexDigit? c).map (16 * n + ·)) n

def readHex? (text : String) : Option Nat :=
  match text.toList with
  | '0' :: 'x' :: c :: cs => hexValue? 0 (c :: cs)
  | _ => none

theorem hexDigit?_digitChar {n : Nat} (h : n < 16) : hexDigit? (Nat.digitChar n) = some n := by
  have hall : ∀ k < 16, hexDigit? (Nat.digitChar k) = some k := by decide
  exact hall n h

theorem hexValue?_toDigits (n : Nat) : hexValue? 0 (Nat.toDigits 16 n) = some n := by
  induction n using Nat.strongRecOn with
  | ind n ih =>
    by_cases h : n < 16
    · rw [Nat.toDigits_of_lt_base h]
      simp [hexValue?, hexDigit?_digitChar h]
    · have hn := ih (n / 16) (by omega)
      rw [hexValue?] at hn
      rw [Nat.toDigits_of_base_le (by decide) (by omega), hexValue?, List.foldlM_append, hn]
      have hd := hexDigit?_digitChar (Nat.mod_lt n (by decide : 0 < 16))
      simp [hd]
      omega

theorem readHex?_hex (n : Nat) : readHex? (hex n) = some n := by
  have hv := hexValue?_toDigits n
  cases h : Nat.toDigits 16 n with
  | nil => exact absurd h Nat.toDigits_ne_nil
  | cons c cs =>
    rw [h] at hv
    have hlist : (hex n).toList = '0' :: 'x' :: c :: cs := by
      have hmark : "0x".toList = ['0', 'x'] := rfl
      rw [hex, String.toList_append, hmark, String.toList_ofList, h]
      rfl
    simp only [readHex?, hlist, hv]

end Numeral

end ResourceTrace
