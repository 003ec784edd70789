import ResourceTrace.Proofs.Calendar.Gregorian
import ResourceTrace.Proofs.Text.Digits

set_option autoImplicit false

namespace ResourceTrace

namespace Moment

def truncated (m : Moment) : Moment := ⟨m.nanos / 1000000 * 1000000⟩

def year (m : Moment) : Int := (Calendar.dateOfDay (Calendar.dayOf m)).year

end Moment

namespace Calendar

/-- What is read in front of the rest of a text. -/
abbrev Reader (α : Type) := StateT (List Char) Option α

def number (width : Nat) : Reader Nat := fun cs =>
  if (cs.take width).length = width then
    (Numeral.readNat? (cs.take width)).map fun n => (n, cs.drop width)
  else none

def literal (expected : String) : Reader Unit := fun cs =>
  if expected.toList <+: cs then some ((), cs.drop expected.toList.length) else none

def clockReader : Reader Int := do
  let hour ← number 2
  literal ":"
  let minute ← number 2
  literal ":"
  let second ← number 2
  guard (hour < 24 ∧ minute < 60 ∧ second < 60)
  return (hour * 3600 + minute * 60 + second : Nat)

def dateReader : Reader Date := do
  let year ← number 4
  literal "-"
  let month ← number 2
  literal "-"
  let day ← number 2
  let date : Date := ⟨year, month, day⟩
  guard date.Valid
  return date

def stampReader : Reader Moment := do
  let date ← dateReader
  literal "T"
  let second ← clockReader
  literal "."
  let millis ← number 3
  literal "+00:00"
  return Moment.ofSeconds (dayOfDate date * 86400 + second) (millis * 1000000)

def readStamp? (text : String) : Option Moment :=
  match stampReader text.toList with
  | some (m, []) => some m
  | _ => none

theorem number_padded {width n : Nat} (hw : 0 < width) (h : n < 10 ^ width) (rest : List Char) :
    number width ((Numeral.padded width n).toList ++ rest) = some (n, rest) := by
  have hlength := Numeral.length_padded hw h
  have htake : ((Numeral.padded width n).toList ++ rest).take width =
      (Numeral.padded width n).toList := List.take_left' hlength
  have hdrop : ((Numeral.padded width n).toList ++ rest).drop width = rest :=
    List.drop_left' hlength
  rw [number, htake, hdrop, if_pos hlength, Numeral.readNat?_padded, Option.map_some]

theorem literal_append (expected : String) (rest : List Char) :
    literal expected (expected.toList ++ rest) = some ((), rest) := by
  rw [literal, if_pos (List.prefix_append _ _), List.drop_left]

section

variable {α β : Type}

theorem bind_of_eq {x : Reader α} {f : α → Reader β} {cs rest : List Char} {a : α}
    (h : x cs = some (a, rest)) : (x >>= f) cs = f a rest := by
  have hbind : (x >>= f) cs = (x cs).bind fun p => f p.1 p.2 := rfl
  rw [hbind, h, Option.bind_some]

theorem guard_of {p : Prop} [Decidable p] (h : p) (cs : List Char) :
    (guard p : Reader Unit) cs = some ((), cs) := by
  rw [guard, if_pos h]
  rfl

end

theorem clockReader_clockText {second : Nat} (h : second < 86400) (rest : List Char) :
    clockReader ((clockText second).toList ++ rest) = some ((second : Int), rest) := by
  have hclock : second / 3600 < 24 ∧ second / 60 % 60 < 60 ∧ second % 60 < 60 := by omega
  have hsum : second / 3600 * 3600 + second / 60 % 60 * 60 + second % 60 = second := by omega
  simp only [clockText, String.toList_append, List.append_assoc]
  rw [clockReader, bind_of_eq (number_padded (by decide) (by omega) _),
    bind_of_eq (literal_append _ _), bind_of_eq (number_padded (by decide) (by omega) _),
    bind_of_eq (literal_append _ _), bind_of_eq (number_padded (by decide) (by omega) _),
    bind_of_eq (guard_of hclock _), hsum]
  rfl

theorem daysInMonth_le (year : Int) (month : Nat) : daysInMonth year month ≤ 31 := by
  unfold daysInMonth
  repeat' split
  all_goals decide

theorem dateReader_text {d : Date} (h : d.Valid) (hlow : 0 ≤ d.year) (hhigh : d.year ≤ 9999)
    (rest : List Char) :
    dateReader ((yearText d.year).toList ++ ("-".toList ++ ((Numeral.padded 2 d.month).toList ++
      ("-".toList ++ ((Numeral.padded 2 d.day).toList ++ rest))))) = some (d, rest) := by
  have hmonth : d.month < 10 ^ 2 := lt_of_le_of_lt h.2.1 (by decide)
  have hday : d.day < 10 ^ 2 :=
    lt_of_le_of_lt (h.2.2.2.trans (daysInMonth_le d.year d.month)) (by decide)
  have hyear : yearText d.year = Numeral.padded 4 d.year.natAbs := by
    have hneg : ¬d.year < 0 := by omega
    have hbig : ¬9999 < d.year := by omega
    simp only [yearText, hneg, hbig, if_false]
  have habs : ((d.year.natAbs : Nat) : Int) = d.year := Int.natAbs_of_nonneg hlow
  rw [hyear, dateReader, bind_of_eq (number_padded (by decide) (by omega) _),
    bind_of_eq (literal_append _ _), bind_of_eq (number_padded (by decide) hmonth _),
    bind_of_eq (literal_append _ _), bind_of_eq (number_padded (by decide) hday _), habs,
    bind_of_eq (guard_of h _)]
  rfl

end Calendar

namespace Moment

open Calendar

theorem ofSeconds_parts (m : Moment) :
    ofSeconds (dayOf m * 86400 + secondOfDay m) ((m.subsecond / 1000000 : Nat) * 1000000) =
      m.truncated := by
  have hseconds : m.seconds = m.nanos / 1000000000 := Int.fdiv_eq_ediv_of_nonneg _ (by decide)
  have hday : dayOf m = m.seconds / 86400 := Int.fdiv_eq_ediv_of_nonneg _ (by decide)
  have hrest : Int.fmod m.seconds 86400 = m.seconds % 86400 :=
    Int.fmod_eq_emod_of_nonneg _ (by decide)
  have hnanos : Int.fmod m.nanos nanosPerSecond = m.nanos % 1000000000 :=
    Int.fmod_eq_emod_of_nonneg _ (by decide)
  have hsecond : dayOf m * 86400 + secondOfDay m = m.nanos / 1000000000 := by
    rw [hday, secondOfDay, hrest, hseconds]
    omega
  rw [hsecond, ofSeconds, truncated, subsecond, hnanos, nanosPerSecond]
  congr 1
  omega

theorem secondOfDay_lt (m : Moment) : secondOfDay m < 86400 := by
  have hrest : Int.fmod m.seconds 86400 = m.seconds % 86400 :=
    Int.fmod_eq_emod_of_nonneg _ (by decide)
  rw [secondOfDay, hrest]
  omega

theorem subsecond_lt (m : Moment) : m.subsecond < 1000000000 := by
  have hnanos : Int.fmod m.nanos nanosPerSecond = m.nanos % 1000000000 :=
    Int.fmod_eq_emod_of_nonneg _ (by decide)
  rw [subsecond, hnanos]
  omega

theorem toList_stamp (m : Moment) :
    m.stamp.toList = (yearText (dateOfDay (dayOf m)).year).toList ++ ("-".toList ++
      ((Numeral.padded 2 (dateOfDay (dayOf m)).month).toList ++ ("-".toList ++
      ((Numeral.padded 2 (dateOfDay (dayOf m)).day).toList ++ ("T".toList ++
      ((clockText (secondOfDay m)).toList ++ (".".toList ++
      ((Numeral.padded 3 (m.subsecond / 1000000)).toList ++ "+00:00".toList)))))))) := by
  simp only [stamp, String.toList_append, List.append_assoc]
  rfl

theorem readStamp?_stamp {m : Moment} (hlow : 0 ≤ m.year) (hhigh : m.year ≤ 9999) :
    readStamp? m.stamp = some m.truncated := by
  have hvalid := valid_dateOfDay (dayOf m)
  have hmillis : m.subsecond / 1000000 < 10 ^ 3 := by
    have hlt := m.subsecond_lt
    omega
  have hread : stampReader m.stamp.toList = some (m.truncated, []) := by
    have hend : "+00:00".toList = "+00:00".toList ++ [] := rfl
    rw [toList_stamp, hend, stampReader, bind_of_eq (dateReader_text hvalid hlow hhigh _),
      bind_of_eq (literal_append _ _), bind_of_eq (clockReader_clockText m.secondOfDay_lt _),
      bind_of_eq (literal_append _ _), bind_of_eq (number_padded (by decide) hmillis _),
      bind_of_eq (literal_append _ _), dayOfDate_dateOfDay, ofSeconds_parts]
    rfl
  rw [readStamp?, hread]

end Moment

end ResourceTrace
