import Mathlib.Data.List.Infix
import ResourceTrace.Proofs.Event.FilterKey

/-!
Two readers of filter keys. A command accepts a key that is a template with digits in place of its
placeholder, which is found out by lengths in bytes and a slice between them; an event filter takes
its number from a key whose affixes are taken off one kind after the other. They agree on every key,
and no slice ever cuts a character.
-/

set_option autoImplicit false

namespace ResourceTrace

open Numeral (IsRun)

namespace Text

def slice? (text : String) (first last : Nat) : Option String :=
  if h : String.Pos.Raw.IsValid text ⟨first⟩ ∧ String.Pos.Raw.IsValid text ⟨last⟩ ∧ first ≤ last then
    some (text.extract (text.pos ⟨first⟩ h.1) (text.pos ⟨last⟩ h.2.1))
  else none

theorem slice?_append (front middle back : String) :
    slice? (front ++ middle ++ back) front.utf8ByteSize
      ((front ++ middle ++ back).utf8ByteSize - back.utf8ByteSize) = some middle := by
  have hlast : (front ++ middle ++ back).utf8ByteSize - back.utf8ByteSize =
      (front ++ middle).utf8ByteSize := by
    rw [String.utf8ByteSize_append, Nat.add_sub_cancel]
  have hfirst : String.Pos.Raw.IsValid (front ++ middle ++ back) ⟨front.utf8ByteSize⟩ :=
    (String.Pos.Raw.isValid_rawEndPos.append_right middle).append_right back
  have hend : String.Pos.Raw.IsValid (front ++ middle ++ back) ⟨(front ++ middle).utf8ByteSize⟩ :=
    String.Pos.Raw.isValid_rawEndPos.append_right back
  have horder : front.utf8ByteSize ≤ (front ++ middle).utf8ByteSize := by
    rw [String.utf8ByteSize_append]
    exact Nat.le_add_right _ _
  rw [hlast, slice?, dif_pos ⟨hfirst, hend, horder⟩, Option.some.injEq, ← String.toByteArray_inj,
    String.toByteArray_extract, String.offset_pos, String.offset_pos, String.toByteArray_append]
  simp only [← String.size_toByteArray]
  rw [ByteArray.extract_append_size_left, String.toByteArray_append]
  exact ByteArray.extract_append_eq_right rfl ByteArray.size_append

theorem exists_between {text front back : String}
    (hlong : front.utf8ByteSize + back.utf8ByteSize < text.utf8ByteSize)
    (hfront : front.toList <+: text.toList) (hback : back.toList <:+ text.toList) :
    ∃ middle, middle ≠ "" ∧ text = front ++ middle ++ back := by
  obtain ⟨after, hafter⟩ := hfront
  obtain ⟨before, hbefore⟩ := hback
  rcases List.append_eq_append_iff.mp (hafter.trans hbefore.symm) with
    ⟨middle, -, rfl⟩ | ⟨common, hcommon, -⟩
  · have htext : text = front ++ String.ofList middle ++ back := by
      rw [← String.toList_inj, ← hafter]
      simp
    refine ⟨String.ofList middle, ?_, htext⟩
    rintro hempty
    rw [htext, hempty] at hlong
    simp at hlong
  · -- The front and the back overlap, so that the text is no longer than the two.
    have htext : text = String.ofList before ++ back := by
      rw [← String.toList_inj, ← hbefore]
      simp
    have hoverlap : front = String.ofList before ++ String.ofList common := by
      rw [← String.toList_inj, hcommon]
      simp
    rw [htext, hoverlap] at hlong
    simp only [String.utf8ByteSize_append] at hlong
    omega

end Text

namespace Command

/-- The key is the template with the digits in place of its first placeholder. -/
def Fills (digits template key : List Char) : Prop :=
  ∃ front back, Text.FirstAt placeholder template front back ∧ key = front ++ digits ++ back

theorem matchesTemplate_iff_fills (template key : List Char) :
    matchesTemplate template key = true ↔ ∃ digits, IsRun digits ∧ Fills digits template key := by
  constructor
  · intro h
    cases hsplit : Text.splitAtWord placeholder template with
    | none => simp [matchesTemplate, hsplit] at h
    | some parts =>
      obtain ⟨front, back⟩ := parts
      obtain ⟨digits, hrun, hkey⟩ := (matchesTemplate_iff hsplit).mp h
      exact ⟨digits, hrun, front, back, Text.splitAtWord_eq_some_iff.mp hsplit, hkey⟩
  · rintro ⟨digits, hrun, front, back, hfirst, hkey⟩
    exact (matchesTemplate_iff (Text.splitAtWord_eq_some_iff.mpr hfirst)).mpr ⟨digits, hrun, hkey⟩

/-- Whether the key goes beyond what stands around the placeholder, and has only digits there. There
is no answer where the slice between the two would cut a character. -/
def matchesSlice? (template key : String) : Option Bool :=
  match Text.splitAtWord placeholder template.toList with
  | none => some false
  | some (front, back) =>
    let front := String.ofList front
    let back := String.ofList back
    if front.utf8ByteSize + back.utf8ByteSize < key.utf8ByteSize ∧ key.startsWith front = true ∧
        key.endsWith back = true then
      (Text.slice? key front.utf8ByteSize (key.utf8ByteSize - back.utf8ByteSize)).map
        fun index => index.toList.all Char.isDigit
    else some false

theorem endsWith_iff (key back : String) : key.endsWith back = true ↔ back.toList <:+ key.toList := by
  have h : key.toSlice.endsWith back = true ↔ back.toList <:+ key.toSlice.copy.toList :=
    String.Slice.endsWith_string_iff
  simpa using h

theorem matchesSlice?_eq (template key : String) :
    matchesSlice? template key = some (matchesTemplate template.toList key.toList) := by
  rw [matchesSlice?]
  cases hsplit : Text.splitAtWord placeholder template.toList with
  | none => simp [matchesTemplate, hsplit]
  | some parts =>
    obtain ⟨front, back⟩ := parts
    have hmatch : matchesTemplate template.toList key.toList = true ↔
        ∃ digits, IsRun digits ∧ key.toList = front ++ digits ++ back := matchesTemplate_iff hsplit
    simp only [String.startsWith_string_iff, endsWith_iff]
    split
    · next hkey =>
      -- Front and back do not overlap in the key, so that the slice cuts no character.
      obtain ⟨middle, hne, rfl⟩ := Text.exists_between hkey.1 hkey.2.1 hkey.2.2
      rw [Text.slice?_append, Option.map_some, Option.some.injEq, Bool.eq_iff_iff, hmatch]
      have hmiddle : middle.toList ≠ [] := by simpa using hne
      constructor
      · exact fun h => ⟨middle.toList, ⟨hmiddle, List.all_eq_true.mp h⟩, by simp⟩
      · rintro ⟨digits, hrun, hdigits⟩
        have hsame : middle.toList = digits := by simpa using hdigits
        rw [hsame]
        exact List.all_eq_true.mpr hrun.isDigit
    · next hkey =>
      rw [Option.some.injEq, eq_comm, Bool.eq_false_iff, ne_eq, hmatch]
      rintro ⟨digits, hrun, hdigits⟩
      have htext : key = String.ofList front ++ String.ofList digits ++ String.ofList back := by
        rw [← String.toList_inj, hdigits]
        simp
      refine hkey ⟨?_, ?_, ?_⟩
      · have hsize : 0 < (String.ofList digits).utf8ByteSize := by
          rw [Nat.pos_iff_ne_zero, ne_eq, String.utf8ByteSize_eq_zero_iff]
          simpa using hrun.ne_nil
        rw [htext, String.utf8ByteSize_append, String.utf8ByteSize_append]
        omega
      · rw [hdigits, String.toList_ofList, List.append_assoc]
        exact List.prefix_append _ _
      · rw [hdigits, String.toList_ofList]
        exact List.suffix_append _ _

end Command

namespace FilterKind

def numberedLast : List FilterKind := [maxLong, minLong, maxDouble, minDouble, equals]

def numberedWithin : List FilterKind := [startsWith, endsWith, contains, matchesRegexp]

def takeOff? (off : FilterKind → Option (List Char)) (kinds : List FilterKind) :
    Option (FilterKind × List Char) :=
  kinds.findSome? fun k => (off k).map fun rest => (k, rest)

/-- The number and the kind of a key. The first front that fits decides, and behind the common front
of the other kinds the first back that fits, even if what is left is no number. -/
def ofKeyInTurn? (key : String) : Option (Nat × FilterKind) :=
  match takeOff? (fun k => Text.dropFront? k.front.toList key.toList) numberedLast with
  | some (k, digits) => (Numeral.readUnsigned? Numeral.maxUnsigned64 digits).map fun n => (n, k)
  | none => do
    let rest ← Text.dropFront? "value".toList key.toList
    let (k, digits) ← takeOff? (fun k => Text.dropBack? k.back.toList rest) numberedWithin
    (Numeral.readUnsigned? Numeral.maxUnsigned64 digits).map fun n => (n, k)

theorem numberedLast_or_within (k : FilterKind) : k ∈ numberedLast ∨ k ∈ numberedWithin := by
  cases k <;> decide

theorem back_of_numberedLast {k : FilterKind} (h : k ∈ numberedLast) : k.back = "" := by
  revert k
  decide

theorem front_of_numberedWithin {k : FilterKind} (h : k ∈ numberedWithin) : k.front = "value" := by
  revert k
  decide

/-- No front of a kind whose number comes last starts with another front, or is the start of one. -/
theorem eq_of_fronts {j k : FilterKind} {text : List Char} (hlast : j ∈ numberedLast)
    (hj : j.front.toList <+: text) (hk : k.front.toList <+: text) : k = j := by
  have hall : ∀ j ∈ numberedLast, ∀ k ∈ all,
      j.front.toList <+: k.front.toList ∨ k.front.toList <+: j.front.toList → k = j := by decide
  exact hall j hlast k k.mem_all (List.prefix_or_prefix_of_prefix hj hk)

theorem eq_of_backs {j k : FilterKind} {text : List Char} (hjw : j ∈ numberedWithin)
    (hkw : k ∈ numberedWithin) (hj : j.back.toList <:+ text) (hk : k.back.toList <:+ text) :
    k = j := by
  have hall : ∀ j ∈ numberedWithin, ∀ k ∈ numberedWithin,
      j.back.toList <:+ k.back.toList ∨ k.back.toList <:+ j.back.toList → k = j := by decide
  exact hall j hjw k hkw (List.suffix_or_suffix_of_suffix hj hk)

theorem takeOff?_eq_some {off : FilterKind → Option (List Char)} {kinds : List FilterKind}
    {k : FilterKind} {rest : List Char} (h : takeOff? off kinds = some (k, rest)) :
    k ∈ kinds ∧ off k = some rest := by
  obtain ⟨j, hj, hoff⟩ := List.exists_of_findSome?_eq_some h
  obtain ⟨left, hleft, heq⟩ := Option.map_eq_some_iff.mp hoff
  cases heq
  exact ⟨hj, hleft⟩

theorem takeOff?_eq_none_iff {off : FilterKind → Option (List Char)} {kinds : List FilterKind} :
    takeOff? off kinds = none ↔ ∀ k ∈ kinds, off k = none := by
  simp [takeOff?]

section

variable {j k : FilterKind} {key : String} {rest digits : List Char}

theorem number?_of_front (h : Text.dropFront? k.front.toList key.toList = none) :
    k.number? key.toList = none := by
  simp [number?, h]

theorem number?_of_rest (h : Text.dropFront? k.front.toList key.toList = some rest) :
    k.number? key.toList =
      (Text.dropBack? k.back.toList rest).bind (Numeral.readUnsigned? Numeral.maxUnsigned64) := by
  simp [number?, h]

theorem ofKey?_eq_none (h : ∀ k : FilterKind, k.number? key.toList = none) : ofKey? key = none := by
  refine Option.eq_none_iff_forall_ne_some.mpr fun found hfound => ?_
  obtain ⟨n, k⟩ := found
  rw [ofKey?_eq_some_iff, h k] at hfound
  cases hfound

theorem ofKey?_eq_of_only (h : ∀ k : FilterKind, k ≠ j → k.number? key.toList = none) :
    ofKey? key = (j.number? key.toList).map fun n => (n, j) := by
  ext ⟨n, k⟩
  rw [ofKey?_eq_some_iff, Option.map_eq_some_iff]
  constructor
  · intro hk
    by_cases hkj : k = j
    · exact ⟨n, hkj ▸ hk, by rw [hkj]⟩
    · rw [h k hkj] at hk
      cases hk
  · rintro ⟨m, hm, heq⟩
    cases heq
    exact hm

theorem ofKey?_of_front (hlast : j ∈ numberedLast)
    (h : Text.dropFront? j.front.toList key.toList = some digits) :
    ofKey? key =
      (Numeral.readUnsigned? Numeral.maxUnsigned64 digits).map fun n => (n, j) := by
  have hdigits : Text.dropBack? j.back.toList digits = some digits := by
    rw [back_of_numberedLast hlast, Text.dropBack?_eq_some_iff]
    simp
  rw [ofKey?_eq_of_only (j := j) fun k hk => ?_, number?_of_rest h, hdigits, Option.bind_some]
  cases hfront : Text.dropFront? k.front.toList key.toList with
  | none => exact number?_of_front hfront
  | some rest =>
    rw [Text.dropFront?_eq_some_iff] at h hfront
    exact absurd (eq_of_fronts hlast ⟨digits, h.symm⟩ ⟨rest, hfront.symm⟩) hk

theorem ofKey?_of_back
    (hlast : ∀ k ∈ numberedLast, Text.dropFront? k.front.toList key.toList = none)
    (hrest : Text.dropFront? "value".toList key.toList = some rest) (hwithin : j ∈ numberedWithin)
    (h : Text.dropBack? j.back.toList rest = some digits) :
    ofKey? key =
      (Numeral.readUnsigned? Numeral.maxUnsigned64 digits).map fun n => (n, j) := by
  have hfront {k : FilterKind} (hk : k ∈ numberedWithin) :
      Text.dropFront? k.front.toList key.toList = some rest := by
    rw [front_of_numberedWithin hk, hrest]
  rw [ofKey?_eq_of_only (j := j) fun k hk => ?_, number?_of_rest (hfront hwithin), h,
    Option.bind_some]
  rcases k.numberedLast_or_within with hkl | hkw
  · exact number?_of_front (hlast k hkl)
  · rw [number?_of_rest (hfront hkw)]
    cases hback : Text.dropBack? k.back.toList rest with
    | none => rfl
    | some other =>
      rw [Text.dropBack?_eq_some_iff] at h hback
      exact absurd (eq_of_backs hwithin hkw ⟨digits, h.symm⟩ ⟨other, hback.symm⟩) hk

end

theorem ofKeyInTurn?_eq (key : String) : ofKeyInTurn? key = ofKey? key := by
  rw [ofKeyInTurn?]
  split
  · next j digits hfound =>
    obtain ⟨hj, hdigits⟩ := takeOff?_eq_some hfound
    exact (ofKey?_of_front hj hdigits).symm
  · next hlast =>
    -- Only the kinds with a common front are left, and their backs tell them apart.
    rw [takeOff?_eq_none_iff] at hlast
    cases hrest : Text.dropFront? "value".toList key.toList with
    | none =>
      refine (ofKey?_eq_none fun k => number?_of_front ?_).symm
      rcases k.numberedLast_or_within with hk | hk
      · exact hlast k hk
      · rw [front_of_numberedWithin hk, hrest]
    | some rest =>
      cases hback : takeOff? (fun k => Text.dropBack? k.back.toList rest) numberedWithin with
      | none =>
        simp only [Option.bind_eq_bind, Option.bind_some, hback, Option.bind_none]
        rw [takeOff?_eq_none_iff] at hback
        refine (ofKey?_eq_none fun k => ?_).symm
        rcases k.numberedLast_or_within with hk | hk
        · exact number?_of_front (hlast k hk)
        · have hfront : Text.dropFront? k.front.toList key.toList = some rest := by
            rw [front_of_numberedWithin hk, hrest]
          rw [number?_of_rest hfront, hback k hk, Option.bind_none]
      | some found =>
        obtain ⟨j, digits⟩ := found
        simp only [Option.bind_eq_bind, Option.bind_some, hback]
        obtain ⟨hj, hdigits⟩ := takeOff?_eq_some hback
        exact (ofKey?_of_back hlast hrest hj hdigits).symm

theorem fills_template_iff (k : FilterKind) (digits : List Char) (key : String) :
    Command.Fills digits k.template.toList key.toList ↔
      key.toList = k.front.toList ++ digits ++ k.back.toList := by
  have hsplit := k.splitAtWord_template
  constructor
  · rintro ⟨front, back, hfirst, hkey⟩
    rw [← Text.splitAtWord_eq_some_iff, hsplit] at hfirst
    cases hfirst
    exact hkey
  · exact fun hkey => ⟨_, _, Text.splitAtWord_eq_some_iff.mp hsplit, hkey⟩

/-- For every key: it is read as a number and a kind if it matches the declared template of the kind
and the digits in place of the placeholder are the number, which fits in 64 bits; otherwise it names
no filter. Reading it part by part comes to the same. No two declared templates match it; and it
matches a template, declared or not, if it is the template with a run of digits in place of the
first placeholder. Finding this out by lengths in bytes always has an answer, the same one. -/
theorem keys_read_as_templates (key : String) :
    (∀ n k, ofKey? key = some (n, k) ↔
      k.template ∈ templates ∧ Command.matchesTemplate k.template.toList key.toList = true ∧
        ∃ digits, Command.Fills digits k.template.toList key.toList ∧ IsRun digits ∧
          Numeral.value digits = n ∧ n ≤ Numeral.maxUnsigned64) ∧
      ofKeyInTurn? key = ofKey? key ∧
      (∀ s ∈ templates, ∀ t ∈ templates, Command.matchesTemplate s.toList key.toList = true →
        Command.matchesTemplate t.toList key.toList = true → s = t) ∧
      ∀ template : String,
        (Command.matchesTemplate template.toList key.toList = true ↔
          ∃ digits, IsRun digits ∧ Command.Fills digits template.toList key.toList) ∧
        Command.matchesSlice? template key =
          some (Command.matchesTemplate template.toList key.toList) := by
  refine ⟨fun n k => ?_, ofKeyInTurn?_eq key, ?_, fun template => ?_⟩
  · rw [ofKey?_eq_some_iff, number?_eq_some_iff, matchesTemplate_iff]
    simp only [fills_template_iff]
    constructor
    · rintro ⟨digits, hspells, hn⟩
      exact ⟨(mem_templates_iff _).mpr ⟨k, rfl⟩, ⟨digits, hspells⟩, digits, hspells.key_eq,
        hspells.run, hn⟩
    · rintro ⟨-, -, digits, hkey, hrun, hn⟩
      exact ⟨digits, ⟨hrun, hkey⟩, hn⟩
  · intro s hs t ht hmatch hmatch'
    obtain ⟨j, rfl⟩ := (mem_templates_iff s).mp hs
    obtain ⟨k, rfl⟩ := (mem_templates_iff t).mp ht
    obtain ⟨digits, hj⟩ := (j.matchesTemplate_iff key).mp hmatch
    obtain ⟨digits', hk⟩ := (k.matchesTemplate_iff key).mp hmatch'
    rw [(hj.unique hk).1]
  · exact ⟨Command.matchesTemplate_iff_fills _ _, Command.matchesSlice?_eq template key⟩

end FilterKind

end ResourceTrace
