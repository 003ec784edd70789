import ResourceTrace.Snapshot
import ResourceTrace.Proofs.Ledger.Age
import ResourceTrace.Proofs.Calendar.Stamp
import ResourceTrace.Proofs.Json.RoundTrip

set_option autoImplicit false

namespace ResourceTrace

namespace Json.Value

def field? (name : String) : Value → Option Value
  | .object fields => (fields.find? fun f => f.1 == name).map Prod.snd
  | _ => none

def natural? : Value → Option Nat
  | .number mantissa exponent =>
    if 0 ≤ mantissa ∧ exponent = 0 then some mantissa.toNat else none
  | _ => none

def text? : Value → Option String
  | .text s => some s
  | _ => none

def items? : Value → Option (List Value)
  | .list items => some items
  | _ => none

@[simp] theorem natural?_number (n : Nat) : natural? (.number n 0) = some n := by
  simp [natural?]

end Json.Value

namespace Snapshot

open Json (Value)

structure RecordImage where
  handle : Handle
  size : Nat
  created : Moment
  frames : List String
  deriving DecidableEq, Repr

structure Image where
  total : Nat
  count : Nat
  records : List RecordImage
  deriving DecidableEq, Repr

def readRecord? (v : Value) : Option RecordImage := do
  let handle ← ((v.field? "handle").bind Value.text?).bind Numeral.readHex?
  let size ← (v.field? "size").bind Value.natural?
  let created ← ((v.field? "created_at").bind Value.text?).bind Calendar.readStamp?
  let frames ← ((v.field? "frames").bind Value.items?).bind (List.mapM Value.text?)
  return ⟨⟨handle⟩, size, created, frames⟩

def read? (v : Value) : Option Image := do
  let total ← (v.field? "total_size").bind Value.natural?
  let count ← (v.field? "record_count").bind Value.natural?
  let records ← ((v.field? "records").bind Value.items?).bind (List.mapM readRecord?)
  return ⟨total, count, records⟩

/-- The frames as they are printed, and the time cut off after the milliseconds. -/
def imageOf {δ : Type} (r : Record δ) : RecordImage :=
  ⟨r.handle, r.size, r.created.truncated, r.stack.map Frame.text⟩

theorem mapM_map {α β γ : Type} {f : β → Option γ} {g : α → β} {k : α → γ} {l : List α}
    (h : ∀ a ∈ l, f (g a) = some (k a)) : (l.map g).mapM f = some (l.map k) := by
  induction l with
  | nil => rfl
  | cons a l ih =>
    have ha := h a List.mem_cons_self
    have hl := ih fun b hb => h b (List.mem_cons_of_mem a hb)
    rw [List.map_cons, List.mapM_cons, ha, hl]
    rfl

variable {δ : Type}

theorem value_recordJson (r : Record δ) :
    (recordJson r).value = .object
      [("handle", .text r.handle.text), ("size", .number r.size 0),
        ("created_at", .text r.created.stamp),
        ("frames", .list (r.stack.map fun f => .text f.text))] := by
  simp only [recordJson, Json.value, Json.fieldValues, Json.itemValues_eq_map, List.map_map]
  rfl

theorem value_json (l : Ledger δ) :
    (json l).value = .object
      [("total_size", .number l.total 0), ("record_count", .number l.size 0),
        ("records", .list (l.byAge.map fun r => (recordJson r).value))] := by
  simp only [json, Json.value, Json.fieldValues, Json.itemValues_eq_map, List.map_map]
  rfl

theorem readRecord?_recordJson {r : Record δ} (hlow : 0 ≤ r.created.year)
    (hhigh : r.created.year ≤ 9999) : readRecord? (recordJson r).value = some (imageOf r) := by
  have hhandle : Numeral.readHex? r.handle.text = some r.handle.address :=
    Numeral.readHex?_hex r.handle.address
  have hstamp := Moment.readStamp?_stamp hlow hhigh
  have hframes : (r.stack.map fun f => Value.text f.text).mapM Value.text? =
      some (r.stack.map Frame.text) := mapM_map fun _ _ => rfl
  rw [value_recordJson]
  simp [readRecord?, Value.field?, Value.text?, Value.items?, hhandle, hstamp, hframes, imageOf]

theorem read?_json {l : Ledger δ}
    (h : ∀ r ∈ l.byAge, 0 ≤ r.created.year ∧ r.created.year ≤ 9999) :
    read? (json l).value = some ⟨l.total, l.size, l.byAge.map imageOf⟩ := by
  have hrecords : (l.byAge.map fun r => (recordJson r).value).mapM readRecord? =
      some (l.byAge.map imageOf) :=
    mapM_map fun r hr => readRecord?_recordJson (h r hr).1 (h r hr).2
  rw [value_json]
  simp [read?, Value.field?, Value.items?, hrecords]

theorem read_body_and_text (layout : Layout) (l : Ledger δ) :
    Json.read (body layout l) = some (json l).value ∧
      Json.read (text layout l) = some (json l).value := by
  have hbreak : Json.Stops ['\n'] := Json.stops_cons (by decide) []
  have happend (cs : List Char) : String.ofList cs ++ "\n" = String.ofList (cs ++ ['\n']) := by
    rw [String.ofList_append]
  cases layout with
  | compact =>
    have hbody := Json.read_compact (json l) Json.stops_nil rfl
    have htext := Json.read_compact (json l) hbreak rfl
    rw [List.append_nil] at hbody
    rw [← happend] at htext
    exact ⟨hbody, htext⟩
  | spread =>
    have hbody := Json.read_spread (json l) Json.stops_nil rfl
    have htext := Json.read_spread (json l) hbreak rfl
    rw [List.append_nil] at hbody
    rw [← happend] at htext
    exact ⟨hbody, htext⟩

/-- The text in either layout is one JSON value and a line break, and the value is the same: that of
a snapshot from which the ledger is read. -/
theorem export_reads_back (ops : List (Ledger.Operation δ))
    (hyears : ∀ r ∈ (Ledger.run {} ops).records.values,
      0 ≤ r.created.year ∧ r.created.year ≤ 9999) :
    let l := Ledger.run {} ops
    ∃ v : Value,
      (∀ layout, text layout l = body layout l ++ "\n" ∧ Json.read (body layout l) = some v ∧
        Json.read (text layout l) = some v) ∧
      read? v = some
        { total := Ledger.sizes l.records.values
          count := l.records.values.length
          records := l.byAge.map imageOf } ∧
      l.byAge.Perm l.records.values ∧ l.byAge.Pairwise Record.Before ∧
      ∀ r, r ∈ l.byAge ↔ l.get? r.handle = some r := by
  intro l
  have hl : l.Conserved := Ledger.conserved_empty.run ops
  refine ⟨(json l).value, fun layout => ⟨rfl, read_body_and_text layout l⟩, ?_, l.byAge_perm,
    hl.byAge_before, hl.mem_byAge⟩
  have hcount : l.size = l.records.values.length := (List.length_map _).symm
  rw [read?_json fun r hr => hyears r (l.byAge_perm.mem_iff.mp hr), hl.total_eq, hcount]
  rfl

def quotingFrame : Frame := ⟨"a\"\\\n\x01é😀", some "x", some 3⟩

def lower : Record Unit := ⟨⟨0x1fff⟩, 7, ⟨-1⟩, [], ()⟩

def upper : Record Unit := ⟨⟨0x2000⟩, 570, ⟨-1⟩, [quotingFrame], ()⟩

/-- Two blocks of one moment before 1970, the one at the lower address added last. -/
theorem export_reads_back_of_two :
    let l := Ledger.run {} [.add upper, .add lower]
    (∀ r ∈ l.records.values, 0 ≤ r.created.year ∧ r.created.year ≤ 9999) ∧
      ∃ v : Value, (∀ layout, Json.read (text layout l) = some v) ∧
        read? v = some ⟨577, 2, [⟨⟨0x1fff⟩, 7, ⟨-1000000⟩, []⟩,
          ⟨⟨0x2000⟩, 570, ⟨-1000000⟩, ["a\"\\\n\x01é😀 (x:3)"]⟩]⟩ := by
  intro l
  have hvalues : l.records.values = [upper, lower] := by decide +kernel
  have hyears : ∀ r ∈ l.records.values, 0 ≤ r.created.year ∧ r.created.year ≤ 9999 := by
    rw [hvalues]
    decide +kernel
  have hage : l.byAge = [lower, upper] := by
    rw [Ledger.byAge, hvalues]
    simp [List.mergeSort, List.MergeSort.Internal.splitInTwo, Record.notAfter, lower, upper]
  obtain ⟨v, hv, hread, -⟩ := export_reads_back [.add upper, .add lower] hyears
  refine ⟨hyears, v, fun layout => (hv layout).2.2, hread.trans ?_⟩
  rw [hage, hvalues]
  decide +kernel

end Snapshot

end ResourceTrace
