import ResourceTrace.Snapshot

/-!
Snapshots for writers that fail. Wherever the pieces of a text are cut, a writer takes of them what
it would take of the whole text. So a failing writer keeps a prefix of the snapshot, and the length
of this prefix alone decides which error is reported.
-/

set_option autoImplicit false

namespace ResourceTrace

namespace Text

theorem toList_loop (bytes : ByteArray) (i : Nat) (done : List UInt8) :
    ByteArray.toList.loop bytes i done = done.reverse ++ bytes.data.toList.drop i := by
  fun_induction ByteArray.toList.loop bytes i done with
  | case1 i done h ih =>
    have hi : i < bytes.data.toList.length := by simpa using h
    have hget : bytes.get! i = bytes.data.toList[i] := by
      have hsize : i < bytes.data.size := by simpa using hi
      rw [ByteArray.get!, getElem!_pos bytes.data i hsize, Array.getElem_toList]
    rw [ih, hget, List.drop_eq_getElem_cons hi]
    simp
  | case2 i done h =>
    have hi : bytes.data.toList.length ≤ i := by simpa using h
    simp [List.drop_eq_nil_of_le hi]

theorem toUTF8_toList (s : String) : s.toUTF8.toList = s.toList.flatMap String.utf8EncodeChar := by
  have hdata : s.toUTF8.data.toList = s.toList.flatMap String.utf8EncodeChar := by
    rw [String.toUTF8, ← String.utf8Encode_toList, List.utf8Encode, List.toList_data_toByteArray]
  rw [ByteArray.toList, toList_loop, ← hdata]
  simp

theorem length_toUTF8_toList (s : String) : s.toUTF8.toList.length = s.utf8ByteSize := by
  rw [ByteArray.toList, toList_loop]
  simp

theorem toUTF8_append (a b : String) :
    (a ++ b).toUTF8.toList = a.toUTF8.toList ++ b.toUTF8.toList := by
  simp only [toUTF8_toList, String.toList_append, List.flatMap_append]

end Text

namespace Json

namespace Formatter

@[simp] theorem compact_first (level : Nat) : compact.first level = [] := rfl

@[simp] theorem compact_next (level : Nat) : compact.next level = [[',']] := rfl

@[simp] theorem compact_colon : compact.colon = [':'] := rfl

@[simp] theorem compact_last (level : Nat) : compact.last level = [] := rfl

@[simp] theorem spread_first (level : Nat) : spread.first level = ['\n'] :: indent level := rfl

@[simp] theorem spread_next (level : Nat) : spread.next level = [',', '\n'] :: indent level := rfl

@[simp] theorem spread_colon : spread.colon = [':', ' '] := rfl

@[simp] theorem spread_last (level : Nat) : spread.last level = ['\n'] :: indent level := rfl

end Formatter

theorem flatten_quotePieces (s : String) : (quotePieces s).flatten = quote s := by
  simp [quotePieces, quote, List.flatMap]

theorem flatten_indent (level : Nat) : (indent level).flatten = List.replicate (2 * level) ' ' := by
  rw [indent, Nat.mul_comm, ← List.flatten_replicate_replicate]
  rfl

mutual

theorem flatten_compact : ∀ (level : Nat) (j : Json), (j.pieces .compact level).flatten = j.compact
  | _, num n => by simp [pieces, compact]
  | _, str s => flatten_quotePieces s
  | _, arr [] => rfl
  | level, arr (item :: items) => by
    simp [pieces, compact, compactItems_eq (level + 1), flatten_compact (level + 1) item]
  | _, obj [] => rfl
  | level, obj ((key, value) :: fields) => by
    simp [pieces, compact, compactFields_eq (level + 1), flatten_quotePieces,
      flatten_compact (level + 1) value]

theorem compactItems_eq : ∀ (level : Nat) (item : Json) (items : List Json),
    compactItems (item :: items) = compact item ++ (nextItems .compact level items).flatten
  | _, item, [] => by simp [compactItems, nextItems]
  | level, item, next :: items => by
    simp [compactItems, nextItems, compactItems_eq level next items, flatten_compact level next]

theorem compactFields_eq : ∀ (level : Nat) (key : String) (value : Json)
    (fields : List (String × Json)), compactFields ((key, value) :: fields) =
      quote key ++ ':' :: (compact value ++ (nextFields .compact level fields).flatten)
  | _, _, _, [] => by simp [compactFields, nextFields]
  | level, _, _, (key, value) :: fields => by
    simp [compactFields, nextFields, compactFields_eq level key value fields, flatten_quotePieces,
      flatten_compact level value]

end

mutual

theorem flatten_spread : ∀ (level : Nat) (j : Json),
    (j.pieces .spread level).flatten = j.spread level
  | _, num n => by simp [pieces, spread]
  | _, str s => by simp [pieces, spread, flatten_quotePieces]
  | _, arr [] => rfl
  | level, arr (item :: items) => by
    simp [pieces, spread, newline, flatten_indent, spreadItems_eq (level + 1),
      flatten_spread (level + 1) item]
  | _, obj [] => rfl
  | level, obj ((key, value) :: fields) => by
    simp [pieces, spread, newline, flatten_indent, spreadFields_eq (level + 1),
      flatten_quotePieces, flatten_spread (level + 1) value]

theorem spreadItems_eq : ∀ (level : Nat) (item : Json) (items : List Json),
    spreadItems level (item :: items) =
      newline level ++ (spread level item ++ (nextItems .spread level items).flatten)
  | _, item, [] => by simp [spreadItems, nextItems]
  | level, item, next :: items => by
    simp [spreadItems, nextItems, newline, flatten_indent, spreadItems_eq level next items,
      flatten_spread level next]

theorem spreadFields_eq : ∀ (level : Nat) (key : String) (value : Json)
    (fields : List (String × Json)), spreadFields level ((key, value) :: fields) =
      newline level ++ (quote key ++ ':' :: ' ' ::
        (spread level value ++ (nextFields .spread level fields).flatten))
  | _, _, _, [] => by simp [spreadFields, nextFields]
  | level, _, _, (key, value) :: fields => by
    simp [spreadFields, nextFields, newline, flatten_indent,
      spreadFields_eq level key value fields, flatten_quotePieces, flatten_spread level value]

end

end Json

namespace Snapshot

namespace Channel

theorem send_append (c : Channel) (a b : List Char) :
    c.send (a ++ b) = match c.send a with
      | (true, c) => c.send b
      | (false, c) => (false, c) := by
  obtain ⟨taken, room⟩ := c
  generalize ha : (String.ofList a).toUTF8.toList = front
  generalize hb : (String.ofList b).toUTF8.toList = back
  cases room with
  | none => simp only [send, String.ofList_append, Text.toUTF8_append, ha, hb, List.append_assoc]
  | some room =>
    simp only [send, String.ofList_append, Text.toUTF8_append, ha, hb, List.length_append,
      List.take_append]
    by_cases hroom : front.length ≤ room
    · have htake : front.take room = front := List.take_of_length_le hroom
      have hall : front.length + back.length ≤ room ↔ back.length ≤ room - front.length := by omega
      simp [hroom, htake, hall, Nat.sub_sub]
    · have hnone : room - front.length = 0 := by omega
      have hless : ¬front.length + back.length ≤ room := by omega
      have hzero : room - (front.length + back.length) = 0 := by omega
      simp [hroom, hnone, hless, hzero]

theorem send_nil (c : Channel) : c.send [] = (true, c) := by
  obtain ⟨taken, room⟩ := c
  cases room <;> simp [send]

/-- Of a text in pieces the writer takes what it would take of the whole. -/
theorem sendAll_eq (c : Channel) (pieces : List (List Char)) :
    c.sendAll pieces = c.send pieces.flatten := by
  induction pieces generalizing c with
  | nil => exact (c.send_nil).symm
  | cons piece pieces ih =>
    rw [List.flatten_cons, send_append, sendAll]
    obtain ⟨whole, rest⟩ := c.send piece
    cases whole with
    | true => exact ih rest
    | false => rfl

end Channel

theorem flatten_pieces {δ : Type} (layout : Layout) (l : Ledger δ) :
    String.ofList (pieces layout l).flatten = body layout l := by
  cases layout with
  | compact => rw [pieces, body, Json.flatten_compact]
  | spread => rw [pieces, body, Json.flatten_spread]

theorem send_pieces {δ : Type} (c : Channel) (layout : Layout) (l : Ledger δ) :
    c.sendAll (pieces layout l) = c.send (body layout l).toList := by
  rw [Channel.sendAll_eq, ← flatten_pieces, String.toList_ofList]

theorem toUTF8_newline : (String.ofList ['\n']).toUTF8.toList = [10] := by
  rw [Text.toUTF8_toList]
  decide

section Write

variable {δ : Type} (layout : Layout) (l : Ledger δ) (flushes : Bool) (reasons : Reasons)

theorem write_of_lt {k : Nat} (hk : k < (body layout l).utf8ByteSize) :
    write layout l ⟨some k, flushes⟩ reasons =
      ((body layout l).toUTF8.toList.take k, .error (.json reasons.full)) := by
  have hless : ¬(body layout l).toUTF8.toList.length ≤ k := by
    rw [Text.length_toUTF8_toList]
    exact Nat.not_le_of_lt hk
  rw [write, send_pieces]
  simp only [Channel.send, String.ofList_toList, hless, decide_false, List.nil_append]

theorem write_of_room (room : Nat) :
    write layout l ⟨some ((body layout l).utf8ByteSize + room), flushes⟩ reasons =
      ((body layout l).toUTF8.toList ++ [10].take room,
        if room = 0 then .error (.io reasons.full)
        else if flushes then .ok () else .error (.io reasons.unflushed)) := by
  rw [write, send_pieces, ← Text.length_toUTF8_toList]
  simp only [Channel.send, String.ofList_toList, toUTF8_newline, List.nil_append, Nat.le_add_right,
    decide_true, Nat.add_sub_cancel_left, List.take_of_length_le (Nat.le_add_right _ room)]
  cases room with
  | zero => rfl
  | succ room => simp

theorem write_of_unlimited : write layout l ⟨none, flushes⟩ reasons =
    ((body layout l).toUTF8.toList ++ [10],
      if flushes then .ok () else .error (.io reasons.unflushed)) := by
  rw [write, send_pieces]
  simp only [Channel.send, String.ofList_toList, toUTF8_newline, List.nil_append]

end Write

/-- Of a snapshot whose text has `n` bytes a writer with room for `k` bytes takes the first `k`, or
all of them and the line break. A writer that stops within the text is told from one that stops at
the line break and from one that fails in the end. -/
theorem write_leaves_prefix {δ : Type} (layout : Layout) (l : Ledger δ) (reasons : Reasons) :
    let n := (body layout l).utf8ByteSize
    let bytes := (body layout l ++ "\n").toUTF8.toList
    bytes.length = n + 1 ∧
      (∀ k flushes, write layout l ⟨some k, flushes⟩ reasons =
        (bytes.take (min k (n + 1)),
          if k < n then .error (.json reasons.full)
          else if k = n then .error (.io reasons.full)
          else if flushes then .ok () else .error (.io reasons.unflushed))) ∧
      ∀ flushes, write layout l ⟨none, flushes⟩ reasons =
        (bytes, if flushes then .ok () else .error (.io reasons.unflushed)) := by
  intro n bytes
  have hn : (body layout l).toUTF8.toList.length = n := Text.length_toUTF8_toList _
  have hbytes : bytes = (body layout l).toUTF8.toList ++ [10] := by
    rw [← toUTF8_newline]
    exact Text.toUTF8_append (body layout l) "\n"
  refine ⟨by rw [hbytes, List.length_append, hn, List.length_singleton], fun k flushes => ?_,
    fun flushes => ?_⟩
  · rw [hbytes]
    rcases Nat.lt_or_ge k n with hk | hk
    · have hmin : min k (n + 1) = k := by omega
      rw [write_of_lt layout l flushes reasons hk, hmin, if_pos hk,
        List.take_append_of_le_length (Nat.le_of_lt (hn ▸ hk))]
    · obtain ⟨room, rfl⟩ := Nat.exists_eq_add_of_le hk
      have hmin : min (n + room) (n + 1) = n + min room 1 := by omega
      have htake : [(10 : UInt8)].take room = [10].take (min room 1) := by
        cases room <;> simp
      rw [write_of_room, hmin, if_neg (Nat.not_lt_of_le hk), htake, ← hn,
        List.take_length_add_append]
      simp
  · rw [hbytes, write_of_unlimited]

end Snapshot

end ResourceTrace
