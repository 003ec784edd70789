import ResourceTrace.Json
import ResourceTrace.Proofs.Json.Reader

set_option autoImplicit false

namespace ResourceTrace.Json

mutual

def tokens : Json → List Token
  | num n => [.scalar (.number n 0)]
  | str s => [.text s]
  | arr items => .openList :: (itemTokens items ++ [.closeList])
  | obj fields => .openObject :: (fieldTokens fields ++ [.closeObject])

def itemTokens : List Json → List Token
  | [] => []
  | [item] => tokens item
  | item :: items => tokens item ++ .comma :: itemTokens items

def fieldTokens : List (String × Json) → List Token
  | [] => []
  | [(key, value)] => .text key :: .colon :: tokens value
  | (key, value) :: fields => .text key :: .colon :: (tokens value ++ .comma :: fieldTokens fields)

end

mutual

def value : Json → Value
  | num n => .number n 0
  | str s => .text s
  | arr items => .list (itemValues items)
  | obj fields => .object (fieldValues fields)

def itemValues : List Json → List Value
  | [] => []
  | item :: items => value item :: itemValues items

def fieldValues : List (String × Json) → List (String × Value)
  | [] => []
  | (key, item) :: fields => (key, value item) :: fieldValues fields

end

theorem itemValues_eq_map (items : List Json) : itemValues items = items.map value := by
  induction items with
  | nil => rfl
  | cons item items ih => rw [itemValues, ih, List.map_cons]

theorem lex_of_silent {m m' : Mode} {c : Char} (h : m.step c = some ([], m')) (cs : List Char) :
    m.lex (c :: cs) = m'.lex cs := by
  rw [Mode.lex, h, Option.bind_some]
  exact Option.map_id_fun' ▸ rfl

def Stops (rest : List Char) : Prop :=
  ∀ c ∈ rest.head?, c.isDigit = false ∧ c ≠ '.' ∧ c ≠ 'e' ∧ c ≠ 'E'

theorem stops_nil : Stops [] := fun _ hc => absurd hc (Option.not_mem_none _)

theorem stops_cons {c : Char} (h : c.isDigit = false ∧ c ≠ '.' ∧ c ≠ 'e' ∧ c ≠ 'E')
    (rest : List Char) : Stops (c :: rest) := by
  intro d hd
  rw [List.head?_cons, Option.mem_some_iff] at hd
  exact hd ▸ h

theorem step_eq_none {n : Number} (hn : n.part = .zero ∨ n.part = .whole) {c : Char}
    (h : c.isDigit = false ∧ c ≠ '.' ∧ c ≠ 'e' ∧ c ≠ 'E') : n.step c = none := by
  obtain ⟨hdigit, hpoint, hlower, hupper⟩ := h
  rcases hn with hn | hn <;> simp [Number.step, Number.step.ifMark, hn, hdigit, hpoint, hlower, hupper]

theorem lex_number_of_stops {n : Number} (hn : n.part = .zero ∨ n.part = .whole) {v : Value}
    (hv : n.value? = some v) {rest : List Char} (h : Stops rest) :
    (Mode.number n).lex rest = (Mode.blank.lex rest).map ([.scalar v] ++ ·) := by
  cases rest with
  | nil => simp [Mode.lex, Mode.finish, hv]
  | cons c cs =>
    have hc := step_eq_none hn (h c rfl)
    simp only [Mode.lex, Mode.step, hc, hv, Option.bind_some]
    cases Mode.start c with
    | none => rfl
    | some p => simp [Function.comp_def]

theorem lex_digits (k : Nat) {ds : List Char} (hds : ∀ c ∈ ds, c.isDigit = true)
    (rest : List Char) :
    (Mode.number { part := .whole, digits := k }).lex (ds ++ rest) =
      (Mode.number { part := .whole, digits := Nat.ofDigitChars 10 ds k }).lex rest := by
  induction ds generalizing k with
  | nil => rw [Nat.ofDigitChars_nil, List.nil_append]
  | cons c ds ih =>
    have hc : c.isDigit = true := hds c List.mem_cons_self
    have hstep : Number.step { part := .whole, digits := k } c =
        some { part := .whole, digits := 10 * k + Numeral.digit c } := by
      simp only [Number.step, hc, if_true, Number.push]
    have hmode : (Mode.number { part := .whole, digits := k }).step c =
        some ([], .number { part := .whole, digits := 10 * k + Numeral.digit c }) := by
      rw [Mode.step, hstep]
    have hrest : ∀ d ∈ ds, d.isDigit = true := fun d hd => hds d (List.mem_cons_of_mem c hd)
    rw [List.cons_append, lex_of_silent hmode, ih _ hrest, Nat.ofDigitChars_cons]
    rfl

theorem exists_toDigits {n : Nat} (h : 0 < n) :
    ∃ c cs, Nat.toDigits 10 n = c :: cs ∧ c ≠ '0' := by
  induction n using Nat.strongRecOn with
  | ind n ih =>
    by_cases hlt : n < 10
    · refine ⟨Nat.digitChar n, [], Nat.toDigits_of_lt_base hlt, ?_⟩
      rw [Ne, Nat.digitChar_eq_zero]
      omega
    · obtain ⟨c, cs, hdigits, hc⟩ := ih (n / 10) (by omega) (by omega)
      rw [Nat.toDigits_of_base_le (by decide) (by omega), hdigits]
      exact ⟨c, _, rfl, hc⟩

theorem start_of_isDigit {c : Char} (h : c.isDigit = true) :
    Mode.start c = (Number.step {} c).map fun n => ([], .number n) := by
  unfold Mode.start
  split <;> first | rfl | exact absurd h (by decide)

theorem lex_toDigits (n : Nat) {rest : List Char} (h : Stops rest) :
    Mode.blank.lex (Nat.toDigits 10 n ++ rest) =
      (Mode.blank.lex rest).map ([.scalar (.number n 0)] ++ ·) := by
  have hdigits : ∀ c ∈ Nat.toDigits 10 n, c.isDigit = true :=
    fun c hc => Nat.isDigit_of_mem_toDigits (by decide) (by decide) hc
  have hvalue : Nat.ofDigitChars 10 (Nat.toDigits 10 n) 0 = n := Nat.ofDigitChars_ten_toDigits
  rcases Nat.eq_zero_or_pos n with rfl | hpos
  · have hstep : Mode.blank.step '0' = some ([], .number { part := .zero }) := rfl
    have hzero : Number.value? { part := .zero } = some (.number 0 0) := rfl
    rw [Nat.toDigits_zero, List.singleton_append, lex_of_silent hstep,
      lex_number_of_stops (.inl rfl) hzero h]
    rfl
  · obtain ⟨c, cs, hcons, hc⟩ := exists_toDigits hpos
    rw [hcons] at hdigits hvalue ⊢
    have hcd : c.isDigit = true := hdigits c List.mem_cons_self
    have hcs : ∀ d ∈ cs, d.isDigit = true := fun d hd => hdigits d (List.mem_cons_of_mem c hd)
    have hstep : Mode.blank.step c =
        some ([], .number { part := .whole, digits := Numeral.digit c }) := by
      rw [Mode.step, start_of_isDigit hcd]
      simp [Number.step, hc, hcd, Number.push]
    have hrest : Nat.ofDigitChars 10 cs (Numeral.digit c) = n := by
      rw [Nat.ofDigitChars_cons] at hvalue
      simpa [Numeral.digit] using hvalue
    have hnumber : Number.value? { part := .whole, digits := n } = some (.number n 0) := rfl
    rw [List.cons_append, lex_of_silent hstep, lex_digits _ hcs, hrest,
      lex_number_of_stops (.inr rfl) hnumber h]

theorem lex_text {done ds : List Char} {e e' : Escape} {c : Char} (h : e.step c = some (ds, e'))
    (hquote : e = .none → c ≠ '"') (rest : List Char) :
    (Mode.text done e).lex (c :: rest) = (Mode.text (done ++ ds) e').lex rest := by
  refine lex_of_silent ?_ rest
  have hopen : ¬(e = .none ∧ c = '"') := fun hc => hquote hc.1 hc.2
  rw [Mode.step, if_neg hopen, h, Option.map_some]

theorem lex_letter {c d : Char} (h : Escape.letter c = some d) (done rest : List Char) :
    (Mode.text done .none).lex ('\\' :: c :: rest) = (Mode.text (done ++ [d]) .none).lex rest := by
  have hu : c ≠ 'u' := by
    rintro rfl
    cases h
  have hstep : Escape.step (.backslash .none) c = some ([d], .none) := by
    simp [Escape.step, hu, h]
  rw [lex_text rfl (fun _ => by decide), List.append_nil, lex_text hstep (fun he => nomatch he)]

theorem lex_control {c : Char} (h : c.toNat < 0x20) (done rest : List Char) :
    (Mode.text done .none).lex ('\\' :: 'u' :: '0' :: '0' ::
      Nat.digitChar (c.toNat / 16) :: Nat.digitChar (c.toNat % 16) :: rest) =
        (Mode.text (done ++ [c]) .none).lex rest := by
  have hhigh := Numeral.hexDigit?_digitChar (by omega : c.toNat / 16 < 16)
  have hlow := Numeral.hexDigit?_digitChar (by omega : c.toNat % 16 < 16)
  have hunit : 16 * (c.toNat / 16) + c.toNat % 16 = c.toNat := by omega
  have hplain : Escape.ofUnit none c.toNat = some ([c], .none) := by
    have hno : Escape.isHigh c.toNat = false ∧ Escape.isLow c.toNat = false := by
      simp only [Escape.isHigh, Escape.isLow, decide_eq_false_iff_not]
      omega
    simp [Escape.ofUnit, hno]
  have hzero (missing : Nat) (hm : 1 < missing) :
      Escape.step (.unit none missing 0) '0' = some ([], .unit none (missing - 1) 0) := by
    have hdigit : Numeral.hexDigit? '0' = some 0 := rfl
    simp [Escape.step, hdigit, Nat.not_le.mpr hm]
  have hthird : Escape.step (.unit none 2 0) (Nat.digitChar (c.toNat / 16)) =
      some ([], .unit none 1 (c.toNat / 16)) := by
    simp [Escape.step, hhigh]
  have hfourth : Escape.step (.unit none 1 (c.toNat / 16)) (Nat.digitChar (c.toNat % 16)) =
      some ([c], .none) := by
    simp [Escape.step, hlow, hunit, hplain]
  have hfirst : Escape.step .none '\\' = some ([], .backslash none) := rfl
  have hsecond : Escape.step (.backslash none) 'u' = some ([], .unit none 4 0) := rfl
  rw [lex_text hfirst (fun _ => by decide), lex_text hsecond (fun he => nomatch he),
    lex_text (hzero 4 (by decide)) (fun he => nomatch he),
    lex_text (hzero 3 (by decide)) (fun he => nomatch he),
    lex_text hthird (fun he => nomatch he), lex_text hfourth (fun he => nomatch he)]
  simp only [List.append_nil]

theorem lex_escapeChar (done : List Char) (c : Char) (rest : List Char) :
    (Mode.text done .none).lex (escapeChar c ++ rest) =
      (Mode.text (done ++ [c]) .none).lex rest := by
  -- The seven characters with letters of their own, then the other controls, then the rest.
  by_cases hquote : c = '"'
  · subst hquote
    exact lex_letter rfl done rest
  by_cases hslash : c = '\\'
  · subst hslash
    exact lex_letter rfl done rest
  by_cases hback : c = '\x08'
  · subst hback
    exact lex_letter rfl done rest
  by_cases htab : c = '\t'
  · subst htab
    exact lex_letter rfl done rest
  by_cases hline : c = '\n'
  · subst hline
    exact lex_letter rfl done rest
  by_cases hform : c = '\x0c'
  · subst hform
    exact lex_letter rfl done rest
  by_cases hreturn : c = '\r'
  · subst hreturn
    exact lex_letter rfl done rest
  simp only [escapeChar, hquote, hslash, hback, htab, hline, hform, hreturn, if_false]
  by_cases hcontrol : c.toNat < 0x20
  · rw [if_pos hcontrol]
    exact lex_control hcontrol done rest
  · rw [if_neg hcontrol]
    have hstep : Escape.step .none c = some ([c], .none) := by
      simp only [Escape.step, hslash, hcontrol, if_false]
    exact lex_text hstep (fun _ => hquote) rest

theorem lex_flatMap_escapeChar (done cs rest : List Char) :
    (Mode.text done .none).lex (cs.flatMap escapeChar ++ rest) =
      (Mode.text (done ++ cs) .none).lex rest := by
  induction cs generalizing done with
  | nil => rw [List.flatMap_nil, List.append_nil, List.nil_append]
  | cons c cs ih =>
    rw [List.flatMap_cons, List.append_assoc, lex_escapeChar, ih, List.append_assoc,
      List.singleton_append]

theorem lex_quote (s : String) (rest : List Char) :
    Mode.blank.lex (quote s ++ rest) = (Mode.blank.lex rest).map ([.text s] ++ ·) := by
  have hopen (cs : List Char) : Mode.blank.lex ('"' :: cs) = (Mode.text [] .none).lex cs := by
    simp [Mode.lex, Mode.step, Mode.start]
  have hclose (done cs : List Char) : (Mode.text done .none).lex ('"' :: cs) =
      (Mode.blank.lex cs).map ([.text (String.ofList done)] ++ ·) := by
    simp [Mode.lex, Mode.step]
  rw [quote, List.cons_append, List.append_assoc, hopen, lex_flatMap_escapeChar,
    List.singleton_append, hclose, List.nil_append, String.ofList_toList]

theorem lex_of_token {c : Char} {t : Token} (h : Mode.start c = some ([t], .blank))
    (cs : List Char) : Mode.blank.lex (c :: cs) = (Mode.blank.lex cs).map ([t] ++ ·) := by
  rw [Mode.lex, Mode.step, h, Option.bind_some]

theorem map_append_append (r : Option (List Token)) (ts us : List Token) :
    (r.map (us ++ ·)).map (ts ++ ·) = r.map ((ts ++ us) ++ ·) := by
  simp only [Option.map_map, Function.comp_def, List.append_assoc]

theorem stops_comma (rest : List Char) : Stops (',' :: rest) := stops_cons (by decide) rest

theorem stops_closeList (rest : List Char) : Stops (']' :: rest) := stops_cons (by decide) rest

theorem stops_closeObject (rest : List Char) : Stops ('\x7d' :: rest) := stops_cons (by decide) rest

section

variable (key : String) (item next : Json) (items : List Json) (field : String × Json)
  (fields : List (String × Json)) (level : Nat)

theorem itemTokens_cons_cons :
    itemTokens (item :: next :: items) = tokens item ++ .comma :: itemTokens (next :: items) := rfl

theorem fieldTokens_cons_cons :
    fieldTokens ((key, item) :: field :: fields) =
      .text key :: .colon :: (tokens item ++ .comma :: fieldTokens (field :: fields)) := rfl

theorem compactItems_cons_cons :
    compactItems (item :: next :: items) =
      compact item ++ ',' :: compactItems (next :: items) := rfl

theorem compactFields_cons_cons :
    compactFields ((key, item) :: field :: fields) =
      quote key ++ ':' :: (compact item ++ ',' :: compactFields (field :: fields)) := rfl

theorem spreadItems_cons_cons :
    spreadItems level (item :: next :: items) =
      newline level ++ spread level item ++ ',' :: spreadItems level (next :: items) := rfl

theorem spreadFields_cons_cons :
    spreadFields level ((key, item) :: field :: fields) =
      newline level ++ quote key ++ ':' :: ' ' ::
        (spread level item ++ ',' :: spreadFields level (field :: fields)) := rfl

end

mutual

theorem lex_compact : ∀ (j : Json) {rest : List Char}, Stops rest →
    Mode.blank.lex (j.compact ++ rest) = (Mode.blank.lex rest).map (j.tokens ++ ·)
  | num n, _, h => lex_toDigits n h
  | str s, rest, _ => lex_quote s rest
  | arr items, rest, _ => by
    rw [compact, List.cons_append, List.append_assoc, List.singleton_append, lex_of_token rfl,
      lex_compactItems items (stops_closeList rest), lex_of_token rfl, map_append_append,
      map_append_append]
    rfl
  | obj fields, rest, _ => by
    rw [compact, List.cons_append, List.append_assoc, List.singleton_append, lex_of_token rfl,
      lex_compactFields fields (stops_closeObject rest), lex_of_token rfl, map_append_append,
      map_append_append]
    rfl

theorem lex_compactItems : ∀ (items : List Json) {rest : List Char}, Stops rest →
    Mode.blank.lex (compactItems items ++ rest) =
      (Mode.blank.lex rest).map (itemTokens items ++ ·)
  | [], rest, _ => by simp [compactItems, itemTokens]
  | [item], _, h => lex_compact item h
  | item :: next :: items, rest, h => by
    rw [compactItems_cons_cons, List.append_assoc, List.cons_append,
      lex_compact item (stops_comma _), lex_of_token rfl, lex_compactItems (next :: items) h,
      map_append_append, map_append_append, itemTokens_cons_cons, List.append_assoc]
    rfl

theorem lex_compactFields : ∀ (fields : List (String × Json)) {rest : List Char}, Stops rest →
    Mode.blank.lex (compactFields fields ++ rest) =
      (Mode.blank.lex rest).map (fieldTokens fields ++ ·)
  | [], rest, _ => by simp [compactFields, fieldTokens]
  | [(key, item)], rest, h => by
    rw [compactFields, List.append_assoc, List.cons_append, lex_quote, lex_of_token rfl,
      lex_compact item h, map_append_append, map_append_append]
    rfl
  | (key, item) :: field :: fields, rest, h => by
    rw [compactFields_cons_cons, List.append_assoc, List.cons_append, List.append_assoc,
      List.cons_append, lex_quote, lex_of_token rfl, lex_compact item (stops_comma _),
      lex_of_token rfl, lex_compactFields (field :: fields) h, map_append_append,
      map_append_append, map_append_append, map_append_append, fieldTokens_cons_cons]
    simp only [List.append_assoc, List.cons_append, List.nil_append]

end

theorem lex_newline (level : Nat) (rest : List Char) :
    Mode.blank.lex (newline level ++ rest) = Mode.blank.lex rest := by
  have hblanks (k : Nat) :
      Mode.blank.lex (List.replicate k ' ' ++ rest) = Mode.blank.lex rest := by
    induction k with
    | zero => rw [List.replicate_zero, List.nil_append]
    | succ k ih => rw [List.replicate_succ, List.cons_append, lex_of_silent rfl, ih]
  rw [newline, List.cons_append, lex_of_silent rfl, hblanks]

theorem stops_newline (level : Nat) (rest : List Char) : Stops (newline level ++ rest) :=
  stops_cons (by decide) _

mutual

theorem lex_spread : ∀ (level : Nat) (j : Json) {rest : List Char}, Stops rest →
    Mode.blank.lex (j.spread level ++ rest) = (Mode.blank.lex rest).map (j.tokens ++ ·)
  | _, num n, _, h => lex_toDigits n h
  | _, str s, rest, _ => lex_quote s rest
  | _, arr [], rest, _ => by
    rw [spread, List.cons_append, List.singleton_append, lex_of_token rfl, lex_of_token rfl,
      map_append_append]
    rfl
  | level, arr (item :: items), rest, _ => by
    rw [spread, List.cons_append, List.append_assoc, List.append_assoc, lex_of_token rfl,
      lex_spreadItems (level + 1) (item :: items) (stops_newline level _), lex_newline,
      List.singleton_append, lex_of_token rfl, map_append_append, map_append_append]
    rfl
  | _, obj [], rest, _ => by
    rw [spread, List.cons_append, List.singleton_append, lex_of_token rfl, lex_of_token rfl,
      map_append_append]
    rfl
  | level, obj (field :: fields), rest, _ => by
    rw [spread, List.cons_append, List.append_assoc, List.append_assoc, lex_of_token rfl,
      lex_spreadFields (level + 1) (field :: fields) (stops_newline level _), lex_newline,
      List.singleton_append, lex_of_token rfl, map_append_append, map_append_append]
    rfl

theorem lex_spreadItems : ∀ (level : Nat) (items : List Json) {rest : List Char}, Stops rest →
    Mode.blank.lex (spreadItems level items ++ rest) =
      (Mode.blank.lex rest).map (itemTokens items ++ ·)
  | _, [], rest, _ => by simp [spreadItems, itemTokens]
  | level, [item], _, h => by
    rw [spreadItems, List.append_assoc, lex_newline, lex_spread level item h]
    rfl
  | level, item :: next :: items, rest, h => by
    rw [spreadItems_cons_cons, List.append_assoc, List.append_assoc, List.cons_append, lex_newline,
      lex_spread level item (stops_comma _), lex_of_token rfl,
      lex_spreadItems level (next :: items) h, map_append_append, map_append_append,
      itemTokens_cons_cons, List.append_assoc]
    rfl

theorem lex_spreadFields : ∀ (level : Nat) (fields : List (String × Json)) {rest : List Char},
    Stops rest →
    Mode.blank.lex (spreadFields level fields ++ rest) =
      (Mode.blank.lex rest).map (fieldTokens fields ++ ·)
  | _, [], rest, _ => by simp [spreadFields, fieldTokens]
  | level, [(key, item)], rest, h => by
    rw [spreadFields, List.append_assoc, List.append_assoc, List.cons_append, List.cons_append,
      lex_newline, lex_quote, lex_of_token rfl, lex_of_silent rfl, lex_spread level item h,
      map_append_append, map_append_append]
    rfl
  | level, (key, item) :: field :: fields, rest, h => by
    rw [spreadFields_cons_cons, List.append_assoc, List.append_assoc, List.cons_append,
      List.cons_append, List.append_assoc, List.cons_append, lex_newline, lex_quote,
      lex_of_token rfl, lex_of_silent rfl, lex_spread level item (stops_comma _), lex_of_token rfl,
      lex_spreadFields level (field :: fields) h, map_append_append, map_append_append,
      map_append_append, map_append_append, fieldTokens_cons_cons]
    simp only [List.append_assoc, List.cons_append, List.nil_append]

end

theorem parse_cons {s s' : Parse} {t : Token} (h : s.step t = some s') (ts : List Token) :
    s.parse (t :: ts) = s'.parse ts := by
  rw [Parse.parse, h, Option.bind_some]

/-- What is no end of a list begins its first item. -/
theorem parse_item (within : List Pending) (j : Json) (rest : List Token) :
    (Parse.item within).parse (j.tokens ++ rest) =
      (Parse.value (.list [] :: within)).parse (j.tokens ++ rest) := by
  cases j <;> rfl

theorem parse_item_itemTokens (within : List Pending) (item : Json) (items : List Json)
    (rest : List Token) :
    (Parse.item within).parse (itemTokens (item :: items) ++ rest) =
      (Parse.value (.list [] :: within)).parse (itemTokens (item :: items) ++ rest) := by
  cases items with
  | nil => exact parse_item within item rest
  | cons next items =>
    rw [itemTokens_cons_cons, List.append_assoc]
    exact parse_item within item _

theorem parse_field (within : List Pending) (field : String × Json) (fields : List (String × Json))
    (rest : List Token) :
    (Parse.field within).parse (fieldTokens (field :: fields) ++ rest) =
      (Parse.nextField within []).parse (fieldTokens (field :: fields) ++ rest) := by
  cases fields <;> rfl

mutual

theorem parse_tokens : ∀ (j : Json) (within : List Pending) (rest : List Token),
    (Parse.value within).parse (j.tokens ++ rest) = (Parse.behind within j.value).parse rest
  | num _, _, _ => rfl
  | str _, _, _ => rfl
  | arr [], _, _ => rfl
  | arr (item :: items), within, rest => by
    have hopen : (Parse.value within).step .openList = some (.item within) := rfl
    rw [tokens, List.cons_append, List.append_assoc, parse_cons hopen, parse_item_itemTokens,
      List.singleton_append, parse_itemTokens (item :: items) (List.cons_ne_nil _ _),
      List.nil_append]
    rfl
  | obj [], _, _ => rfl
  | obj (field :: fields), within, rest => by
    have hopen : (Parse.value within).step .openObject = some (.field within) := rfl
    rw [tokens, List.cons_append, List.append_assoc, parse_cons hopen, parse_field,
      List.singleton_append, parse_fieldTokens (field :: fields) (List.cons_ne_nil _ _),
      List.nil_append]
    rfl

theorem parse_itemTokens : ∀ (items : List Json), items ≠ [] → ∀ (within : List Pending)
    (done : List Value) (rest : List Token),
    (Parse.value (.list done :: within)).parse (itemTokens items ++ .closeList :: rest) =
      (Parse.behind within (.list (done ++ itemValues items))).parse rest
  | [], h, _, _, _ => absurd rfl h
  | [item], _, within, done, rest => by
    rw [itemTokens, parse_tokens, parse_cons rfl]
    rfl
  | item :: next :: items, _, within, done, rest => by
    rw [itemTokens_cons_cons, List.append_assoc, List.cons_append, parse_tokens, parse_cons rfl,
      parse_itemTokens (next :: items) (List.cons_ne_nil _ _), List.append_assoc]
    rfl

theorem parse_fieldTokens : ∀ (fields : List (String × Json)), fields ≠ [] →
    ∀ (within : List Pending) (done : List (String × Value)) (rest : List Token),
    (Parse.nextField within done).parse (fieldTokens fields ++ .closeObject :: rest) =
      (Parse.behind within (.object (done ++ fieldValues fields))).parse rest
  | [], h, _, _, _ => absurd rfl h
  | [(key, item)], _, within, done, rest => by
    rw [fieldTokens, List.cons_append, List.cons_append, parse_cons rfl, parse_cons rfl,
      parse_tokens, parse_cons rfl]
    rfl
  | (key, item) :: field :: fields, _, within, done, rest => by
    rw [fieldTokens_cons_cons, List.cons_append, List.cons_append, List.append_assoc,
      List.cons_append, parse_cons rfl, parse_cons rfl, parse_tokens, parse_cons rfl,
      parse_fieldTokens (field :: fields) (List.cons_ne_nil _ _), List.append_assoc]
    rfl

end

theorem read_of_lex {text : String} {j : Json}
    (h : Mode.blank.lex text.toList = some j.tokens) : read text = some j.value := by
  have hparse := parse_tokens j [] []
  rw [List.append_nil] at hparse
  rw [read, h, Option.bind_some, hparse]
  rfl

theorem read_compact (j : Json) {rest : List Char} (h : Stops rest)
    (hrest : Mode.blank.lex rest = some []) :
    read (String.ofList (j.compact ++ rest)) = some j.value := by
  refine read_of_lex ?_
  rw [String.toList_ofList, lex_compact j h, hrest, Option.map_some, List.append_nil]

theorem read_spread (j : Json) {rest : List Char} (h : Stops rest)
    (hrest : Mode.blank.lex rest = some []) :
    read (String.ofList (j.spread 0 ++ rest)) = some j.value := by
  refine read_of_lex ?_
  rw [String.toList_ofList, lex_spread 0 j h, hrest, Option.map_some, List.append_nil]

example : read " [-2.50e+3, \"\\ud83d\\ude00\\/\"] " =
    some (.list [.number (-250) 1, .text "😀/"]) := rfl

example : read "[1,]" = none := rfl

end ResourceTrace.Json
