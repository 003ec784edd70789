import ResourceTrace.Proofs.Text.Digits
import ResourceTrace.Proofs.Text.Pieces
import ResourceTrace.Probe.ValueLog

set_option autoImplicit false

namespace ResourceTrace

open Numeral (IsRun)

namespace Command

theorem matchesTemplate_iff {template key front back : List Char}
    (h : Text.splitAtWord placeholder template = some (front, back)) :
    matchesTemplate template key = true ↔
      ∃ digits, IsRun digits ∧ key = front ++ digits ++ back := by
  simp only [matchesTemplate, h]
  constructor
  · intro hm
    split at hm
    · cases hm
    · next digits hdigits =>
      obtain ⟨rest, hfront, hback⟩ := Option.bind_eq_some_iff.mp hdigits
      rw [Text.dropFront?_eq_some_iff] at hfront
      rw [Text.dropBack?_eq_some_iff] at hback
      exact ⟨digits, (Numeral.isRun_iff digits).mpr hm, by rw [hfront, hback, List.append_assoc]⟩
  · rintro ⟨digits, hrun, rfl⟩
    have hback : Text.dropBack? back (digits ++ back) = some digits :=
      Text.dropBack?_eq_some_iff.mpr rfl
    simpa [List.append_assoc, hback] using (Numeral.isRun_iff digits).mp hrun

theorem mem_keys_insertOption (j key help : String) (options : List (String × String)) :
    j ∈ (insertOption key help options).map Prod.fst ↔ j = key ∨ j ∈ options.map Prod.fst := by
  induction options with
  | nil => simp [insertOption]
  | cons option rest ih =>
    obtain ⟨k, h⟩ := option
    rw [insertOption]
    split
    · next hk => simp [hk]
    · split
      · simp
      · rw [List.map_cons, List.mem_cons, ih, List.map_cons, List.mem_cons]
        exact or_left_comm

theorem mem_keys_addOptions (c : Command) (options : List (String × String)) (j : String) :
    j ∈ (c.addOptions options).keys ↔ j ∈ c.keys ∨ j ∈ options.map Prod.fst := by
  induction options generalizing c with
  | nil => simp [addOptions]
  | cons option rest ih =>
    have hstep : c.addOptions (option :: rest) =
        addOptions { c with options := insertOption option.1 option.2 c.options } rest := rfl
    rw [hstep, ih, keys, mem_keys_insertOption, List.map_cons, List.mem_cons, ← keys, or_assoc,
      or_left_comm]

end Command

namespace FilterKind

structure Spells (k : FilterKind) (digits : List Char) (key : String) : Prop where
  run : IsRun digits
  key_eq : key.toList = k.front.toList ++ digits ++ k.back.toList

theorem mem_all (k : FilterKind) : k ∈ all := by cases k <;> decide

theorem front_isDigit (k : FilterKind) : ∀ c ∈ k.front.toList, c.isDigit = false := by
  have hall : k.front.toList.all (fun c => !c.isDigit) = true := by cases k <;> rfl
  simpa using hall

theorem back_isDigit (k : FilterKind) : ∀ c ∈ k.back.toList.head?, c.isDigit = false := by
  cases k <;> simp [back]

theorem eq_of_front_of_back {j k : FilterKind} (hfront : j.front = k.front)
    (hback : j.back = k.back) : j = k := by
  have hall : ∀ j ∈ all, ∀ k ∈ all, j.front = k.front → j.back = k.back → j = k := by decide
  exact hall j j.mem_all k k.mem_all hfront hback

theorem Spells.unique {j k : FilterKind} {digits digits' : List Char} {key : String}
    (hj : j.Spells digits key) (hk : k.Spells digits' key) : j = k ∧ digits = digits' := by
  have hstart : ∀ {i : FilterKind} {ds : List Char}, i.Spells ds key →
      ∀ c ∈ (ds ++ i.back.toList).head?, (!c.isDigit) = false := by
    intro i ds hi c hc
    obtain ⟨d, rest, rfl⟩ := List.exists_cons_of_ne_nil hi.run.ne_nil
    obtain rfl : d = c := by simpa using hc
    simpa using hi.run.isDigit d (by simp)
  have hkeys : j.front.toList ++ (digits ++ j.back.toList) =
      k.front.toList ++ (digits' ++ k.back.toList) := by
    rw [← List.append_assoc, ← hj.key_eq, hk.key_eq, List.append_assoc]
  obtain ⟨hfront, hrest⟩ := Text.append_inj_of_stop (p := fun c => !c.isDigit) hkeys
    (fun c hc => by simp [j.front_isDigit c hc]) (hstart hj)
    (fun c hc => by simp [k.front_isDigit c hc]) (hstart hk)
  obtain ⟨hdigits, hback⟩ := Text.append_inj_of_stop hrest hj.run.isDigit j.back_isDigit
    hk.run.isDigit k.back_isDigit
  exact ⟨eq_of_front_of_back (String.toList_inj.mp hfront) (String.toList_inj.mp hback), hdigits⟩

theorem number?_eq_some_iff (k : FilterKind) (key : String) (n : Nat) :
    k.number? key.toList = some n ↔
      ∃ digits, k.Spells digits key ∧ Numeral.value digits = n ∧ n ≤ Numeral.maxUnsigned64 := by
  simp only [number?, bind, Option.bind_eq_some_iff, Text.dropFront?_eq_some_iff,
    Text.dropBack?_eq_some_iff, Numeral.readUnsigned?_eq_some_iff]
  constructor
  · rintro ⟨rest, hrest, digits, rfl, hrun, hn⟩
    exact ⟨digits, ⟨hrun, by rw [hrest, List.append_assoc]⟩, hn⟩
  · rintro ⟨digits, ⟨hrun, hkey⟩, hn⟩
    exact ⟨_, by rw [hkey, List.append_assoc], digits, rfl, hrun, hn⟩

theorem ofKey?_eq_some_iff (key : String) (n : Nat) (k : FilterKind) :
    ofKey? key = some (n, k) ↔ k.number? key.toList = some n := by
  constructor
  · intro h
    obtain ⟨j, -, hj⟩ := List.exists_of_findSome?_eq_some h
    obtain ⟨m, hm, heq⟩ := Option.map_eq_some_iff.mp hj
    obtain ⟨rfl, rfl⟩ := Prod.mk.inj heq
    exact hm
  · intro h
    cases hkey : ofKey? key with
    | none =>
      have hk := List.findSome?_eq_none_iff.mp hkey k k.mem_all
      simp [h] at hk
    | some found =>
      obtain ⟨j, -, hj⟩ := List.exists_of_findSome?_eq_some hkey
      obtain ⟨m, hm, rfl⟩ := Option.map_eq_some_iff.mp hj
      -- The kinds are asked in turn, but only one of them can answer.
      obtain ⟨digits, hspells, rfl, -⟩ := (number?_eq_some_iff j key m).mp hm
      obtain ⟨digits', hspells', rfl, -⟩ := (number?_eq_some_iff k key n).mp h
      obtain ⟨rfl, rfl⟩ := hspells.unique hspells'
      rfl

theorem ofKey?_of_spells {k : FilterKind} {digits : List Char} {key : String}
    (h : k.Spells digits key) :
    ofKey? key =
      if Numeral.value digits ≤ Numeral.maxUnsigned64 then some (Numeral.value digits, k)
      else none := by
  split
  · next hfits =>
    rw [ofKey?_eq_some_iff, number?_eq_some_iff]
    exact ⟨digits, h, rfl, hfits⟩
  · next hfits =>
    refine Option.eq_none_iff_forall_ne_some.mpr fun found hfound => ?_
    obtain ⟨n, j⟩ := found
    obtain ⟨digits', h', rfl, hle⟩ :=
      (number?_eq_some_iff j key n).mp ((ofKey?_eq_some_iff key n j).mp hfound)
    exact hfits ((h.unique h').2 ▸ hle)

theorem ofKey?_template (k : FilterKind) : ofKey? k.template = none := by
  cases k <;> decide

theorem splitAtWord_template (k : FilterKind) :
    Text.splitAtWord Command.placeholder k.template.toList =
      some (k.front.toList, k.back.toList) := by
  cases k <;> decide

theorem matchesTemplate_iff (k : FilterKind) (key : String) :
    Command.matchesTemplate k.template.toList key.toList = true ↔
      ∃ digits, k.Spells digits key := by
  rw [Command.matchesTemplate_iff k.splitAtWord_template]
  exact exists_congr fun digits => ⟨fun h => ⟨h.1, h.2⟩, fun h => ⟨h.run, h.key_eq⟩⟩

def templates : List String := options.map Prod.fst

theorem mem_templates_iff (template : String) :
    template ∈ templates ↔ ∃ k : FilterKind, template = k.template := by
  simp only [templates, options, List.map_map, List.mem_map, Function.comp_def]
  exact ⟨fun ⟨k, _, hk⟩ => ⟨k, hk.symm⟩, fun ⟨k, hk⟩ => ⟨k, k.mem_all, hk.symm⟩⟩

end FilterKind

namespace Family

def generalKeys : List String := ["format", "oncePerStack", "logDest", "logWithStack"]

theorem mem_keys_command (number : Nat) (key : String) :
    key ∈ (command number).keys ↔ key ∈ generalKeys ∨ ∃ k : FilterKind, key = k.template := by
  have hfilters : key ∈ FilterKind.options.map Prod.fst ↔ ∃ k : FilterKind, key = k.template :=
    FilterKind.mem_templates_iff key
  rw [command, Command.mem_keys_addOptions, hfilters, Command.mem_keys_addOptions, Command.create,
    Command.mem_keys_addOptions]
  simp [Command.keys, Output.options, Output.destOption, generalKeys, or_assoc]

theorem hasOption_command_iff (number : Nat) (key : String) :
    (command number).hasOption key = true ↔
      key ∈ generalKeys ∨ (∃ k : FilterKind, key = k.template) ∨
        ∃ (k : FilterKind) (digits : List Char), k.Spells digits key := by
  have hgeneral : ∀ template ∈ generalKeys,
      Text.splitAtWord Command.placeholder template.toList = none := by decide
  have htemplates : (∃ template ∈ (command number).keys,
      Command.matchesTemplate template.toList key.toList = true) ↔
        ∃ (k : FilterKind) (digits : List Char), k.Spells digits key := by
    constructor
    · rintro ⟨template, hmem, hmatch⟩
      rcases (mem_keys_command number template).mp hmem with hg | ⟨k, rfl⟩
      · simp [Command.matchesTemplate, hgeneral template hg] at hmatch
      · exact ⟨k, (k.matchesTemplate_iff key).mp hmatch⟩
    · rintro ⟨k, hk⟩
      exact ⟨k.template, (mem_keys_command number _).mpr (.inr ⟨k, rfl⟩),
        (k.matchesTemplate_iff key).mpr hk⟩
  rw [Command.hasOption, Bool.or_eq_true, List.contains_iff_mem, List.any_eq_true,
    mem_keys_command, htemplates, or_assoc]

end Family

end ResourceTrace
