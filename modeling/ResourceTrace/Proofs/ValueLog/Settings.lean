import ResourceTrace.Pattern.Interpreter
import ResourceTrace.Proofs.Commands.Table
import ResourceTrace.Proofs.Event.FilterKey

set_option autoImplicit false

namespace ResourceTrace

namespace OptionLine

theorem get?_eq_some_of_mem {o : OptionLine} {key : String} (h : key ∈ o.keys) :
    ∃ value, o.pairs.get? key = some value := by
  rw [← Option.isSome_iff_exists, Option.isSome_iff_ne_none, ne_eq,
    Keyed.get?_eq_none_iff, not_not]
  exact h

/-- A key that is there is read or wrong, but never taken for absent. -/
theorem strict_of_mem {α : Type} {o : OptionLine} {key : String} (h : key ∈ o.keys)
    (read : String → Except OptionError α) :
    (∃ x, o.strict key read = .ok (some x)) ∨ ∃ e, o.strict key read = .error e := by
  obtain ⟨value, hv⟩ := get?_eq_some_of_mem h
  cases value with
  | none => exact .inr ⟨.missingValue, by rw [strict, hv]⟩
  | some text =>
    cases hr : read text with
    | ok x => exact .inl ⟨x, by simp [strict, hv, hr, Except.map]⟩
    | error e => exact .inr ⟨e, by simp [strict, hv, hr, Except.map]⟩

def shown (o : OptionLine) (key : String) : String :=
  match o.pairs.get? key with
  | some (some text) => text
  | _ => "<empty>"

theorem describe_forCommand (line : String) (command : Command) (key : String) (e : OptionError) :
    (forCommand line command).describe key e =
      [s!"Error in option {key}={(forCommand line command).shown key} for command '{command.name}'",
        e.message] := by
  have hshown : (((forCommand line command).pairs.get? key).getD none).getD "<empty>" =
      (forCommand line command).shown key := by
    rw [shown]
    cases (forCommand line command).pairs.get? key with
    | none => rfl
    | some value => cases value <;> rfl
  rw [describe, hshown]
  rfl

end OptionLine

def ValueCheck.kind : ValueCheck → FilterKind
  | maxLong _ => .maxLong
  | minLong _ => .minLong
  | maxDouble _ => .maxDouble
  | minDouble _ => .minDouble
  | equals _ => .equals
  | startsWith _ => .startsWith
  | endsWith _ => .endsWith
  | contains _ => .contains
  | matchesRegexp _ => .matchesRegexp

/-- Whether values are compared with the text as it stands, and not with what is read from it. -/
def FilterKind.TakesText (k : FilterKind) : Prop :=
  k = .equals ∨ k = .startsWith ∨ k = .endsWith ∨ k = .contains

namespace ValueFilter

/-- A key gives a check of its kind or is reported. -/
def Answered (o : OptionLine) (key : String) (kind : FilterKind)
    (answer : Noted (Option ValueCheck)) : Prop :=
  (∃ check, answer.value = some check ∧ check.kind = kind) ∨
    ∃ e, answer.notes = o.describe key e

variable {o : OptionLine} {key : String}

theorem bound_answered {α : Type} (h : key ∈ o.keys) (zero : α)
    (read : String → Except OptionError α) {check : α → ValueCheck} {kind : FilterKind}
    (hkind : ∀ x, (check x).kind = kind) :
    Answered o key kind (bound o key zero (o.strict key read) check) := by
  obtain ⟨x, hx⟩ | ⟨e, he⟩ := OptionLine.strict_of_mem h read
  · rw [hx]
    exact .inl ⟨check x, rfl, hkind x⟩
  · rw [he]
    exact .inr ⟨e, rfl⟩

theorem pattern_answered [PatternEngine] (h : key ∈ o.keys) :
    Answered o key .matchesRegexp (readCheck o key .matchesRegexp) := by
  obtain ⟨p, hp⟩ | ⟨e, he⟩ := OptionLine.strict_of_mem h OptionLine.readPattern
  · refine .inl ⟨.matchesRegexp p, ?_, rfl⟩
    simp [readCheck, OptionLine.pattern, OptionLine.pattern?, hp]
  · refine .inr ⟨e, ?_⟩
    simp [readCheck, OptionLine.pattern, OptionLine.pattern?, he]

theorem text_answered {text : String} (h : o.pairs.get? key = some (some text))
    {check : String → ValueCheck} {kind : FilterKind} (hkind : ∀ t, (check t).kind = kind) :
    Answered o key kind (pure ((o.text? key none).map check)) := by
  have ht : o.text? key none = some text := by rw [OptionLine.text?, h, Option.getD_some]
  rw [ht]
  exact .inl ⟨check text, rfl, hkind text⟩

variable [PatternEngine]

theorem readCheck_answered (h : key ∈ o.keys) (kind : FilterKind)
    (hvalue : kind.TakesText → ∃ text, o.pairs.get? key = some (some text)) :
    Answered o key kind (readCheck o key kind) := by
  cases kind with
  | maxLong => exact bound_answered h 0 OptionLine.readInt64 fun _ => rfl
  | minLong => exact bound_answered h 0 OptionLine.readInt64 fun _ => rfl
  | maxDouble => exact bound_answered h 0.0 OptionLine.readNumber fun _ => rfl
  | minDouble => exact bound_answered h 0.0 OptionLine.readNumber fun _ => rfl
  | matchesRegexp => exact pattern_answered h
  | equals =>
    obtain ⟨text, ht⟩ := hvalue (by simp [FilterKind.TakesText])
    exact text_answered ht fun _ => rfl
  | startsWith =>
    obtain ⟨text, ht⟩ := hvalue (by simp [FilterKind.TakesText])
    exact text_answered ht fun _ => rfl
  | endsWith =>
    obtain ⟨text, ht⟩ := hvalue (by simp [FilterKind.TakesText])
    exact text_answered ht fun _ => rfl
  | contains =>
    obtain ⟨text, ht⟩ := hvalue (by simp [FilterKind.TakesText])
    exact text_answered ht fun _ => rfl

def Counts (n : Nat) : Prop := 0 < n ∧ n ≤ Numeral.maxUnsigned64

theorem read_of_not_counts {kind : FilterKind} {digits : List Char} (hkey : kind.Spells digits key)
    (hn : ¬Counts (Numeral.value digits)) : read o key = pure none := by
  rw [read, FilterKind.ofKey?_of_spells hkey]
  by_cases hfits : Numeral.value digits ≤ Numeral.maxUnsigned64
  · have hzero : Numeral.value digits = 0 := by
      by_contra hpos
      exact hn ⟨Nat.pos_of_ne_zero hpos, hfits⟩
    simp [hzero]
  · simp [hfits]

theorem read_of_counts {kind : FilterKind} {digits : List Char} (hkey : kind.Spells digits key)
    (hn : Counts (Numeral.value digits)) :
    read o key = do
      let check ← readCheck o key kind
      return check.map fun c => ⟨Numeral.value digits - 1, c⟩ := by
  obtain ⟨position, hposition⟩ := Nat.exists_eq_succ_of_ne_zero (Nat.ne_of_gt hn.1)
  rw [read, FilterKind.ofKey?_of_spells hkey, if_pos hn.2, hposition]
  rfl

theorem read_template (kind : FilterKind) : read o kind.template = pure none := by
  rw [read, kind.ofKey?_template]

theorem value_readAll (o : OptionLine) (keys : List String) :
    (readAll o keys).value = keys.filterMap fun key => (read o key).value := by
  induction keys with
  | nil => rfl
  | cons key keys ih =>
    simp only [readAll, Noted.value_bind, Noted.value_pure, ih, List.filterMap_cons]
    cases (read o key).value <;> rfl

theorem notes_readAll (o : OptionLine) (keys : List String) :
    (readAll o keys).notes = keys.flatMap fun key => (read o key).notes := by
  induction keys with
  | nil => rfl
  | cons key keys ih => simp [readAll, ih]

end ValueFilter

namespace Family

theorem log_of_unread [PatternEngine] {f : Family} (h : f.settings = none) (event : Buffer)
    (stack : Stack) (out : Output) :
    let s := FamilySettings.read f.switch.options
    f.log event stack out =
      { f with settings := some s.value }.log event stack (out.withConsole [] s.notes) := by
  obtain ⟨number, switch, settings, seen⟩ := f
  obtain rfl : settings = none := h
  intro s
  rw [← Output.writeAll_stderr]
  rfl

/-- The settings of a line that is accepted are put together from what each key comes to, key by
key, and the error sink has the reports before the first event is logged. A key that is about a
value is either the text of a template or spelled out with a number. In the first case, or if no
value has the number, nothing comes of it. Otherwise there is a filter of its kind on that value or
a report of two lines about the key, at least if the key has a value or takes one that is not a mere
text. -/
theorem keys_come_to_filters [PatternEngine] (number : Nat) (line : String)
    (accepted : Agent.lineError? (command number) line = none) :
    let o := OptionLine.forCommand line (command number)
    let settings := FamilySettings.read o
    let family := (create number).configure (command number).name line
    settings.value.filters = (o.keys.filterMap fun key => (ValueFilter.read o key).value) ∧
      settings.notes = (o.keys.flatMap fun key => (ValueFilter.read o key).notes) ∧
      (∀ event stack out, family.log event stack out =
        { family with settings := some settings.value }.log event stack
          (out.withConsole [] settings.notes)) ∧
      ∀ key ∈ o.keys, key ∉ generalKeys →
        (∃ kind : FilterKind, key = kind.template ∧ ValueFilter.read o key = pure none) ∨
        ∃ (kind : FilterKind) (digits : List Char), kind.Spells digits key ∧
          (¬ValueFilter.Counts (Numeral.value digits) → ValueFilter.read o key = pure none) ∧
          (ValueFilter.Counts (Numeral.value digits) →
            (kind.TakesText → ∃ text, o.pairs.get? key = some (some text)) →
            (∃ f, (ValueFilter.read o key).value = some f ∧
              f.position + 1 = Numeral.value digits ∧ f.check.kind = kind) ∨
            ∃ e : OptionError, (ValueFilter.read o key).notes =
              [s!"Error in option {key}={o.shown key} for command '{(command number).name}'",
                e.message]) := by
  intro o settings family
  refine ⟨ValueFilter.value_readAll o o.keys, ?_, ?_, fun key hkey hgeneral => ?_⟩
  · exact (by simp [settings, FamilySettings.read, ValueFilter.notes_readAll])
  · have hunread : family.settings = none := by simp [family, configure, create]
    have hoptions : family.switch.options = o := by
      simp [family, configure, create, Switch.options, Switch.enable, o]
    intro event stack out
    rw [log_of_unread hunread, hoptions]
  · have hdeclared := ((Agent.lineError?_eq_none_iff _ line).mp accepted).declared key hkey
    obtain hg | ⟨kind, rfl⟩ | ⟨kind, digits, hspells⟩ :=
      (hasOption_command_iff number key).mp hdeclared
    · exact absurd hg hgeneral
    · exact .inl ⟨kind, rfl, ValueFilter.read_template kind⟩
    · refine .inr ⟨kind, digits, hspells, ValueFilter.read_of_not_counts hspells,
        fun hn hvalue => ?_⟩
      rw [ValueFilter.read_of_counts hspells hn]
      obtain ⟨check, hcheck, hkind⟩ | ⟨e, he⟩ := ValueFilter.readCheck_answered hkey kind hvalue
      · refine .inl ⟨⟨Numeral.value digits - 1, check⟩, by simp [hcheck], ?_, hkind⟩
        exact Nat.sub_add_cancel hn.1
      · rw [OptionLine.describe_forCommand] at he
        exact .inr ⟨e, by rw [Noted.notes_bind, he]; rfl⟩

def mixedLine : String := "maxLongValue2=10,minDoubleValue1=x,value1StartsWith=a,equalsValue0=b"

theorem keys_come_to_filters_of_mixed_line :
    let o := OptionLine.forCommand mixedLine (command 1)
    let family := (create 1).configure "logGeneric1" mixedLine
    let reports := ["Error in option minDoubleValue1=x for command 'logGeneric1'",
      "Could not parse number 'x'"]
    Agent.lineError? (command 1) mixedLine = none ∧
      (FamilySettings.read o).value.filters =
        [⟨1, .maxLong 10⟩, ⟨0, .minDouble 0.0⟩, ⟨0, .startsWith "a"⟩] ∧
      (FamilySettings.read o).notes = reports ∧
      (∀ event stack out, family.log event stack out =
        { family with settings := some (FamilySettings.read o).value }.log event stack
          (out.withConsole [] (FamilySettings.read o).notes)) ∧
      (family.log [.str "b"] [] {}).2.err = reports := by
  have accepted : Agent.lineError? (command 1) mixedLine = none := by decide +kernel
  obtain ⟨hfilters, hnotes, hlog, -⟩ := keys_come_to_filters 1 mixedLine accepted
  refine ⟨accepted, hfilters.trans ?_, hnotes.trans ?_, hlog, ?_⟩ <;> decide +kernel

/-- Keys of a line that is accepted which give neither a filter nor a report: there is no value 0,
a number does not fit in 64 bits, and the text of a template names no value. -/
theorem keys_without_filter_or_report :
    let line := "maxLongValue0=5,minLongValue18446744073709551616=1,equalsValue<idx>=7"
    let o := OptionLine.forCommand line (command 1)
    Agent.lineError? (command 1) line = none ∧
      o.keys = ["maxLongValue0", "minLongValue18446744073709551616", "equalsValue<idx>"] ∧
      (∀ key ∈ o.keys, key ∉ generalKeys) ∧
      (FamilySettings.read o).value.filters = [] ∧ (FamilySettings.read o).notes = [] := by
  decide +kernel

end Family

end ResourceTrace
