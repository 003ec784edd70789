import ResourceTrace.Proofs.CommandLine.Grouping

/-!
Agreement of the two ways to configure one command. A line of its own is cut at its first comma
only, while agent arguments are cut at every comma, lose their empty pieces and are joined again.
The option lines may differ, but they are read alike, so that an agent cannot tell them apart.
-/

set_option autoImplicit false

namespace ResourceTrace

namespace Text

theorem trim_eq_self {cs : List Char} (hhead : ∀ c ∈ cs.head?, isBlank c = false)
    (hlast : ∀ c ∈ cs.getLast?, isBlank c = false) : trim cs = cs := by
  have hdrop {ds : List Char} (h : ∀ c ∈ ds.head?, isBlank c = false) :
      ds.dropWhile isBlank = ds := by
    cases ds with
    | nil => rfl
    | cons d ds => rw [List.dropWhile_cons_of_neg (by simp [h d rfl])]
  rw [trim, hdrop hhead, hdrop (by simpa using hlast), List.reverse_reverse]

end Text

namespace OptionLine

theorem segments_append_comma {word : List Char} (hne : word ≠ []) (hcomma : ',' ∉ word)
    (hlast : word.getLast? ≠ some '\\') (options : List Char) :
    segments (word ++ ',' :: options) = word :: segments options := by
  have hcut : Text.cut ',' none none (word ++ ',' :: options) =
      word :: Text.cut ',' none none options := by
    rw [Text.cut_append_separator ',' (by simpa using hlast), Text.cut_of_not_mem hcomma,
      Text.cut_before ',' (by decide), List.singleton_append]
  simp [segments, Text.pieces, hcut, hne]

theorem parse_intercalate_segments (line : String) :
    parse (",".intercalate (CommandLine.segments line)) = parse line := by
  have hjoin := segments_join (joinable_segments line.toList) fun _ => ne_nil_of_mem_segments
  rw [parse, parse, CommandLine.segments, ← CommandLine.ofList_join, String.toList_ofList,
    readSegments_eq_filterMap, hjoin, readSegments_eq_filterMap]

theorem forCommand_congr {line line' : String} (h : parse line' = parse line) (command : Command) :
    forCommand line' command = forCommand line command := by
  rw [forCommand, h, forCommand]

end OptionLine

namespace CommandLine

variable {command options : String}

/-- A word that stands out from the separators, backslashes and blanks around it. -/
structure IsWord (word : String) : Prop where
  ne_empty : word ≠ ""
  no_comma : ',' ∉ word.toList
  no_backslash : '\\' ∉ word.toList
  no_blank : ∀ c ∈ word.toList, Text.isBlank c = false

theorem toList_line (command options : String) :
    (command ++ "," ++ options).toList = command.toList ++ ',' :: options.toList := by
  simp

theorem splitLine_line (h : IsWord command)
    (hend : ∀ c ∈ (command ++ "," ++ options).toList.getLast?, Text.isBlank c = false) :
    splitLine (command ++ "," ++ options) = (command, options) := by
  have hhead : ∀ c ∈ (command ++ "," ++ options).toList.head?, Text.isBlank c = false := by
    intro c hc
    have hne : command.toList ≠ [] := by simpa using h.ne_empty
    rw [toList_line, List.head?_append_of_ne_nil _ hne] at hc
    exact h.no_blank c (List.mem_of_mem_head? hc)
  rw [splitLine, Text.trim_eq_self hhead hend, toList_line, Text.splitAtFirst_append h.no_comma]
  simp

theorem splitAgentArgs_line {isCommand : String → Bool} (h : IsWord command)
    (hcommand : isCommand command = true)
    (hoptions : ∀ piece ∈ segments options, isCommand piece = false) :
    splitAgentArgs isCommand (command ++ "," ++ options) =
      .ok [(command, ",".intercalate (segments options))] := by
  have hne : command.toList ≠ [] := by simpa using h.ne_empty
  have hlast : command.toList.getLast? ≠ some '\\' :=
    fun hc => h.no_backslash (List.mem_of_getLast? hc)
  have hpieces : ∀ piece ∈ OptionLine.segments options.toList,
      isCommand (String.ofList piece) = false :=
    fun piece hp => hoptions _ (List.mem_map_of_mem hp)
  have hword : isCommand (String.ofList command.toList) = true := by simpa using hcommand
  rw [splitAgentArgs_eq, toList_line, OptionLine.segments_append_comma hne h.no_comma hlast,
    group_cons_command isCommand hword, group_options isCommand hpieces]
  simp [Group.texts, ofList_join, segments]

end CommandLine

namespace Agent

variable {line line' : String}

/-- The commands are configured as before, but the texts of their lines are left out. -/
def withoutTexts (a : Agent) : Agent :=
  { a with configured := a.configured.map fun entry => (entry.1, "") }

def checked (a : Agent) : Option ConfigError × Agent := (a.check.1, a.check.2.withoutTexts)

theorem checked_eq (a : Agent) :
    a.checked =
      match firstError? a.configured with
      | none => (none, a.withoutTexts)
      | some (command, e) => (some e, a.withoutTexts.writeAll .stderr (errorLines command e)) := by
  rw [checked, check]
  cases firstError? a.configured <;> rfl

theorem enable_congr (h : OptionLine.parse line' = OptionLine.parse line) (a : Agent)
    (name : String) : a.enable name line' = a.enable name line := by
  have henable (s : Switch) : s.enable line' = s.enable line := by
    rw [Switch.enable, OptionLine.forCommand_congr h, Switch.enable]
  simp only [enable, Switch.configure, Changes.configure, Family.configure, henable]

theorem lineError?_congr (h : OptionLine.parse line' = OptionLine.parse line) (command : Command) :
    lineError? command line' = lineError? command line := by
  rw [lineError?, OptionLine.forCommand_congr h, lineError?]

theorem configure_congr (h : OptionLine.parse line' = OptionLine.parse line) (a : Agent)
    (name : String) :
    (a.configure name line').map checked = (a.configure name line).map checked := by
  have herror (lines : List (Command × String)) (command : Command) :
      firstError? (lines ++ [(command, line')]) = firstError? (lines ++ [(command, line)]) := by
    simp only [firstError?, List.findSome?_append, List.findSome?_cons, lineError?_congr h]
  rw [configure, configure]
  cases a.command? name with
  | none => rfl
  | some command =>
    refine congrArg Except.ok ?_
    simp only [checked_eq, withoutTexts, herror, enable_congr h, List.map_append, List.map_cons,
      List.map_nil]

end Agent

namespace CommandLine

/-- Whichever way a command is configured, on a line of its own or as the only one of the agent
arguments, its options are read as the same settings, and checking the agent that was configured
with them leads to the same error, if any, and to the same agent. -/
theorem line_and_args_agree (isCommand : String → Bool) (a : Agent) (command options : String)
    (hword : IsWord command) (hcommand : isCommand command = true)
    (hend : ∀ c ∈ (command ++ "," ++ options).toList.getLast?, Text.isBlank c = false)
    (hoptions : ∀ piece ∈ segments options, isCommand piece = false) :
    splitLine (command ++ "," ++ options) = (command, options) ∧
      ∃ joined, splitAgentArgs isCommand (command ++ "," ++ options) = .ok [(command, joined)] ∧
        (OptionLine.parse joined).pairs = (OptionLine.parse options).pairs ∧
        (a.configure command joined).map Agent.checked =
          (a.configure command options).map Agent.checked := by
  have hparse := OptionLine.parse_intercalate_segments options
  exact ⟨splitLine_line hword hend, _, splitAgentArgs_line hword hcommand hoptions,
    by rw [hparse], Agent.configure_congr hparse a command⟩

/-- Empty options, a repeated key, an unknown one, escaped separators and a backslash at the
end. -/
def unrulyOptions : String := ",,format=%s\\,%s,,oncePerStack,format=a\\\\,b,nonsense\\=,x=\\"

def isValueCommand (word : String) : Bool :=
  word == "help" || word == "logGeneric1" || word == "logGeneric2"

theorem line_and_args_agree_unruly :
    IsWord "logGeneric2" ∧ isValueCommand "logGeneric2" = true ∧
    (∀ c ∈ ("logGeneric2" ++ "," ++ unrulyOptions).toList.getLast?, Text.isBlank c = false) ∧
    (∀ piece ∈ segments unrulyOptions, isValueCommand piece = false) ∧
    splitLine ("logGeneric2" ++ "," ++ unrulyOptions) = ("logGeneric2", unrulyOptions) ∧
      ∃ joined,
        splitAgentArgs isValueCommand ("logGeneric2" ++ "," ++ unrulyOptions) =
          .ok [("logGeneric2", joined)] ∧
        (OptionLine.parse joined).pairs = (OptionLine.parse unrulyOptions).pairs ∧
        (Agent.configure { now := ⟨0⟩ } "logGeneric2" joined).map Agent.checked =
          (Agent.configure { now := ⟨0⟩ } "logGeneric2" unrulyOptions).map Agent.checked := by
  have hblank : "logGeneric2".toList.all (fun c => !Text.isBlank c) = true := by decide +kernel
  have hword : IsWord "logGeneric2" :=
    ⟨by decide, by decide +kernel, by decide +kernel, by simpa using List.all_eq_true.mp hblank⟩
  have hcommand : isValueCommand "logGeneric2" = true := by decide +kernel
  have hlast : ("logGeneric2" ++ "," ++ unrulyOptions).toList.getLast? = some '\\' := by
    decide +kernel
  have hend : ∀ c ∈ ("logGeneric2" ++ "," ++ unrulyOptions).toList.getLast?,
      Text.isBlank c = false := by
    rw [hlast]
    rintro c ⟨⟩
    decide +kernel
  have hoptions : ∀ piece ∈ segments unrulyOptions, isValueCommand piece = false := by
    decide +kernel
  exact ⟨hword, hcommand, hend, hoptions, line_and_args_agree isValueCommand { now := ⟨0⟩ }
    "logGeneric2" unrulyOptions hword hcommand hend hoptions⟩

end CommandLine

end ResourceTrace
