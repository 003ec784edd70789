import Mathlib.Data.List.Induction
import Mathlib.Data.List.Nodup
import ResourceTrace.Proofs.Commands.Help
import ResourceTrace.Proofs.OptionLine.Image

set_option autoImplicit false

namespace ResourceTrace

namespace CommandLine

def latestLine? (calls : List (String × String)) (name : String) : Option String :=
  calls.reverse.lookup name

/-- From some call on, the second command is still configured and the first one is not. -/
def LatestBefore (calls : List (String × String)) (first second : String) : Prop :=
  ∃ earlier later, calls = earlier ++ later ∧ first ∉ later.map Prod.fst ∧
    second ∈ later.map Prod.fst

variable {calls : List (String × String)} {c : String × String} {name first second : String}

theorem latestLine?_concat_self : latestLine? (calls ++ [c]) c.1 = some c.2 := by
  obtain ⟨name, line⟩ := c
  simp [latestLine?]

theorem latestLine?_concat_of_ne (h : name ≠ c.1) :
    latestLine? (calls ++ [c]) name = latestLine? calls name := by
  obtain ⟨other, line⟩ := c
  have hne : (name == other) = false := by simpa using h
  simp [latestLine?, List.lookup_cons, hne]

theorem latestBefore_concat (hmem : first ≠ c.1) : LatestBefore (calls ++ [c]) first c.1 :=
  ⟨calls, [c], rfl, by simpa using hmem, by simp⟩

theorem LatestBefore.concat (h : LatestBefore calls first second) (hne : first ≠ c.1) :
    LatestBefore (calls ++ [c]) first second := by
  obtain ⟨earlier, later, rfl, hfirst, hsecond⟩ := h
  refine ⟨earlier, later ++ [c], List.append_assoc .., ?_, ?_⟩
  · rw [List.map_append, List.mem_append, not_or]
    exact ⟨hfirst, by simpa using hne⟩
  · rw [List.map_append, List.mem_append]
    exact .inl hsecond

end CommandLine

open CommandLine

/-- The line asks for no help and has declared keys only. -/
structure Command.Accepts (command : Command) (o : OptionLine) : Prop where
  no_help : "help" ∉ o.keys
  declared : ∀ key ∈ o.keys, command.hasOption key = true

/-- What a line is refused for, with the lines that explain it: help is asked for, or else a key
is the first one that the command does not declare. -/
inductive Command.Refuses (command : Command) (o : OptionLine) :
    ConfigError → List String → Prop
  | help {lines : List String} (h : "help" ∈ o.keys) (hlines : command.Explained lines) :
    Refuses command o (.helpRequested command.name) lines
  | undeclared {front back lines : List String} {key : String} (h : "help" ∉ o.keys)
    (hkeys : o.keys = front ++ key :: back)
    (hfront : ∀ k ∈ front, command.hasOption k = true) (hkey : command.hasOption key = false)
    (hlines : command.Explained lines) :
    Refuses command o (.unknownArgument key command.name)
      (s!"Unknown argument '{key}' for command '{command.name}'." :: lines)

namespace OptionLine

theorem hasHelp_iff (o : OptionLine) : o.hasHelp = true ↔ "help" ∈ o.keys := by
  have hnone := Keyed.get?_eq_none_iff o.pairs "help"
  rw [hasHelp, has, Keyed.contains, Option.isSome_iff_ne_none, ne_eq, hnone, not_not]
  rfl

variable {line key : String} {command : Command}

theorem unknownKey?_eq_none_iff : (forCommand line command).unknownKey? = none ↔
    ∀ key ∈ (parse line).keys, command.hasOption key = true := by
  rw [unknownKey?, forCommand, List.find?_eq_none]
  simp [keys]

theorem split_of_unknownKey? (h : (forCommand line command).unknownKey? = some key) :
    ∃ front back, (parse line).keys = front ++ key :: back ∧
      (∀ k ∈ front, command.hasOption k = true) ∧ command.hasOption key = false := by
  obtain ⟨hundeclared, front, back, hkeys, hfront⟩ := List.find?_eq_some_iff_append.mp h
  exact ⟨front, back, hkeys, fun k hk => by simpa using hfront k hk, by simpa using hundeclared⟩

end OptionLine

namespace Agent

theorem lineError?_eq_none_iff (command : Command) (line : String) :
    lineError? command line = none ↔ command.Accepts (OptionLine.parse line) := by
  have hhelp := (OptionLine.forCommand line command).hasHelp_iff
  rw [lineError?]
  constructor
  · intro h
    split at h
    · cases h
    · next hn =>
      rw [Option.map_eq_none_iff, OptionLine.unknownKey?_eq_none_iff] at h
      exact ⟨fun hk => hn (hhelp.mpr hk), h⟩
  · intro h
    rw [if_neg fun hk => h.no_help (hhelp.mp hk), Option.map_eq_none_iff,
      OptionLine.unknownKey?_eq_none_iff]
    exact h.declared

theorem refuses_of_lineError? {command : Command} {line : String} {e : ConfigError}
    (h : lineError? command line = some e) :
    command.Refuses (OptionLine.parse line) e (errorLines command e) := by
  have hhelp := (OptionLine.forCommand line command).hasHelp_iff
  rw [lineError?] at h
  split at h
  · next hn =>
    obtain rfl := Option.some.inj h
    exact .help (hhelp.mp hn) command.explained_helpLines
  · next hn =>
    obtain ⟨key, hkey, rfl⟩ := Option.map_eq_some_iff.mp h
    obtain ⟨front, back, hkeys, hfront, hundeclared⟩ := OptionLine.split_of_unknownKey? hkey
    exact .undeclared (fun hk => hn (hhelp.mpr hk)) hkeys hfront hundeclared
      command.explained_helpLines

def switches (a : Agent) : List Switch :=
  [a.allocations.trace, a.files.trace] ++ ChangeKind.all.map a.changes.switch ++
    a.families.map Family.switch

theorem commands_eq (a : Agent) : a.commands = a.switches.map Switch.command := by
  simp [commands, trackerCommands, switches, Changes.commands, Function.comp_def]

theorem switch_configure (f : Family) (name line : String) :
    (f.configure name line).switch = f.switch.configure name line := by
  rw [Family.configure, Switch.configure]
  split <;> rfl

theorem switches_enable (a : Agent) (name line : String) :
    (a.enable name line).switches = a.switches.map fun s => s.configure name line := by
  simp [switches, enable, ChangeKind.all, Changes.configure, Changes.switch, switch_configure]

theorem command_configure (s : Switch) (name line : String) :
    (s.configure name line).command = s.command := by
  rw [Switch.configure]
  split <;> rfl

theorem commands_enable (a : Agent) (name line : String) :
    (a.enable name line).commands = a.commands := by
  simp [commands_eq, switches_enable, command_configure]

theorem command?_eq_none_iff (a : Agent) (name : String) :
    a.command? name = none ↔ ∀ command ∈ a.commands, command.name ≠ name := by
  simp [command?]

theorem command?_eq_none_iff_owners (a : Agent) (name : String) :
    a.command? name = none ↔ true ∉ a.owners name := by
  rw [command?_eq_none_iff, owners, commands]
  simp only [List.mem_flatten, List.mem_map, List.any_eq_true, beq_iff_eq]
  grind

/-- The agent after a call, also after one that is refused. -/
def afterCall (a : Agent) (call : String × String) : Agent :=
  match a.configure call.1 call.2 with
  | .ok b => b
  | .error _ => a

def afterCalls (a : Agent) (calls : List (String × String)) : Agent := calls.foldl afterCall a

theorem configure_of_unknown {a : Agent} {name : String} (h : a.command? name = none)
    (line : String) : a.configure name line = .error (.unknownCommand name) := by
  rw [configure, h]

theorem configure_of_known {a : Agent} {name : String} {command : Command}
    (h : a.command? name = some command) (line : String) :
    a.configure name line = .ok { a.enable name line with
      configured := (a.configured.filter fun entry => entry.1.name != name) ++
        [(command, line)] } := by
  rw [configure, h]

/-- How the commands stand after calls on an agent that had none configured. -/
structure Tabled (a : Agent) (calls : List (String × String)) : Prop where
  owned_once : (a.commands.map Command.name).Nodup
  once : (a.configured.map fun entry => entry.1.name).Nodup
  ordered : a.configured.Pairwise fun p q => LatestBefore calls p.1.name q.1.name
  mem_iff : ∀ command line, (command, line) ∈ a.configured ↔
    command ∈ a.commands ∧ latestLine? calls command.name = some line
  line_eq : ∀ s ∈ a.switches, s.line =
    (latestLine? calls s.command.name).map fun line => OptionLine.forCommand line s.command
  unread : ∀ f ∈ a.families, f.settings = none

namespace Tabled

variable {a : Agent} {calls : List (String × String)}

theorem nil (hnames : (a.commands.map Command.name).Nodup) (hnone : a.configured = [])
    (hoff : ∀ s ∈ a.switches, s.line = none) (hunread : ∀ f ∈ a.families, f.settings = none) :
    a.Tabled [] where
  owned_once := hnames
  once := by simp [hnone]
  ordered := by simp [hnone]
  mem_iff := by simp [hnone, latestLine?]
  line_eq s hs := by rw [hoff s hs]; rfl
  unread := hunread

theorem refused (h : a.Tabled calls) {call : String × String} (hc : a.command? call.1 = none) :
    a.Tabled (calls ++ [call]) := by
  have hne := (a.command?_eq_none_iff call.1).mp hc
  -- A call for no command is the latest line of none.
  have hsame : ∀ command ∈ a.commands,
      latestLine? (calls ++ [call]) command.name = latestLine? calls command.name :=
    fun command hm => latestLine?_concat_of_ne (hne command hm)
  refine ⟨h.owned_once, h.once, ?_, ?_, ?_, h.unread⟩
  · refine h.ordered.imp_of_mem fun hp _ hpq => hpq.concat ?_
    exact hne _ ((h.mem_iff _ _).mp hp).1
  · intro command line
    rw [h.mem_iff]
    exact and_congr_right fun hm => by rw [hsame command hm]
  · intro s hs
    rw [h.line_eq s hs, hsame]
    rw [commands_eq]
    exact List.mem_map_of_mem hs

theorem accepted (h : a.Tabled calls) {call : String × String} {command : Command}
    (hc : a.command? call.1 = some command) :
    Tabled { a.enable call.1 call.2 with
      configured := (a.configured.filter fun entry => entry.1.name != call.1) ++
        [(command, call.2)] } (calls ++ [call]) := by
  have hname : command.name = call.1 := by simpa using List.find?_some hc
  have hmem : command ∈ a.commands := List.mem_of_find?_eq_some hc
  have hcommands := a.commands_enable call.1 call.2
  refine ⟨?_, ?_, ?_, ?_, ?_, ?_⟩
  · exact hcommands ▸ h.owned_once
  · -- The entry that the new one replaces is the only one of its name.
    rw [List.map_append, List.nodup_append']
    refine ⟨h.once.sublist (List.filter_sublist.map _), by simp, ?_⟩
    simp [hname]
  · refine List.pairwise_append.mpr ⟨?_, by simp, ?_⟩
    · refine (h.ordered.filter _).imp_of_mem fun hp _ hpq => hpq.concat ?_
      simpa using (List.mem_filter.mp hp).2
    · intro p hp q hq
      rw [List.mem_singleton.mp hq, hname]
      exact latestBefore_concat (by simpa using (List.mem_filter.mp hp).2)
  · intro other line
    change _ ↔ other ∈ (a.enable call.1 call.2).commands ∧ _
    rw [hcommands, List.mem_append, List.mem_filter, h.mem_iff, List.mem_singleton, Prod.mk.injEq]
    -- The entries under other names are the old ones.
    by_cases hother : other.name = call.1
    · rw [hother, latestLine?_concat_self]
      have hsame : other ∈ a.commands ↔ other = command := by
        refine ⟨fun ho => ?_, fun ho => ho ▸ hmem⟩
        exact List.inj_on_of_nodup_map h.owned_once ho hmem (hother.trans hname.symm)
      simp [hsame, eq_comm]
    · rw [latestLine?_concat_of_ne hother]
      have hne : other ≠ command := fun ho => hother (ho ▸ hname)
      simp [hother, hne]
  · intro s hs
    change s ∈ (a.enable call.1 call.2).switches at hs
    rw [switches_enable] at hs
    obtain ⟨t, ht, rfl⟩ := List.mem_map.mp hs
    rw [command_configure, Switch.configure]
    split
    · next ht' => rw [ht', latestLine?_concat_self]; rfl
    · next ht' => rw [latestLine?_concat_of_ne ht', h.line_eq t ht]
  · intro f hf
    obtain ⟨g, hg, rfl⟩ := List.mem_map.mp hf
    rw [Family.configure]
    split
    · rfl
    · exact h.unread g hg

theorem afterCall (h : a.Tabled calls) (call : String × String) :
    (a.afterCall call).Tabled (calls ++ [call]) := by
  cases hc : a.command? call.1 with
  | none =>
    rw [Agent.afterCall, configure_of_unknown hc]
    exact h.refused hc
  | some command =>
    rw [Agent.afterCall, configure_of_known hc]
    exact h.accepted hc

theorem afterCalls (h : a.Tabled []) (calls : List (String × String)) :
    (a.afterCalls calls).Tabled calls := by
  induction calls using List.reverseRecOn with
  | nil => exact h
  | append_singleton calls call ih =>
    rw [Agent.afterCalls, List.foldl_append]
    exact ih.afterCall call

theorem isOn_iff (h : a.Tabled calls) {s : Switch} (hs : s ∈ a.switches) :
    s.isOn = true ↔ ∃ line, (s.command, line) ∈ a.configured := by
  have hm : s.command ∈ a.commands := by rw [commands_eq]; exact List.mem_map_of_mem hs
  rw [Switch.isOn, h.line_eq s hs, Option.isSome_map, Option.isSome_iff_exists]
  simp only [h.mem_iff, hm, true_and]

theorem options_eq (h : a.Tabled calls) {s : Switch} (hs : s ∈ a.switches) {line : String}
    (hline : (s.command, line) ∈ a.configured) :
    s.options = OptionLine.forCommand line s.command := by
  rw [Switch.options, h.line_eq s hs, ((h.mem_iff _ _).mp hline).2]
  rfl

end Tabled

theorem tabled_fresh (output : Output) (stack : Stack) (now : Moment) (hook : ExitHook) :
    Tabled { output, stack, now, hook } [] := by
  -- Neither the output nor the clock matters to the commands.
  have hnames : (Agent.commands { now := ⟨0⟩ }).map Command.name |>.Nodup := by decide +kernel
  have hoff : ∀ s ∈ Agent.switches { now := ⟨0⟩ }, s.line = none := by decide +kernel
  have hunread : ∀ f ∈ Agent.families { now := ⟨0⟩ }, f.settings = none := by decide +kernel
  exact .nil hnames rfl hoff hunread

section

variable {a : Agent} {calls : List (String × String)}

theorem check_of_silent (h : a.check.1 = none) : a.check.2 = a := by
  rw [check] at h ⊢
  split at h
  · rfl
  · cases h

theorem check_eq_none_iff (a : Agent) :
    a.check.1 = none ↔
      ∀ command line, (command, line) ∈ a.configured → command.Accepts (OptionLine.parse line) := by
  have hfirst : a.check.1 = none ↔ firstError? a.configured = none := by
    rw [check]
    split
    · next hnone => simp [hnone]
    · next hsome => simp [hsome]
  rw [hfirst, firstError?, List.findSome?_eq_none_iff]
  simp only [Option.map_eq_none_iff, Prod.forall, lineError?_eq_none_iff]

theorem refuses_of_check {e : ConfigError} {b : Agent} (h : a.check = (some e, b)) :
    ∃ front command line back texts,
      a.configured = front ++ (command, line) :: back ∧
      (∀ entry ∈ front, entry.1.Accepts (OptionLine.parse entry.2)) ∧
      command.Refuses (OptionLine.parse line) e texts ∧
      b = { a with output := a.output.withConsole [] texts } := by
  rw [check] at h
  split at h
  · cases h
  · next command e' hfirst =>
    rw [writeAll, Output.writeAll_stderr] at h
    obtain ⟨he, rfl⟩ := Prod.mk.inj h
    obtain rfl := Option.some.inj he
    obtain ⟨front, ⟨command', line⟩, back, htable, hentry, hfront⟩ :=
      List.findSome?_eq_some_iff.mp hfirst
    obtain ⟨_, herror, hentry⟩ := Option.map_eq_some_iff.mp hentry
    obtain ⟨rfl, rfl⟩ := Prod.mk.inj hentry
    refine ⟨front, command', line, back, _, htable, fun p hp => ?_,
      refuses_of_lineError? herror, rfl⟩
    exact (lineError?_eq_none_iff _ _).mp (Option.map_eq_none_iff.mp (hfront p hp))

theorem Tabled.check_eq_none_iff_switches (h : a.Tabled calls) :
    a.check.1 = none ↔ ∀ s ∈ a.switches, s.isOn = true → s.command.Accepts s.options := by
  rw [check_eq_none_iff]
  constructor
  · intro haccepts s hs hon
    obtain ⟨line, hline⟩ := (h.isOn_iff hs).mp hon
    rw [h.options_eq hs hline]
    exact ⟨(haccepts _ _ hline).no_help, (haccepts _ _ hline).declared⟩
  · intro haccepts command line hline
    have hm := ((h.mem_iff _ _).mp hline).1
    rw [commands_eq] at hm
    obtain ⟨s, hs, rfl⟩ := List.mem_map.mp hm
    have hoptions := haccepts s hs ((h.isOn_iff hs).mpr ⟨line, hline⟩)
    rw [h.options_eq hs hline] at hoptions
    exact ⟨hoptions.no_help, hoptions.declared⟩

end

/-- Calls on a fresh agent. One is refused if no tracker owns its command, and then the agent stays
as it was. The table has each configured command once, with its latest line, in the order of the
latest lines, and these are the commands whose switches are on, with the options that were read
from that line. The check finds fault with a line that a tracker goes by, or with none at all; it
reports the first entry of the table that is refused, and what explains this one is all that comes
out, on the error sink. -/
theorem table_agrees_with_trackers [PatternEngine] (output : Output) (stack : Stack) (now : Moment)
    (hook : ExitHook) (calls : List (String × String)) :
    let a := afterCalls { output, stack, now, hook } calls
    (∀ name line,
      (a.configure name line = .error (.unknownCommand name) ↔ true ∉ a.owners name) ∧
      ∀ e, a.configure name line = .error e →
        e = .unknownCommand name ∧ a.afterCall (name, line) = a) ∧
    a.Tabled calls ∧
    (∀ s ∈ a.switches,
      (s.isOn = true ↔ ∃ line, (s.command, line) ∈ a.configured) ∧
      ∀ line, (s.command, line) ∈ a.configured →
        s.options = OptionLine.forCommand line s.command) ∧
    (∀ f ∈ a.families, f.settled = FamilySettings.read f.switch.options) ∧
    (a.check.1 = none ↔ ∀ command line, (command, line) ∈ a.configured →
      command.Accepts (OptionLine.parse line)) ∧
    (a.check.1 = none ↔ ∀ s ∈ a.switches, s.isOn = true → s.command.Accepts s.options) ∧
    (a.check.1 = none → a.check.2 = a) ∧
    ∀ e b, a.check = (some e, b) → ∃ front command line back texts,
      a.configured = front ++ (command, line) :: back ∧
      (∀ entry ∈ front, entry.1.Accepts (OptionLine.parse entry.2)) ∧
      command.Refuses (OptionLine.parse line) e texts ∧
      b = { a with output := a.output.withConsole [] texts } := by
  intro a
  have htabled : a.Tabled calls := (tabled_fresh output stack now hook).afterCalls calls
  refine ⟨fun name line => ?_, htabled, fun s hs => ?_, fun f hf => ?_, a.check_eq_none_iff,
    htabled.check_eq_none_iff_switches, check_of_silent, fun e b => refuses_of_check⟩
  · rw [← command?_eq_none_iff_owners]
    cases hc : a.command? name with
    | none =>
      rw [configure_of_unknown hc]
      refine ⟨by simp, fun e he => ?_⟩
      cases he
      exact ⟨rfl, by rw [afterCall, configure_of_unknown hc]⟩
    | some command =>
      rw [configure_of_known hc]
      exact ⟨by simp, fun e he => by cases he⟩
  · exact ⟨htabled.isOn_iff hs, fun line => htabled.options_eq hs⟩
  · rw [Family.settled, htabled.unread f hf]

/-- A command that is configured again moves to the end, one that is refused leaves no trace. -/
example :
    let a := afterCalls { now := ⟨0⟩ } [("traceOpenFiles", "help"), ("logGeneric1", "formats=%s"),
      ("traceEverything", "x"), ("traceOpenFiles", "logDest=none")]
    (a.configured.map fun entry => (entry.1.name, entry.2)) =
        [("logGeneric1", "formats=%s"), ("traceOpenFiles", "logDest=none")] ∧
      a.check.1 = some (.unknownArgument "formats" "logGeneric1") := by
  decide +kernel

end Agent

end ResourceTrace
