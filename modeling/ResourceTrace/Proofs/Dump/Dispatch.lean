import Mathlib.Data.List.Induction
import ResourceTrace.Dump.Catalogue
import ResourceTrace.Proofs.Commands.Table

set_option autoImplicit false

namespace ResourceTrace

namespace Catalogue

variable {α σ : Type}

def ofRegistrations (regs : List (Command × α)) : Catalogue α :=
  regs.foldl (fun c r => c.register r.1 r.2) {}

def Latest (regs : List (Command × α)) (command : Command) (action : α) : Prop :=
  ∃ earlier later, regs = earlier ++ (command, action) :: later ∧
    ∀ r ∈ later, r.1.name ≠ command.name

theorem ofRegistrations_concat (regs : List (Command × α)) (r : Command × α) :
    ofRegistrations (regs ++ [r]) = (ofRegistrations regs).register r.1 r.2 := by
  simp [ofRegistrations]

theorem find?_insertEntry (e : DumpEntry α) (entries : List (DumpEntry α)) (name : String) :
    (insertEntry e entries).find? (fun d => d.command.name == name) =
      if e.command.name = name then some e else entries.find? fun d => d.command.name == name := by
  induction entries with
  | nil => by_cases hname : e.command.name = name <;> simp [insertEntry, hname]
  | cons d rest ih =>
    rw [insertEntry]
    split
    -- the entry that is replaced has the same name
    · next h => by_cases hname : e.command.name = name <;> simp [← h, hname]
    · next h =>
      split
      · by_cases hname : e.command.name = name <;> simp [hname]
      · by_cases hname : d.command.name = name
        · have hne : e.command.name ≠ name := fun he => h (he.trans hname.symm)
          simp [hname, hne]
        · simp [hname, ih]

theorem find?_register (c : Catalogue α) (command : Command) (action : α) (name : String) :
    (c.register command action).find? name =
      if command.name = name then some ⟨command, action⟩ else c.find? name :=
  find?_insertEntry ⟨command, action⟩ c.entries name

theorem latest_concat_self {regs : List (Command × α)} {command : Command} {action : α} :
    Latest (regs ++ [(command, action)]) command action :=
  ⟨regs, [], rfl, by simp⟩

theorem Latest.concat {regs : List (Command × α)} {command : Command} {action : α}
    {r : Command × α} (h : Latest regs command action) (hne : r.1.name ≠ command.name) :
    Latest (regs ++ [r]) command action := by
  obtain ⟨earlier, later, rfl, hlater⟩ := h
  refine ⟨earlier, later ++ [r], by simp, fun s hs => ?_⟩
  rcases List.mem_append.mp hs with hs | hs
  · exact hlater s hs
  · rwa [List.mem_singleton.mp hs]

theorem find?_ofRegistrations_of_latest {regs : List (Command × α)} {command : Command} {action : α}
    (h : Latest regs command action) :
    (ofRegistrations regs).find? command.name = some ⟨command, action⟩ := by
  obtain ⟨earlier, later, rfl, hlater⟩ := h
  induction later using List.reverseRecOn with
  | nil => rw [ofRegistrations_concat, find?_register, if_pos rfl]
  | append_singleton later r ih =>
    have hne := hlater r (by simp)
    have hrest := ih fun s hs => hlater s (List.mem_append_left _ hs)
    rw [← List.cons_append, ← List.append_assoc, ofRegistrations_concat, find?_register,
      if_neg hne, hrest]

theorem latest_or_unregistered (regs : List (Command × α)) (name : String) :
    (∃ command action, command.name = name ∧ Latest regs command action) ∨
      ∀ r ∈ regs, r.1.name ≠ name := by
  induction regs using List.reverseRecOn with
  | nil => simp
  | append_singleton regs r ih =>
    by_cases hname : r.1.name = name
    · exact .inl ⟨r.1, r.2, hname, latest_concat_self⟩
    rcases ih with ⟨command, action, rfl, hlatest⟩ | hnone
    · exact .inl ⟨command, action, rfl, hlatest.concat hname⟩
    · refine .inr fun s hs => ?_
      rcases List.mem_append.mp hs with hs | hs
      · exact hnone s hs
      · rwa [List.mem_singleton.mp hs]

theorem find?_ofRegistrations_of_unregistered {regs : List (Command × α)} {name : String}
    (h : ∀ r ∈ regs, r.1.name ≠ name) : (ofRegistrations regs).find? name = none := by
  induction regs using List.reverseRecOn with
  | nil => rfl
  | append_singleton regs r ih =>
    rw [ofRegistrations_concat, find?_register, if_neg (h r (by simp))]
    exact ih fun s hs => h s (List.mem_append_left _ hs)

/-- The request is none for help; a dump is named before its first comma, and the text of the
options stands behind it. -/
structure Names (request name options : String) : Prop where
  not_help : request ≠ "help"
  no_topic : ¬"help:".toList <+: request.toList
  no_comma : ',' ∉ name.toList
  text : request = name ∧ options = "" ∨ request = name ++ "," ++ options

theorem splitRequest_of_names {request name options : String} (h : Names request name options) :
    splitRequest request.toList = (name, options) := by
  rw [splitRequest]
  rcases h.text with ⟨rfl, rfl⟩ | rfl
  · rw [Text.splitAtFirst_eq_none_iff.mpr h.no_comma, String.ofList_toList]
  · have htext : (name ++ "," ++ options).toList = name.toList ++ ',' :: options.toList := by simp
    rw [htext, Text.splitAtFirst_append h.no_comma]
    simp only [String.ofList_toList]

theorem help_or_names (request : String) :
    request = "help" ∨ (∃ topic, request = "help:" ++ topic) ∨
      ∃ name options, Names request name options := by
  by_cases hhelp : request = "help"
  · exact .inl hhelp
  by_cases htopic : "help:".toList <+: request.toList
  · obtain ⟨topic, htopic⟩ := htopic
    exact .inr (.inl ⟨String.ofList topic, String.toList_inj.mp (by simp [← htopic])⟩)
  refine .inr (.inr ?_)
  cases hsplit : Text.splitAtFirst ',' request.toList with
  | none =>
    have hcomma := Text.splitAtFirst_eq_none_iff.mp hsplit
    exact ⟨request, "", hhelp, htopic, hcomma, .inl ⟨rfl, rfl⟩⟩
  | some parts =>
    obtain ⟨front, rest⟩ := parts
    obtain ⟨hcomma, htext⟩ := Text.eq_append_of_splitAtFirst hsplit
    refine ⟨String.ofList front, String.ofList rest, hhelp, htopic, by simpa using hcomma, .inr ?_⟩
    exact String.toList_inj.mp (by simp [htext])

theorem route_topic (c : Catalogue α) (topic : String) :
    c.route ("help:" ++ topic) = match c.find? topic with
      | some e => .ok (.help e.command)
      | none => .error (.unknownHelpTopic topic) := by
  have hne : "help:" ++ topic ≠ "help" := by
    intro h
    have hlength := congrArg String.length h
    rw [String.length_append] at hlength
    change 5 + topic.length = 4 at hlength
    omega
  rw [route, if_neg hne, String.toList_append, Text.dropFront?_append]
  cases hfind : c.find? topic <;> simp [hfind]

theorem route_of_names (c : Catalogue α) {request name options : String}
    (h : Names request name options) : c.route request = c.routeDump name options := by
  have hdrop : Text.dropFront? "help:".toList request.toList = none :=
    Option.eq_none_iff_forall_ne_some.mpr fun topic ht =>
      h.no_topic ⟨topic, (Text.eq_append_of_dropFront? ht).symm⟩
  rw [route, if_neg h.not_help, hdrop, splitRequest_of_names h]

/-- The request runs a dump: the latest one under its name, for options that its command accepts. -/
structure Asks (regs : List (Command × α)) (request : String) (command : Command) (action : α)
    (line : OptionLine) : Prop where
  latest : Latest regs command action
  named : ∃ options, Names request command.name options ∧ line = .forCommand options command
  accepted : command.Accepts line

inductive Explains (regs : List (Command × α)) (request : String) : List String → Prop
  | list (h : request = "help") :
    Explains regs request (["The following dumps are supported:"] ++
      ((ofRegistrations regs).entries.map fun e =>
        s!"{e.command.name}: {e.command.description}") ++
      ["Use dump=help:<dump> for all options for a specific dump."])
  | topic {command : Command} {action : α} {lines : List String}
    (h : request = "help:" ++ command.name) (hlatest : Latest regs command action)
    (hlines : command.Explained lines) : Explains regs request lines
  | option {command : Command} {action : α} {options : String} {lines : List String}
    (hlatest : Latest regs command action) (h : Names request command.name options)
    (hhelp : "help" ∈ (OptionLine.parse options).keys) (hlines : command.Explained lines) :
    Explains regs request lines

inductive Fails (regs : List (Command × α)) (request : String) :
    DispatchError → List String → Prop
  | topic {topic : String} (h : request = "help:" ++ topic)
    (hnone : ∀ r ∈ regs, r.1.name ≠ topic) : Fails regs request (.unknownHelpTopic topic)
      [s!"Could not find dump type '{topic}'. Use dump=help for a list of supported types."]
  | dump {name options : String} (h : Names request name options)
    (hnone : ∀ r ∈ regs, r.1.name ≠ name) :
    Fails regs request (.unknownDump name) [s!"No dump registered for dump type '{name}'"]
  | argument {command : Command} {action : α} {options key : String}
    {front back lines : List String}
    (hlatest : Latest regs command action) (h : Names request command.name options)
    (hhelp : "help" ∉ (OptionLine.parse options).keys)
    (hkeys : (OptionLine.parse options).keys = front ++ key :: back)
    (hfront : ∀ k ∈ front, command.hasOption k = true) (hkey : command.hasOption key = false)
    (hlines : command.Explained lines) : Fails regs request (.unknownArgument key command.name)
      (s!"Unknown argument '{key}' for dump '{command.name}'." :: lines)

def Declines (regs : List (Command × α)) (request : String) (h : DumpHandlers α σ) (state : σ)
    (tried : Except DispatchError Bool × σ) (answer : Bool × σ) : Prop :=
  (∃ lines, Explains regs request lines ∧
    tried = (.ok false, h.print lines state) ∧ answer = (false, h.print lines state)) ∨
  ∃ e lines, Fails regs request e lines ∧
    tried = (.error e, state) ∧ answer = (false, h.complain lines state)

variable {regs : List (Command × α)} {request : String} {command : Command} {action : α}
  {line : OptionLine}

theorem Asks.route (h : Asks regs request command action line) :
    (ofRegistrations regs).route request = .ok (.perform action command.name line) := by
  obtain ⟨options, hnames, rfl⟩ := h.named
  have hhelp : (OptionLine.forCommand options command).hasHelp = false :=
    Bool.eq_false_iff.mpr fun hhas => h.accepted.no_help ((OptionLine.hasHelp_iff _).mp hhas)
  have hdeclared := OptionLine.unknownKey?_eq_none_iff.mpr h.accepted.declared
  rw [route_of_names _ hnames, routeDump, find?_ofRegistrations_of_latest h.latest]
  simp [hhelp, hdeclared]

theorem Asks.tryDispatch (h : Asks regs request command action line) (handlers : DumpHandlers α σ)
    (state : σ) : (ofRegistrations regs).tryDispatch handlers request state =
      (.ok (handlers.perform action line state).1, (handlers.perform action line state).2) := by
  rw [Catalogue.tryDispatch, h.route]

theorem Asks.dispatch (h : Asks regs request command action line) (handlers : DumpHandlers α σ)
    (state : σ) : (ofRegistrations regs).dispatch handlers request state =
      handlers.perform action line state := by
  rw [Catalogue.dispatch, h.tryDispatch]

theorem declines_of_explains {lines : List String} {routing : Routing α}
    (hroute : (ofRegistrations regs).route request = .ok routing)
    (hperform : ∀ action name line, routing ≠ .perform action name line)
    (htext : (ofRegistrations regs).helpText routing = lines) (hlines : Explains regs request lines)
    (handlers : DumpHandlers α σ) (state : σ) : Declines regs request handlers state
      ((ofRegistrations regs).tryDispatch handlers request state)
      ((ofRegistrations regs).dispatch handlers request state) := by
  have htry : (ofRegistrations regs).tryDispatch handlers request state =
      (.ok false, handlers.print lines state) := by
    rw [Catalogue.tryDispatch, hroute, ← htext]
    cases routing with
    | perform action name line => exact absurd rfl (hperform action name line)
    | list => rfl
    | help command => rfl
  exact .inl ⟨lines, hlines, htry, by rw [Catalogue.dispatch, htry]⟩

theorem declines_of_fails {e : DispatchError} {lines : List String}
    (hroute : (ofRegistrations regs).route request = .error e)
    (htext : (ofRegistrations regs).complaint e = lines) (hlines : Fails regs request e lines)
    (handlers : DumpHandlers α σ) (state : σ) : Declines regs request handlers state
      ((ofRegistrations regs).tryDispatch handlers request state)
      ((ofRegistrations regs).dispatch handlers request state) := by
  have htry : (ofRegistrations regs).tryDispatch handlers request state = (.error e, state) := by
    rw [Catalogue.tryDispatch, hroute]
  exact .inr ⟨e, lines, hlines, htry, by rw [Catalogue.dispatch, htry, ← htext]⟩

/-- A help option is answered before an option that is not declared. -/
theorem asks_or_declines_of_latest {options : String} (hlatest : Latest regs command action)
    (hnames : Names request command.name options) (handlers : DumpHandlers α σ) (state : σ) :
    Asks regs request command action (.forCommand options command) ∨
      Declines regs request handlers state
        ((ofRegistrations regs).tryDispatch handlers request state)
        ((ofRegistrations regs).dispatch handlers request state) := by
  have hfind := find?_ofRegistrations_of_latest hlatest
  have hroute := route_of_names (ofRegistrations regs) hnames
  have hhas := (OptionLine.forCommand options command).hasHelp_iff
  rw [routeDump, hfind] at hroute
  cases hhelp : (OptionLine.forCommand options command).hasHelp with
  | true =>
    simp only [hhelp, if_true] at hroute
    exact .inr (declines_of_explains hroute (by simp) rfl
      (.option hlatest hnames (hhas.mp hhelp) command.explained_helpLines) handlers state)
  | false =>
    have hnot : "help" ∉ (OptionLine.parse options).keys := fun h =>
      Bool.eq_false_iff.mp hhelp (hhas.mpr h)
    cases hkey : (OptionLine.forCommand options command).unknownKey? with
    | none =>
      have hdeclared := OptionLine.unknownKey?_eq_none_iff.mp hkey
      exact .inl ⟨hlatest, ⟨options, hnames, rfl⟩, hnot, hdeclared⟩
    | some key =>
      obtain ⟨front, back, hkeys, hfront, hundeclared⟩ := OptionLine.split_of_unknownKey? hkey
      simp only [hhelp, hkey] at hroute
      have htext : (ofRegistrations regs).complaint (.unknownArgument key command.name) =
          s!"Unknown argument '{key}' for dump '{command.name}'." :: command.helpLines := by
        rw [complaint, hfind]
        rfl
      exact .inr (declines_of_fails hroute htext
        (.argument hlatest hnames hnot hkeys hfront hundeclared command.explained_helpLines)
        handlers state)

theorem asks_or_declines (regs : List (Command × α)) (request : String)
    (handlers : DumpHandlers α σ) (state : σ) :
    (∃ command action line, Asks regs request command action line) ∨
      Declines regs request handlers state
        ((ofRegistrations regs).tryDispatch handlers request state)
        ((ofRegistrations regs).dispatch handlers request state) := by
  rcases help_or_names request with rfl | ⟨topic, rfl⟩ | ⟨name, options, hnames⟩
  · have hroute : (ofRegistrations regs).route "help" = .ok .list := if_pos rfl
    exact .inr (declines_of_explains hroute (by simp) rfl (.list rfl) handlers state)
  · have hroute := route_topic (ofRegistrations regs) topic
    rcases latest_or_unregistered regs topic with ⟨command, action, rfl, hlatest⟩ | hnone
    · rw [find?_ofRegistrations_of_latest hlatest] at hroute
      exact .inr (declines_of_explains hroute (by simp) rfl
        (.topic rfl hlatest command.explained_helpLines) handlers state)
    · rw [find?_ofRegistrations_of_unregistered hnone] at hroute
      exact .inr (declines_of_fails hroute rfl (.topic rfl hnone) handlers state)
  · rcases latest_or_unregistered regs name with ⟨command, action, rfl, hlatest⟩ | hnone
    · exact (asks_or_declines_of_latest hlatest hnames handlers state).imp_left
        fun hask => ⟨command, action, _, hask⟩
    · have hroute := route_of_names (ofRegistrations regs) hnames
      rw [routeDump, find?_ofRegistrations_of_unregistered hnone] at hroute
      exact .inr (declines_of_fails hroute rfl (.dump hnames hnone) handlers state)

/-- Handlers that also note which dumps they perform, and for which options. -/
def watched (h : DumpHandlers α σ) : DumpHandlers α (σ × List (α × OptionLine)) where
  perform action options state :=
    let (emitted, rest) := h.perform action options state.1
    (emitted, rest, state.2 ++ [(action, options)])
  print lines state := (h.print lines state.1, state.2)
  complain lines state := (h.complain lines state.1, state.2)

section Runs

variable (regs : List (Command × α)) (request : String) (handlers : DumpHandlers α σ) (state : σ)

def runs : List (α × OptionLine) :=
  ((ofRegistrations regs).dispatch (watched handlers) request (state, [])).2.2

theorem runs_of_asks (h : Asks regs request command action line) :
    runs regs request handlers state = [(action, line)] := by
  rw [runs, h.dispatch]
  rfl

theorem runs_of_no_asks (h : ∀ command action line, ¬Asks regs request command action line) :
    runs regs request handlers state = [] := by
  rw [runs]
  rcases asks_or_declines regs request (watched handlers) (state, []) with
    ⟨command, action, line, hask⟩ | ⟨_, _, _, hdispatch⟩ | ⟨_, _, _, _, hdispatch⟩
  · exact absurd hask (h command action line)
  · rw [hdispatch]
    rfl
  · rw [hdispatch]
    rfl

theorem runs_eq_singleton_iff : runs regs request handlers state = [(action, line)] ↔
    ∃ command, Asks regs request command action line := by
  refine ⟨fun hruns => ?_, fun ⟨command, h⟩ => runs_of_asks regs request handlers state h⟩
  by_cases h : ∃ command action line, Asks regs request command action line
  · obtain ⟨command, action', line', h⟩ := h
    have heq := (runs_of_asks regs request handlers state h).symm.trans hruns
    obtain ⟨rfl, rfl⟩ : action' = action ∧ line' = line := by simpa using heq
    exact ⟨command, h⟩
  · push Not at h
    rw [runs_of_no_asks regs request handlers state h] at hruns
    cases hruns

theorem runs_eq_nil_iff : runs regs request handlers state = [] ↔
    ∀ command action line, ¬Asks regs request command action line := by
  refine ⟨fun hruns command action line h => ?_, runs_of_no_asks regs request handlers state⟩
  rw [runs_of_asks regs request handlers state h] at hruns
  cases hruns

end Runs

theorem Asks.name_plain (h : Asks regs request command action line) :
    ',' ∉ command.name.toList ∧ ¬"help:".toList <+: command.name.toList ∧
      (command.name = "help" → "help,".toList <+: request.toList) := by
  obtain ⟨options, hnames, -⟩ := h.named
  refine ⟨hnames.no_comma, fun htopic => hnames.no_topic ?_, fun hname => ?_⟩
  · rcases hnames.text with ⟨rfl, -⟩ | rfl
    · exact htopic
    · rw [String.toList_append, String.toList_append, List.append_assoc]
      exact htopic.trans (List.prefix_append ..)
  · rcases hnames.text with ⟨rfl, -⟩ | rfl
    · exact absurd hname hnames.not_help
    · rw [hname, String.toList_append]
      exact List.prefix_append ..

/-- A request runs the latest dump under its name, once, or no dump at all. -/
theorem dispatch_runs_latest (regs : List (Command × α)) (request : String)
    (handlers : DumpHandlers α σ) (state : σ) :
    (∀ action line, runs regs request handlers state = [(action, line)] ↔
      ∃ command, Asks regs request command action line) ∧
    (runs regs request handlers state = [] ↔
      ∀ command action line, ¬Asks regs request command action line) ∧
    (∀ command action line, Asks regs request command action line →
      (ofRegistrations regs).tryDispatch handlers request state =
        (.ok (handlers.perform action line state).1, (handlers.perform action line state).2) ∧
      (ofRegistrations regs).dispatch handlers request state =
        handlers.perform action line state) ∧
    ((∀ command action line, ¬Asks regs request command action line) →
      Declines regs request handlers state
        ((ofRegistrations regs).tryDispatch handlers request state)
        ((ofRegistrations regs).dispatch handlers request state)) ∧
    ∀ command action line, Asks regs request command action line →
      ',' ∉ command.name.toList ∧ ¬"help:".toList <+: command.name.toList ∧
        (command.name = "help" → "help,".toList <+: request.toList) := by
  refine ⟨fun _ _ => runs_eq_singleton_iff regs request handlers state,
    runs_eq_nil_iff regs request handlers state,
    fun command action line h => ⟨h.tryDispatch handlers state, h.dispatch handlers state⟩,
    fun h => ?_, fun command action line h => h.name_plain⟩
  exact (asks_or_declines regs request handlers state).resolve_left
    fun ⟨command, action, line, hask⟩ => h command action line hask

/-- Of two dumps under one name the later one runs, and is the one that is explained. The lines for
the output and those for the errors are kept apart. -/
theorem dispatch_runs_latest_replaced :
    let old := Command.create "openFiles" "Counts open files." []
    let files := Command.create "openFiles" "Dumps open files." [("mustContain", "Pattern.")]
    let other := Command.create "help:openFiles" "Never runs." []
    let regs := [(old, 1), (other, 2), (files, 3)]
    let handlers : DumpHandlers Nat (List String × List String) :=
      ⟨fun _ _ s => (true, s), fun lines s => (s.1 ++ lines, s.2), fun lines s => (s.1, s.2 ++ lines)⟩
    let help := ["Help for command 'openFiles':", "Description: Dumps open files.",
      "The following options are supported:", "mustContain: Pattern."]
    let answer (request : String) := (ofRegistrations regs).dispatch handlers request ([], [])
    runs regs "openFiles,mustContain=log" handlers ([], []) =
        [(3, .forCommand "mustContain=log" files)] ∧
      answer "help" = (false, ["The following dumps are supported:",
        "help:openFiles: Never runs.", "openFiles: Dumps open files.",
        "Use dump=help:<dump> for all options for a specific dump."], []) ∧
      answer "help:openFiles" = (false, help, []) ∧
      answer "openFiles,x,help" = (false, help, []) ∧
      answer "openFiles,x" = (false, [], "Unknown argument 'x' for dump 'openFiles'." :: help) ∧
      answer "files" = (false, [], ["No dump registered for dump type 'files'"]) ∧
      answer "help:files" = (false, [],
        ["Could not find dump type 'files'. Use dump=help for a list of supported types."]) := by
  intro old files other regs handlers help answer
  refine ⟨?_, by decide +kernel, by decide +kernel, by decide +kernel, by decide +kernel,
    by decide +kernel, by decide +kernel⟩
  exact ((dispatch_runs_latest regs "openFiles,mustContain=log" handlers ([], [])).1 3 _).mpr
    ⟨files, ⟨[(old, 1), (other, 2)], [], rfl, by simp⟩,
      ⟨"mustContain=log", ⟨by decide, by decide, by decide, .inr (by decide)⟩, rfl⟩,
      by decide, by decide⟩

theorem dump_called_help_runs :
    let help := Command.create "help" "" []
    let handlers : DumpHandlers Nat (List Nat) :=
      ⟨fun n _ runs => (true, runs ++ [n]), fun _ runs => runs, fun _ runs => runs⟩
    (ofRegistrations [(help, 7)]).dispatch handlers "help," [] = (true, [7]) := by
  decide

end Catalogue

end ResourceTrace
