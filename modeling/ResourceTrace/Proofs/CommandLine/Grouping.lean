import Mathlib.Data.List.Basic
import ResourceTrace.CommandLine
import ResourceTrace.Proofs.OptionLine.Image

set_option autoImplicit false

namespace ResourceTrace

namespace OptionLine

def segments (cs : List Char) : List (List Char) :=
  (Text.pieces ',' none cs).filter fun segment => !segment.isEmpty

theorem ne_nil_of_mem_segments {cs segment : List Char} (h : segment ∈ segments cs) :
    segment ≠ [] := by
  simpa using (List.mem_filter.mp h).2

theorem joinable_segments (cs : List Char) : Text.Joinable ',' (segments cs) :=
  (Text.joinable_cut ',' (by decide) cs).sublist List.filter_sublist

theorem segments_join {parts : List (List Char)} (h : Text.Joinable ',' parts)
    (hne : ∀ part ∈ parts, part ≠ []) : segments (Text.join [','] parts) = parts := by
  cases parts with
  | nil => rfl
  | cons part rest =>
    rw [segments, Text.pieces, Option.map_none, h.cut_join (by decide) (by simp)]
    exact List.filter_eq_self.mpr fun s hs => by simpa using hne s hs

theorem readSegments_eq_filterMap (cs : List Char) :
    readSegments cs = (segments cs).filterMap readSegment? := by
  rw [readSegments, segments, List.filterMap_filter]
  refine List.filterMap_congr fun segment _ => ?_
  cases segment with
  | nil => rfl
  | cons c cs => rfl

theorem parse_of_mem_segments {cs segment : List Char} (h : segment ∈ segments cs) :
    (parse (String.ofList segment)).pairs.toList = (readSegment? segment).toList := by
  have hread : readSegments segment = (readSegment? segment).toList := by
    rw [readSegments, Text.pieces, Option.map_none, (joinable_segments cs).whole segment h]
    cases hs : readSegment? segment <;> simp [hs]
  rw [parse, String.toList_ofList, hread]
  refine Keyed.toList_ofList ?_
  cases readSegment? segment <;> simp

end OptionLine

namespace CommandLine

variable (isCommand : String → Bool)

/-- The first piece of a group is that of a command, and it is the only one. -/
structure Group.Led (g : Group) : Prop where
  command : isCommand (String.ofList g.command) = true
  options : ∀ piece ∈ g.options, isCommand (String.ofList piece) = false

def Group.pieces (g : Group) : List (List Char) := g.command :: g.options

theorem group_cons_command {piece : List Char} (h : isCommand (String.ofList piece) = true)
    (rest : List (List Char)) :
    group isCommand (piece :: rest) =
      ([], ⟨piece, (group isCommand rest).1⟩ :: (group isCommand rest).2) := by
  simp [group, h]

theorem group_cons_option {piece : List Char} (h : isCommand (String.ofList piece) = false)
    (rest : List (List Char)) :
    group isCommand (piece :: rest) =
      (piece :: (group isCommand rest).1, (group isCommand rest).2) := by
  simp [group, h]

theorem group_options {pieces : List (List Char)}
    (h : ∀ piece ∈ pieces, isCommand (String.ofList piece) = false) :
    group isCommand pieces = (pieces, []) := by
  induction pieces with
  | nil => rfl
  | cons piece rest ih =>
    rw [List.forall_mem_cons] at h
    rw [group_cons_option isCommand h.1, ih h.2]

theorem not_isCommand_of_mem_group {pieces : List (List Char)} :
    ∀ piece ∈ (group isCommand pieces).1, isCommand (String.ofList piece) = false := by
  induction pieces with
  | nil => simp [group]
  | cons piece rest ih =>
    cases hc : isCommand (String.ofList piece) with
    | true => simp [group_cons_command isCommand hc]
    | false =>
      rw [group_cons_option isCommand hc, List.forall_mem_cons]
      exact ⟨hc, ih⟩

theorem led_of_mem_group {pieces : List (List Char)} :
    ∀ g ∈ (group isCommand pieces).2, g.Led isCommand := by
  induction pieces with
  | nil => simp [group]
  | cons piece rest ih =>
    cases hc : isCommand (String.ofList piece) with
    | true =>
      rw [group_cons_command isCommand hc, List.forall_mem_cons]
      exact ⟨⟨hc, not_isCommand_of_mem_group isCommand⟩, ih⟩
    | false =>
      rw [group_cons_option isCommand hc]
      exact ih

theorem group_flatten (pieces : List (List Char)) :
    (group isCommand pieces).1 ++ (group isCommand pieces).2.flatMap Group.pieces = pieces := by
  induction pieces with
  | nil => rfl
  | cons piece rest ih =>
    cases hc : isCommand (String.ofList piece) with
    | true =>
      rw [group_cons_command isCommand hc, List.nil_append, List.flatMap_cons, Group.pieces,
        List.cons_append, ih]
    | false => rw [group_cons_option isCommand hc, List.cons_append, ih]

variable {isCommand}

theorem Group.Led.filter_pieces {g : Group} (h : g.Led isCommand) :
    g.pieces.filter (fun piece => isCommand (String.ofList piece)) = [g.command] := by
  have hoptions : g.options.filter (fun piece => isCommand (String.ofList piece)) = [] :=
    List.filter_eq_nil_iff.mpr fun piece hp => by simp [h.options piece hp]
  rw [Group.pieces, List.filter_cons, if_pos h.command, hoptions]

theorem filter_flatMap_pieces {groups : List Group} (h : ∀ g ∈ groups, g.Led isCommand) :
    (groups.flatMap Group.pieces).filter (fun piece => isCommand (String.ofList piece)) =
      groups.map Group.command := by
  induction groups with
  | nil => rfl
  | cons g groups ih =>
    rw [List.forall_mem_cons] at h
    rw [List.flatMap_cons, List.filter_append, h.1.filter_pieces, ih h.2]
    rfl

def segments (text : String) : List String := (OptionLine.segments text.toList).map String.ofList

theorem ofList_join (parts : List (List Char)) :
    String.ofList (Text.join [','] parts) = ",".intercalate (parts.map String.ofList) := by
  induction parts with
  | nil => rfl
  | cons part rest ih =>
    cases rest with
    | nil => simp [Text.join]
    | cons next rest =>
      rw [Text.join_cons_cons, String.ofList_append, String.ofList_append, ih]
      simp only [List.map_cons, String.intercalate_cons_cons]

/-- The settings of a line are those of its pieces, each read on its own. -/
theorem pairs_parse (line : String) :
    (OptionLine.parse line).pairs = Keyed.ofList
      ((segments line).flatMap fun piece => (OptionLine.parse piece).pairs.toList) := by
  have hsettings : OptionLine.readSegments line.toList =
      (segments line).flatMap fun piece => (OptionLine.parse piece).pairs.toList := by
    rw [segments, List.flatMap_map, OptionLine.readSegments_eq_filterMap,
      List.filterMap_eq_flatMap_toList]
    exact List.flatMap_congr fun segment hs => (OptionLine.parse_of_mem_segments hs).symm
  rw [← hsettings]
  rfl

section

variable {args : String} {groups : List Group}
  (h : groups.flatMap Group.pieces = OptionLine.segments args.toList)

include h

theorem segments_texts {g : Group} (hg : g ∈ groups) :
    segments g.texts.2 = g.options.map String.ofList := by
  have hsublist : g.options.Sublist (OptionLine.segments args.toList) := by
    rw [← h]
    exact (List.sublist_cons_self g.command g.options).trans
      (List.sublist_flatten_of_mem (List.mem_map_of_mem hg))
  rw [segments, Group.texts, String.toList_ofList, OptionLine.segments_join]
  · exact (OptionLine.joinable_segments args.toList).sublist hsublist
  · exact fun part hp => OptionLine.ne_nil_of_mem_segments (hsublist.subset hp)

theorem flatMap_segments_texts :
    (groups.map Group.texts).flatMap (fun g => g.1 :: segments g.2) = segments args := by
  rw [segments, ← h, List.flatMap_map, List.map_flatMap]
  refine List.flatMap_congr fun g hg => ?_
  rw [segments_texts h hg]
  rfl

end

theorem splitAgentArgs_eq (isCommand : String → Bool) (args : String) :
    splitAgentArgs isCommand args =
      match group isCommand (OptionLine.segments args.toList) with
      | ([], groups) => .ok (groups.map Group.texts)
      | (stray :: _, _) => .error (.unknownCommand (String.ofList stray)) := rfl

theorem splitAgentArgs_error_iff (isCommand : String → Bool) (args : String) (e : ConfigError) :
    splitAgentArgs isCommand args = .error e ↔
      ∃ first rest, segments args = first :: rest ∧ isCommand first = false ∧
        e = .unknownCommand first := by
  rw [splitAgentArgs_eq, segments]
  cases OptionLine.segments args.toList with
  | nil => simp [group]
  | cons piece rest =>
    cases hc : isCommand (String.ofList piece) with
    | true => simp [group_cons_command isCommand hc, hc]
    | false =>
      rw [group_cons_option isCommand hc]
      constructor
      · rintro ⟨⟩
        exact ⟨_, _, rfl, hc, rfl⟩
      · rintro ⟨first, more, hs, -, rfl⟩
        rw [← (List.cons.inj hs).1]

theorem splitAgentArgs_of_command {args : String}
    (h : ∀ first ∈ (segments args).head?, isCommand first = true) :
    ∃ groups : List Group, splitAgentArgs isCommand args = .ok (groups.map Group.texts) ∧
      groups.flatMap Group.pieces = OptionLine.segments args.toList ∧
      ∀ g ∈ groups, g.Led isCommand := by
  have hstray : (group isCommand (OptionLine.segments args.toList)).1 = [] := by
    rw [segments] at h
    cases hs : OptionLine.segments args.toList with
    | nil => rfl
    | cons piece rest => rw [group_cons_command isCommand (h _ (by simp [hs]))]
  have hflatten := group_flatten isCommand (OptionLine.segments args.toList)
  rw [hstray, List.nil_append] at hflatten
  refine ⟨_, ?_, hflatten, led_of_mem_group isCommand⟩
  rw [splitAgentArgs_eq, ← Prod.eta (group _ _), hstray]

/-- Arguments whose first piece is not a command are refused with that piece. All others make one
group for each command, in the same order, and the pieces of all groups are those of the
arguments. An option line has the options of its own group only, and it is read as they are read
one by one. -/
theorem splitAgentArgs_regroups (isCommand : String → Bool) (args : String) :
    (∀ e, splitAgentArgs isCommand args = .error e ↔
      ∃ first rest, segments args = first :: rest ∧ isCommand first = false ∧
        e = .unknownCommand first) ∧
    ((∀ first ∈ (segments args).head?, isCommand first = true) →
      ∃ groups, splitAgentArgs isCommand args = .ok groups ∧
        groups.map Prod.fst = (segments args).filter isCommand ∧
        (groups.flatMap fun g => g.1 :: segments g.2) = segments args ∧
        ∀ g ∈ groups,
          (∀ piece ∈ segments g.2, isCommand piece = false) ∧
          g.2 = ",".intercalate (segments g.2) ∧
          (OptionLine.parse g.2).pairs = Keyed.ofList
            ((segments g.2).flatMap fun piece => (OptionLine.parse piece).pairs.toList)) := by
  refine ⟨splitAgentArgs_error_iff isCommand args, fun hcommand => ?_⟩
  obtain ⟨groups, hsplit, hflatten, hled⟩ := splitAgentArgs_of_command hcommand
  refine ⟨_, hsplit, ?_, flatMap_segments_texts hflatten, ?_⟩
  · rw [segments, ← hflatten, List.filter_map, Function.comp_def, filter_flatMap_pieces hled]
    simp [Group.texts]
  · intro texts htexts
    obtain ⟨g, hg, rfl⟩ := List.mem_map.mp htexts
    have hsegments := segments_texts hflatten hg
    refine ⟨?_, ?_, pairs_parse g.texts.2⟩
    · intro piece hp
      rw [hsegments] at hp
      obtain ⟨option, ho, rfl⟩ := List.mem_map.mp hp
      exact (hled g hg).options option ho
    · rw [hsegments]
      exact ofList_join g.options

/-- Two commands, with empty pieces, commas behind a single and behind a doubled backslash, and a
lone backslash at the end. -/
def escapedArgs : String :=
  "logGeneric1,,format=%s\\,%s,x=a\\\\,b,traceOpenFiles,,oncePerStack,y=\\"

def isEscapedCommand (word : String) : Bool := word == "logGeneric1" || word == "traceOpenFiles"

theorem splitAgentArgs_regroups_escaped :
    segments escapedArgs =
      ["logGeneric1", "format=%s\\,%s", "x=a\\\\,b", "traceOpenFiles", "oncePerStack", "y=\\"] ∧
    (∀ first ∈ (segments escapedArgs).head?, isEscapedCommand first = true) ∧
    ∃ groups, splitAgentArgs isEscapedCommand escapedArgs = .ok groups ∧
      groups.map Prod.fst = ["logGeneric1", "traceOpenFiles"] ∧
      (groups.map fun g => (OptionLine.parse g.2).pairs.toList) =
        [[("format", some "%s,%s"), ("x", some "a\\,b")],
          [("oncePerStack", none), ("y", some "\\")]] ∧
      (groups.flatMap fun g => g.1 :: segments g.2) = segments escapedArgs ∧
      ∀ g ∈ groups,
        (∀ piece ∈ segments g.2, isEscapedCommand piece = false) ∧
        g.2 = ",".intercalate (segments g.2) ∧
        (OptionLine.parse g.2).pairs = Keyed.ofList
          ((segments g.2).flatMap fun piece => (OptionLine.parse piece).pairs.toList) := by
  have hcommand : ∀ first ∈ (segments escapedArgs).head?, isEscapedCommand first = true := by
    decide +kernel
  obtain ⟨groups, hsplit, hcommands, hgroups⟩ :=
    (splitAgentArgs_regroups isEscapedCommand escapedArgs).2 hcommand
  -- The two groups, computed, for the pairs their lines give.
  have hread : splitAgentArgs isEscapedCommand escapedArgs =
      .ok [("logGeneric1", "format=%s\\,%s,x=a\\\\,b"),
        ("traceOpenFiles", "oncePerStack,y=\\")] := by
    decide +kernel
  obtain rfl := Except.ok.inj (hread.symm.trans hsplit)
  exact ⟨by decide +kernel, hcommand, _, hsplit, rfl, by decide +kernel, hgroups⟩

end CommandLine

end ResourceTrace
