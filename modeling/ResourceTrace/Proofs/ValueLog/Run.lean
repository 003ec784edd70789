import ResourceTrace.Agent.Commands
import ResourceTrace.Pattern.Interpreter
import ResourceTrace.Proofs.Event.Isolation
import ResourceTrace.Proofs.Output.Writing
import ResourceTrace.Proofs.ValueLog.History

set_option autoImplicit false

namespace ResourceTrace

open ValueLog

@[simp] theorem Family.number_configure (g : Family) (name line : String) :
    (g.configure name line).number = g.number := by
  unfold Family.configure
  split <;> rfl

namespace Agent

def valueSite (a : Agent) (thread family : Nat) : Site := ⟨thread, a.table.id, Logger.values family⟩

theorem valueSite_inj {a : Agent} {t u f g : Nat} :
    a.valueSite t f = a.valueSite u g ↔ t = u ∧ f = g := by
  simp [valueSite, Logger.values]

theorem numbers_setFamily (a : Agent) (f : Family) :
    (a.setFamily f).families.map Family.number = a.families.map Family.number := by
  rw [setFamily, List.map_map]
  refine List.map_congr_left fun g _ => ?_
  by_cases hg : g.number = f.number
  · simp [hg]
  · simp [hg]

theorem forall_setFamily {a : Agent} {f : Family} {p : Family → Prop} (hf : p f)
    (hothers : ∀ g ∈ a.families, g.number ≠ f.number → p g) :
    ∀ g ∈ (a.setFamily f).families, p g := by
  intro g hg
  obtain ⟨k, hk, rfl⟩ := List.mem_map.mp hg
  split
  · exact hf
  · next hne => exact hothers k hk hne

theorem mem_family {a : Agent} {f : Nat} {g : Family} (hg : a.family? f = some g) :
    g ∈ a.families ∧ g.number = f :=
  ⟨List.mem_of_find?_eq_some hg, by simpa using List.find?_some hg⟩

theorem number_ne {a : Agent} {f : Nat} (hnone : a.family? f = none) {g : Family}
    (hg : g ∈ a.families) : g.number ≠ f := by
  simpa using List.find?_eq_none.mp hnone g hg

def fullMessage (family : Nat) : String :=
  s!"generic logger {family}: {(StagingError.positionOutOfRange 64 64).message}"

end Agent

def Output.hand (o : Output) (stack : Stack) : Option (FamilySettings × String) → Output
  | none => o
  | some (s, message) =>
    let (sink, o) := o.resolve s.options
    o.log sink s.options stack message

theorem Output.hand_some (o : Output) (stack : Stack) (s : FamilySettings) (message : String) :
    o.hand stack (some (s, message)) =
      (o.resolve s.options).2.writeAll (o.resolve s.options).1
        (messageLines s.options stack message) := by
  rw [hand]
  exact log_eq_writeAll ..

section

variable [PatternEngine]

namespace Family

@[simp] theorem number_log (g : Family) (event : Buffer) (stack : Stack) (o : Output) :
    (g.log event stack o).1.number = g.number := by
  rw [log]
  dsimp only
  split
  · rfl
  · split
    · rfl
    · split <;> rfl

theorem log_of_settled {g : Family} {s : FamilySettings} {notes : List String}
    (hs : g.settled = ⟨s, notes⟩) (e : Event) (o : Output) :
    g.log e.values e.stack o =
      if e.Passes s ∧ ¬(s.oncePerStack = true ∧ e.frames ∈ g.seen) then
        ({ g with
            settings := some s
            seen := if s.oncePerStack then e.frames :: g.seen else g.seen },
          (o.writeAll .stderr notes).hand e.stack (some (s, s.message g.number e.values)))
      else ({ g with settings := some s }, o.writeAll .stderr notes) := by
  have hrejected : (!s.filters.all (·.accepts e.values)) = true ↔ ¬e.Passes s := by
    simp [Event.Passes]
  have hrepeated : (s.oncePerStack && g.seen.contains (e.stack.map Frame.text)) = true ↔
      s.oncePerStack = true ∧ e.frames ∈ g.seen := by
    simp [Event.frames]
  rw [log, hs]
  dsimp only
  by_cases hp : e.Passes s
  · rw [if_neg (mt hrejected.mp (not_not_intro hp))]
    by_cases hr : s.oncePerStack = true ∧ e.frames ∈ g.seen
    · rw [if_pos (hrepeated.mpr hr), if_neg fun hc => hc.2 hr]
    · have hlogged : e.Passes s ∧ ¬(s.oncePerStack = true ∧ e.frames ∈ g.seen) := ⟨hp, hr⟩
      rw [if_neg (mt hrepeated.mp hr), if_pos hlogged]
      cases s.oncePerStack <;> rfl
  · rw [if_pos (hrejected.mpr hp), if_neg fun hc => hp hc.1]

/-- A family after a history: its line is the latest one, its settings have been read from that
line if an event needed them, and the stacks it has seen are those of the events it has logged. -/
structure Follows (g : Family) (h : History) : Prop where
  command : g.switch.command = Family.command g.number
  line : g.switch.line =
    (h.line? g.number).map fun line => OptionLine.forCommand line (Family.command g.number)
  settings : g.settings =
    if h.events g.number = [] then none
    else (h.line? g.number).map fun line => (ValueLog.settings g.number line).value
  seen : ∀ frames, frames ∈ g.seen ↔ ∃ line, h.line? g.number = some line ∧
    (ValueLog.settings g.number line).value.oncePerStack = true ∧
    ∃ e ∈ h.events g.number, e.Passes (ValueLog.settings g.number line).value ∧ e.frames = frames

namespace Follows

variable {g : Family} {h : History} {c : Call}

theorem fresh (number : Nat) : (Family.create number).Follows [] where
  command := rfl
  line := rfl
  settings := rfl
  seen := by simp [Family.create, History.line?]

theorem congr (hg : g.Follows h) (hline : History.line? g.number (c :: h) = h.line? g.number)
    (hevents : History.events g.number (c :: h) = h.events g.number) : g.Follows (c :: h) where
  command := hg.command
  line := by rw [hline, hg.line]
  settings := by rw [hline, hevents, hg.settings]
  seen := by rw [hline, hevents]; exact hg.seen

theorem of_not_concerns (hg : g.Follows h) (hc : ¬c.concerns g.number) : g.Follows (c :: h) :=
  hg.congr (History.line?_of_not_concerns hc) (History.events_of_not_concerns hc)

theorem of_log (hg : g.Follows h) {f : Nat} {v : Value} (hc : c.action = .log f v) :
    g.Follows (c :: h) :=
  hg.congr (by simp [History.line?, hc]) (by simp [History.events, hc])

theorem of_oversized (hg : g.Follows h) {f : Nat} {v : Value} (hc : c.action = .logLast f v)
    (hfits : ¬(h.event c.thread f v c.stack).Fits) : g.Follows (c :: h) := by
  refine hg.congr (by simp [History.line?, hc]) ?_
  simp only [History.events, hc]
  rw [if_neg]
  rintro ⟨rfl, hf⟩
  exact hfits hf

theorem of_unconfigured (hg : g.Follows h) (hline : h.line? g.number = none) {f : Nat} {v : Value}
    (hc : c.action = .logLast f v) : g.Follows (c :: h) := by
  have hline' : History.line? g.number (c :: h) = none := by simpa [History.line?, hc]
  have hsettings : g.settings = none := by simp [hg.settings, hline]
  have hseen : ∀ frames, frames ∉ g.seen := by simp [hg.seen, hline]
  exact ⟨hg.command, by rw [hg.line, hline, hline'], by simp [hline', hsettings],
    by simp [hline', hseen]⟩

theorem configure (hg : g.Follows h) {name line : String} (hc : c.action = .configure name line) :
    (g.configure name line).Follows (c :: h) := by
  by_cases hn : name = (Family.command g.number).name
  · have hname : g.switch.command.name = name := by rw [hg.command, hn]
    have hline : History.line? g.number (c :: h) = some line := by simp [History.line?, hc, hn]
    have hevents : History.events g.number (c :: h) = [] := by simp [History.events, hc, hn]
    rw [Family.configure, if_pos hname]
    exact ⟨hg.command, by simp [hline, Switch.enable, hg.command], by simp [hevents],
      by simp [hevents]⟩
  · have hname : g.switch.command.name ≠ name := by rw [hg.command]; exact Ne.symm hn
    have hother : ¬c.concerns g.number := by simpa [Call.concerns, hc] using hn
    rw [Family.configure, if_neg hname]
    exact hg.of_not_concerns hother

theorem isOn_iff (hg : g.Follows h) :
    g.switch.isOn = true ↔ ∃ line, h.line? g.number = some line := by
  rw [Switch.isOn, hg.line, Option.isSome_map, Option.isSome_iff_exists]

theorem line?_eq_none (hg : g.Follows h) (hoff : ¬g.switch.isOn = true) :
    h.line? g.number = none :=
  Option.eq_none_iff_forall_ne_some.mpr fun line hline => hoff (hg.isOn_iff.mpr ⟨line, hline⟩)

theorem settled_eq (hg : g.Follows h) {line : String} (hline : h.line? g.number = some line) :
    g.settled = ⟨(ValueLog.settings g.number line).value, h.reports g.number⟩ := by
  have hoptions : g.switch.options = OptionLine.forCommand line (Family.command g.number) := by
    simp [Switch.options, hg.line, hline]
  by_cases he : h.events g.number = []
  · simp only [settled, hg.settings, he, if_true, hoptions, History.reports, hline]
    rfl
  · simp only [settled, hg.settings, he, if_false, hline, Option.map_some, History.reports]
    rfl

theorem mem_seen_iff (hg : g.Follows h) {line : String} (hline : h.line? g.number = some line)
    (frames : List String) :
    frames ∈ g.seen ↔ (ValueLog.settings g.number line).value.oncePerStack = true ∧
      ∃ d ∈ h.events g.number,
        d.Passes (ValueLog.settings g.number line).value ∧ d.frames = frames := by
  simp only [hg.seen, hline, Option.some.injEq, exists_eq_left']

theorem log_eq (hg : g.Follows h) {line : String} (hline : h.line? g.number = some line)
    {e : Event} (hfits : e.Fits) (o : Output) :
    (g.log e.values e.stack o).2 =
      (o.writeAll .stderr (h.reports g.number)).hand e.stack (h.handed g.number e) := by
  rw [log_of_settled (hg.settled_eq hline), History.handed, hline]
  simp only [hg.mem_seen_iff hline, hfits, true_and, and_self_left]
  split <;> rfl

theorem log (hg : g.Follows h) {line : String} (hline : h.line? g.number = some line)
    {v : Value} (hc : c.action = .logLast g.number v) {e : Event}
    (he : h.event c.thread g.number v c.stack = e) (hfits : e.Fits) (o : Output) :
    (g.log e.values e.stack o).1.Follows (c :: h) := by
  have hline' : History.line? g.number (c :: h) = some line := by simpa [History.line?, hc]
  have hevents : History.events g.number (c :: h) = e :: h.events g.number := by
    simp [History.events, hc, he, hfits]
  have hswitch : g.switch.line = (History.line? g.number (c :: h)).map fun line =>
      OptionLine.forCommand line (Family.command g.number) := by rw [hg.line, hline, hline']
  have hseen := hg.mem_seen_iff hline
  rw [log_of_settled (hg.settled_eq hline)]
  split
  · next hlogged =>
    obtain ⟨hpasses, -⟩ := hlogged
    refine ⟨hg.command, hswitch, by simp [hevents, hline'], fun frames => ?_⟩
    simp only [hline', hevents, Option.some.injEq, exists_eq_left', List.mem_cons,
      or_and_right, exists_or, exists_eq_left, hpasses, true_and]
    by_cases honce : (ValueLog.settings g.number line).value.oncePerStack = true
    · simp only [honce, if_true, List.mem_cons, hseen, true_and, eq_comm]
    · simp only [honce, hseen, Bool.false_eq_true, false_and, if_false]
  · next hsilent =>
    -- The event was rejected, or its stack is among those that were seen already.
    refine ⟨hg.command, hswitch, by simp [hevents, hline'], fun frames => ?_⟩
    simp only [hline', hevents, Option.some.injEq, exists_eq_left', List.mem_cons,
      or_and_right, exists_or, exists_eq_left]
    constructor
    · intro hmem
      obtain ⟨honce, hd⟩ := (hseen frames).mp hmem
      exact ⟨honce, .inr hd⟩
    · rintro ⟨honce, ⟨hpasses, rfl⟩ | hd⟩
      · exact (Classical.not_not.mp (not_and.mp hsilent hpasses)).2
      · exact (hseen frames).mpr ⟨honce, hd⟩

end Follows

end Family

namespace Agent

/-- What a call on the value loggers does; a name that no command has is refused. -/
def perform (a : Agent) (c : Call) : Agent :=
  let a := { a with stack := c.stack }
  match c.action with
  | .configure name line =>
    match a.configure name line with
    | .ok b => b
    | .error _ => a
  | .log family v => a.stageValue c.thread family v
  | .logLast family v => a.closeValues c.thread family v

def after (a : Agent) (h : History) : Agent := h.foldr (fun c a => a.perform c) a

structure Recalls (a : Agent) (h : History) : Prop where
  capacity : a.table.capacity = Logger.count
  numbers : a.families.map Family.number = [1, 2, 3, 4, 5]
  families : ∀ g ∈ a.families, g.Follows h
  buffers : ∀ t f, 1 ≤ f ∧ f ≤ 5 →
    a.staging.buffer (a.valueSite t f) = (h.logged t f).take 64

namespace Recalls

variable {a : Agent} {h : History} {c : Call} {t f : Nat} {v : Value}

theorem fresh (output : Output) (now : Moment) : Recalls { output, now } [] where
  capacity := rfl
  numbers := rfl
  families := by
    intro g hg
    obtain ⟨i, -, rfl⟩ := List.mem_map.mp hg
    exact Family.Follows.fresh (i + 1)
  buffers := fun _ _ _ => rfl

theorem mem_numbers (hr : a.Recalls h) : (∃ g ∈ a.families, g.number = f) ↔ 1 ≤ f ∧ f ≤ 5 := by
  rw [← List.mem_map, hr.numbers]
  simp only [List.mem_cons, List.not_mem_nil, or_false]
  omega

theorem exists_family (hr : a.Recalls h) (hf : 1 ≤ f ∧ f ≤ 5) : ∃ g, a.family? f = some g := by
  obtain ⟨g, hg, rfl⟩ := hr.mem_numbers.mpr hf
  exact Option.isSome_iff_exists.mp (List.find?_isSome.mpr ⟨g, hg, beq_self_eq_true _⟩)

theorem in_range (hr : a.Recalls h) {g : Family} (hg : a.family? f = some g) :
    1 ≤ f ∧ f ≤ 5 :=
  hr.mem_numbers.mp ⟨g, mem_family hg⟩

theorem values_lt (hr : a.Recalls h) (hf : 1 ≤ f ∧ f ≤ 5) : Logger.values f < a.table.capacity := by
  rw [hr.capacity, Logger.values, Logger.count]
  omega

theorem stageValue_eq (hr : a.Recalls h) {g : Family} (hg : a.family? f = some g) :
    a.stageValue t f v =
      if (h.logged t f).length < 64 then
        { a with staging := a.staging.setBuffer (a.valueSite t f) (h.logged t f ++ [v]) }
      else a.warn (fullMessage f) := by
  have hf := hr.in_range hg
  have hbuffer : a.staging.buffer ⟨t, a.table.id, Logger.values f⟩ = (h.logged t f).take 64 :=
    hr.buffers t f hf
  simp only [stageValue, hg, Staging.push_eq, hr.values_lt hf, if_true, hbuffer, List.length_take]
  by_cases hl : (h.logged t f).length < 64
  · rw [if_pos (by omega), if_pos hl, List.take_of_length_le (Nat.le_of_lt hl)]
    rfl
  · rw [if_neg (by omega), if_neg hl, Nat.min_eq_left (by omega)]
    rfl

theorem closeValues_eq (hr : a.Recalls h) {g : Family} (hg : a.family? f = some g) :
    ∃ s : Staging, s.buffer (a.valueSite t f) = [] ∧
      (∀ site, site ≠ a.valueSite t f → s.buffer site = a.staging.buffer site) ∧
      a.closeValues t f v =
        if (h.logged t f).length < 64 then
          if g.switch.isOn then
            { a with
              staging := s
              output := (g.log (h.logged t f ++ [v]) a.stack a.output).2 }.setFamily
                (g.log (h.logged t f ++ [v]) a.stack a.output).1
          else { a with staging := s }
        else { a with staging := s }.warn (fullMessage f) := by
  have hf := hr.in_range hg
  have hbuffer : a.staging.buffer ⟨t, a.table.id, Logger.values f⟩ = (h.logged t f).take 64 :=
    hr.buffers t f hf
  simp only [closeValues, hg, Staging.finalizeWith_eq, hr.values_lt hf, if_true, hbuffer,
    List.length_take]
  by_cases hl : (h.logged t f).length < 64
  · simp only [if_pos hl, if_pos (show min 64 (h.logged t f).length < 64 by omega),
      List.take_of_length_le (Nat.le_of_lt hl)]
    refine ⟨_, Staging.buffer_setBuffer_self _ _ _, fun site hs => ?_, rfl⟩
    exact (Staging.buffer_setBuffer_of_ne hs _ _).trans (Staging.buffer_setBuffer_of_ne hs _ _)
  · simp only [if_neg hl, Nat.min_eq_left (Nat.le_of_not_lt hl)]
    exact ⟨_, Staging.buffer_setBuffer_self _ _ _,
      fun site hs => Staging.buffer_setBuffer_of_ne hs _ _, rfl⟩

theorem buffers_elsewhere (hr : a.Recalls h)
    (hc : ∀ t f, 1 ≤ f ∧ f ≤ 5 → History.logged t f (c :: h) = h.logged t f) :
    ∀ t f, 1 ≤ f ∧ f ≤ 5 →
      a.staging.buffer (a.valueSite t f) = (History.logged t f (c :: h)).take 64 :=
  fun t f hf => by rw [hc t f hf, hr.buffers t f hf]

theorem buffers_at (hr : a.Recalls h) (hc : ∀ g, g ≠ f → ¬c.concerns g) {s : Staging}
    (hown : s.buffer (a.valueSite c.thread f) =
      (History.logged c.thread f (c :: h)).take 64)
    (hothers : ∀ site, site ≠ a.valueSite c.thread f → s.buffer site = a.staging.buffer site) :
    ∀ t g, 1 ≤ g ∧ g ≤ 5 →
      s.buffer (a.valueSite t g) = (History.logged t g (c :: h)).take 64 := by
  intro t g hg
  by_cases hsite : t = c.thread ∧ g = f
  · obtain ⟨rfl, rfl⟩ := hsite
    exact hown
  · have helsewhere : c.thread ≠ t ∨ ¬c.concerns g := by
      by_cases ht : t = c.thread
      · exact .inr (hc g fun hgf => hsite ⟨ht, hgf⟩)
      · exact .inl (Ne.symm ht)
    rw [hothers _ (mt valueSite_inj.mp hsite), hr.buffers t g hg,
      History.logged_elsewhere helsewhere]

theorem configure (hr : a.Recalls h) {name line : String} (hc : c.action = .configure name line)
    {b : Agent} (hb : a.configure name line = .ok b) : b.Recalls (c :: h) := by
  rw [Agent.configure] at hb
  split at hb
  · cases hb
  · cases hb
    refine ⟨hr.capacity, ?_, ?_, hr.buffers_elsewhere fun t f _ => by simp [History.logged, hc]⟩
    · simp only [enable, List.map_map, Function.comp_def, Family.number_configure]
      exact hr.numbers
    · intro g hg
      obtain ⟨k, hk, rfl⟩ := List.mem_map.mp hg
      exact (hr.families k hk).configure hc

theorem refuse (hr : a.Recalls h) {name line : String} (hc : c.action = .configure name line)
    {e : ConfigError} (he : a.configure name line = .error e) : a.Recalls (c :: h) := by
  have hnone : a.command? name = none := by
    rw [Agent.configure] at he
    split at he
    · assumption
    · cases he
  refine ⟨hr.capacity, hr.numbers, fun g hg => ?_,
    hr.buffers_elsewhere fun t f _ => by simp [History.logged, hc]⟩
  have hmem : g.switch.command ∈ a.commands := by
    simp only [commands, trackerCommands, List.flatten_cons, List.mem_append]
    exact .inr (.inr (.inr (.inl (List.mem_map_of_mem hg))))
  have hname : g.switch.command.name ≠ name := by simpa using List.find?_eq_none.mp hnone _ hmem
  -- Configuring the family would change nothing, because it has another name.
  have hsame := (hr.families g hg).configure hc
  rwa [Family.configure, if_neg hname] at hsame

theorem warn (hr : a.Recalls h) (message : String) : (a.warn message).Recalls h :=
  ⟨hr.capacity, hr.numbers, hr.families, hr.buffers⟩

theorem of_no_family (hr : a.Recalls h) (hg : a.family? f = none)
    (hc : ∀ g, g ≠ f → ¬c.concerns g) : a.Recalls (c :: h) := by
  refine ⟨hr.capacity, hr.numbers, fun g hmem => (hr.families g hmem).of_not_concerns (hc _ ?_),
    hr.buffers_elsewhere fun t k hk => History.logged_of_not_concerns t (hc k ?_)⟩
  · exact number_ne hg hmem
  · obtain ⟨g, hmem, rfl⟩ := hr.mem_numbers.mpr hk
    exact number_ne hg hmem

theorem stage (hr : a.Recalls h) (hc : c.action = .log f v) :
    (a.stageValue c.thread f v).Recalls (c :: h) := by
  have hconcerns : ∀ g, g ≠ f → ¬c.concerns g := fun g => Call.not_concerns_of_ne (by simp [hc])
  have hlogged : History.logged c.thread f (c :: h) = h.logged c.thread f ++ [v] := by
    simp [History.logged, hc]
  cases hg : a.family? f with
  | none =>
    rw [stageValue, hg]
    exact (hr.of_no_family hg hconcerns).warn _
  | some g =>
    have hfamilies : ∀ g ∈ a.families, g.Follows (c :: h) :=
      fun g hg => (hr.families g hg).of_log hc
    rw [hr.stageValue_eq hg]
    split
    · next hl =>
      refine ⟨hr.capacity, hr.numbers, hfamilies, hr.buffers_at hconcerns ?_ fun site hs => ?_⟩
      · rw [hlogged, List.take_of_length_le (by rw [List.length_append]; exact hl)]
        exact Staging.buffer_setBuffer_self _ _ _
      · exact Staging.buffer_setBuffer_of_ne hs _ _
    · next hl =>
      refine ⟨hr.capacity, hr.numbers, hfamilies, hr.buffers_at hconcerns ?_ fun _ _ => rfl⟩
      -- What comes after the last place of a full event is not kept.
      rw [hlogged, List.take_append_of_le_length (Nat.le_of_not_lt hl)]
      exact hr.buffers c.thread f (hr.in_range hg)

theorem close (hr : a.Recalls h) (hc : c.action = .logLast f v) (hstack : a.stack = c.stack) :
    (a.closeValues c.thread f v).Recalls (c :: h) := by
  have hconcerns : ∀ g, g ≠ f → ¬c.concerns g := fun g => Call.not_concerns_of_ne (by simp [hc])
  have hlogged : History.logged c.thread f (c :: h) = [] := by simp [History.logged, hc]
  cases hg : a.family? f with
  | none =>
    rw [closeValues, hg]
    exact (hr.of_no_family hg hconcerns).warn _
  | some g =>
    obtain ⟨hmem, rfl⟩ := mem_family hg
    obtain ⟨s, hown, hothers, heq⟩ := hr.closeValues_eq (t := c.thread) (v := v) hg
    have hbuffers := hr.buffers_at hconcerns (by rw [hlogged, hown]; rfl) hothers
    have hfits := h.fits_event_iff c.thread g.number v c.stack
    rw [heq, hstack]
    split
    · next hl =>
      split
      · next hon =>
        obtain ⟨line, hline⟩ := (hr.families g hmem).isOn_iff.mp hon
        refine ⟨hr.capacity, (numbers_setFamily _ _).trans hr.numbers, ?_, hbuffers⟩
        refine forall_setFamily ?_ fun k hk hne =>
          (hr.families k hk).of_not_concerns (hconcerns _ ?_)
        · exact (hr.families g hmem).log hline hc rfl (hfits.mpr hl) _
        · rwa [Family.number_log] at hne
      · next hoff =>
        refine ⟨hr.capacity, hr.numbers, fun k hk => ?_, hbuffers⟩
        by_cases hsame : k.number = g.number
        · refine (hr.families k hk).of_unconfigured ?_ hc
          rw [hsame]
          exact (hr.families g hmem).line?_eq_none hoff
        · exact (hr.families k hk).of_not_concerns (hconcerns _ hsame)
    · next hl =>
      have hlarge := mt hfits.mp hl
      exact ⟨hr.capacity, hr.numbers, fun k hk => (hr.families k hk).of_oversized hc hlarge,
        hbuffers⟩

theorem withStack (hr : a.Recalls h) (stack : Stack) : Recalls { a with stack } h :=
  ⟨hr.capacity, hr.numbers, hr.families, hr.buffers⟩

theorem step (hr : a.Recalls h) (c : Call) : (a.perform c).Recalls (c :: h) := by
  have hb := hr.withStack c.stack
  rw [perform]
  cases hc : c.action with
  | configure name line =>
    dsimp only
    split
    · next b hok => exact hb.configure hc hok
    · next e herror => exact hb.refuse hc herror
  | log f v => exact hb.stage hc
  | logLast f v => exact hb.close hc rfl

theorem run (hr : a.Recalls []) (h : History) : (a.after h).Recalls h := by
  induction h with
  | nil => exact hr
  | cons c h ih => exact ih.step c

theorem output_close (hr : a.Recalls h) (hf : 1 ≤ f ∧ f ≤ 5) {e : Event}
    (he : h.event t f v a.stack = e) :
    (a.closeValues t f v).output =
      if e.Fits then (a.output.writeAll .stderr (h.reports f)).hand a.stack (h.handed f e)
      else a.output.warn (fullMessage f) := by
  obtain ⟨g, hg⟩ := hr.exists_family hf
  obtain ⟨s, -, -, heq⟩ := hr.closeValues_eq (t := t) (v := v) hg
  obtain ⟨hmem, rfl⟩ := mem_family hg
  have hfits : e.Fits ↔ (h.logged t g.number).length < 64 := he ▸ h.fits_event_iff t g.number v _
  have hfollows := hr.families g hmem
  rw [heq]
  by_cases hl : (h.logged t g.number).length < 64
  · rw [if_pos hl, if_pos (hfits.mpr hl)]
    split
    · next hon =>
      obtain ⟨line, hline⟩ := hfollows.isOn_iff.mp hon
      have hlog := hfollows.log_eq hline (hfits.mpr hl) a.output
      subst he
      exact hlog
    · next hoff =>
      rw [History.reports, History.handed, hfollows.line?_eq_none hoff]
      rfl
  · rw [if_neg hl, if_neg (mt hfits.mp hl)]
    rfl

end Recalls

/-- Whatever threads have configured, staged and closed before, a last value closes the event
that the history tells. It is dropped if it is too large. Otherwise the error sink has the reports
on the line if this is the first event since it was configured, and the sink of that line has the
lines of the message if the history says that there is one. The next event starts empty. Neither
calls on other families, nor values that other threads still have in open events, change any of
that. -/
theorem last_value_closes_by_history (output : Output) (now : Moment) (h : History)
    (t f : Nat) (v : Value) (stack : Stack) (hf : 1 ≤ f ∧ f ≤ 5) :
    let before := after { output, now } h
    let closed := before.perform ⟨t, .logLast f v, stack⟩
    let e := h.event t f v stack
    let reported := before.output.withConsole [] (h.reports f)
    (¬e.Fits → closed.output =
      { before.output with warnings := before.output.warnings ++ [fullMessage f] }) ∧
      (e.Fits → h.handed f e = none → closed.output = reported) ∧
      (∀ s message, h.handed f e = some (s, message) →
        Output.Received (reported.resolve s.options).2
          (Output.messageLines s.options stack message) (reported.resolve s.options).1
          closed.output) ∧
      closed.staging.buffer (closed.valueSite t f) = [] ∧
      History.closing (h.filter (Call.concerns f)) t f v stack = h.closing t f v stack ∧
      ∀ later c earlier w, h = later ++ c :: earlier → c.thread ≠ t → c.action = .log f w →
        (∀ d ∈ later, ¬d.Closes c.thread f) →
          h.closing t f v stack = History.closing (later ++ earlier) t f v stack := by
  intro before closed e reported
  have hr : before.Recalls h := (Recalls.fresh output now).run h
  have hclosed : closed.Recalls (⟨t, .logLast f v, stack⟩ :: h) := hr.step _
  -- Outside of the event only the output tells what happened.
  have houtput : closed.output = if e.Fits then reported.hand stack (h.handed f e)
      else before.output.warn (fullMessage f) := by
    rw [show closed.output = _ from (hr.withStack stack).output_close hf rfl,
      Output.writeAll_stderr]
  refine ⟨fun hlarge => ?_, fun hfits hnone => ?_, fun s message hhanded => ?_, ?_,
    h.closing_filter t f v stack, ?_⟩
  · rw [houtput, if_neg hlarge]
    rfl
  · rw [houtput, if_pos hfits, hnone]
    rfl
  · rw [houtput, if_pos (h.fits_of_handed hhanded), hhanded, Output.hand_some]
    exact Output.received_writeAll _ _ _
  · rw [hclosed.buffers t f hf]
    simp [History.logged]
  · rintro later c earlier w rfl hc hlog hopen
    exact History.closing_of_open hc hlog hopen v stack

end Agent

end

namespace Agent

def sharedSite : Stack := [⟨"App.run", some "App.java", some 7⟩]

/-- Thread 2 closed an event at the shared stack before the second line came, and one that the
second line rejects since. It has a value in an open event, as thread 1 has. -/
def crossedThreads : History :=
  [{ thread := 1, action := .log 2 (.str "order") },
   { thread := 2, action := .log 2 (.int 3) },
   { thread := 3, action := .log 6 (.int 4) },
   { thread := 2, action := .logLast 2 (.int 50), stack := sharedSite },
   { thread := 2, action := .log 2 (.str "late") },
   { thread := 1, action := .configure "logGeneric3" "format=%s" },
   { thread := 1, action := .configure "logGeneric2"
      "logDest=stdout,logWithStack,oncePerStack,value1StartsWith=or,format=%2$s of %1$s" },
   { thread := 2, action := .logLast 2 (.int 9), stack := sharedSite },
   { thread := 1, action := .configure "logGeneric2" "oncePerStack" }]

theorem last_value_closes_by_crossed_history :
    let before := after { now := ⟨0⟩ } crossedThreads
    let closed := before.perform ⟨1, .logLast 2 (.int 5), sharedSite⟩
    let e := crossedThreads.event 1 2 (.int 5) sharedSite
    (1 ≤ 2 ∧ 2 ≤ 5) ∧ e.values = [.str "order", .int 5] ∧
      before.output.out = [] ∧
      closed.output.out = ["5 of order", "\tApp.run (App.java:7)"] ∧
      (∀ s message, crossedThreads.handed 2 e = some (s, message) →
        let reported := before.output.withConsole [] (crossedThreads.reports 2)
        Output.Received (reported.resolve s.options).2
          (Output.messageLines s.options sharedSite message) (reported.resolve s.options).1
          closed.output) ∧
      closed.staging.buffer (closed.valueSite 1 2) = [] ∧
      History.closing (crossedThreads.filter (Call.concerns 2)) 1 2 (.int 5) sharedSite =
        crossedThreads.closing 1 2 (.int 5) sharedSite := by
  intro before closed e
  have hf : 1 ≤ 2 ∧ 2 ≤ 5 := by decide
  obtain ⟨-, -, hhanded, hempty, hown, -⟩ :=
    last_value_closes_by_history {} ⟨0⟩ crossedThreads 1 2 (.int 5) sharedSite hf
  exact ⟨hf, by decide +kernel, by decide +kernel, by decide +kernel, hhanded, hempty, hown⟩

end Agent

end ResourceTrace
