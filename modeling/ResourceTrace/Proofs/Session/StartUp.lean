import ResourceTrace.Session
import ResourceTrace.Proofs.Commands.Table
import ResourceTrace.Proofs.CommandLine.Grouping
import ResourceTrace.Proofs.Event.Frame

/-!
The start of a session. The groups of the arguments are taken in their order: the first one that is
no known command decides, whatever stands behind it. If all are known, the lines that count are the
latest of each command, and only these are checked. A session that ends early has done nothing but
write.
-/

set_option autoImplicit false

namespace ResourceTrace

namespace Agent

variable {a : Agent}

/-- No probe was called and no dump was registered or armed. -/
structure Idle (a : Agent) : Prop where
  staging : a.staging = {}
  allocations : a.allocations.ledger = {} ∧ a.allocations.throttle = 0
  files : a.files.ledger = {}
  families : ∀ f ∈ a.families, f.settings = none ∧ f.seen = []
  catalogue : a.catalogue = {}
  dumpers : a.dumpers = []
  alive : a.started = false ∧ a.ended = none ∧ a.exits = []

namespace Idle

theorem put (h : a.Idle) (output : Output) : Idle { a with output } :=
  ⟨h.staging, h.allocations, h.files, h.families, h.catalogue, h.dumpers, h.alive⟩

theorem enable (h : a.Idle) (name line : String) (configured : List (Command × String)) :
    Idle { a.enable name line with configured } := by
  refine ⟨h.staging, h.allocations, h.files, fun f hf => ?_, h.catalogue, h.dumpers, h.alive⟩
  obtain ⟨g, hg, rfl⟩ := List.mem_map.mp hf
  rw [Family.configure]
  split
  · exact ⟨rfl, rfl⟩
  · exact h.families g hg

theorem afterCall (h : a.Idle) (call : String × String) : (a.afterCall call).Idle := by
  cases hc : a.command? call.1 with
  | none =>
    rw [Agent.afterCall, configure_of_unknown hc]
    exact h
  | some command =>
    rw [Agent.afterCall, configure_of_known hc]
    exact h.enable call.1 call.2 _

theorem afterCalls (h : a.Idle) (calls : List (String × String)) : (a.afterCalls calls).Idle := by
  induction calls generalizing a with
  | nil => exact h
  | cons call calls ih => exact ih (h.afterCall call)

end Idle

end Agent

namespace Session

open CommandLine

variable {a : Agent}

def listed (a : Agent) : Agent := { a with output := a.output.withConsole a.overview [] }

/-- What follows once all commands are configured. -/
def settle (a : Agent) : Outcome :=
  match a.check with
  | (some _, a) => .ended 2 a
  | (none, a) => .running a.start

theorem startUp_of_groups {args : Arguments} {gs : List (String × String)}
    (hlist : args.list = false) (h : groups a args = .ok gs) :
    startUp args a = (configureAll gs a).next settle := by
  rw [startUp, if_neg (by simp [hlist]), h]
  rfl

theorem settle_of_accepted (h : a.check.1 = none) : settle a = .running a.start := by
  have hcheck : a.check = (none, a) := Prod.ext h (Agent.check_of_silent h)
  rw [settle, hcheck]

theorem settle_of_refused (h : a.check.1 ≠ none) :
    ∃ (command : Command) (line : String) (e : ConfigError) (texts : List String),
      command.Refuses (OptionLine.parse line) e texts ∧
        settle a = .ended 2 { a with output := a.output.withConsole [] texts } := by
  obtain ⟨e, he⟩ := Option.ne_none_iff_exists'.mp h
  have hcheck : a.check = (some e, a.check.2) := Prod.ext he rfl
  obtain ⟨_, command, line, _, texts, _, _, hrefuses, hwritten⟩ := Agent.refuses_of_check hcheck
  refine ⟨command, line, e, texts, hrefuses, ?_⟩
  rw [settle, hcheck, hwritten]

section

variable {P : Agent → Prop}
  (hconfigure : ∀ {a b : Agent} {name line : String}, P a → a.configure name line = .ok b → P b)

include hconfigure

theorem configureAll_keeps {groups : List (String × String)} {a b : Agent} (h : P a)
    (hrunning : configureAll groups a = .running b) : P b := by
  induction groups generalizing a with
  | nil =>
    cases hrunning
    exact h
  | cons g rest ih =>
    obtain ⟨name, line⟩ := g
    rw [configureAll] at hrunning
    split at hrunning
    · cases hrunning
    · split at hrunning
      · cases hrunning
      · next hok => exact ih (hconfigure h hok) hrunning

theorem startUp_keeps (hstart : ∀ {a : Agent}, P a → P a.start) {args : Arguments} {a b : Agent}
    (h : P a) (hrunning : startUp args a = .running b) : P b := by
  rw [startUp] at hrunning
  split at hrunning
  · cases hrunning
  · split at hrunning
    · cases hrunning
    next gs _ =>
      change (configureAll gs a).next settle = .running b at hrunning
      cases hall : configureAll gs a with
      | ended code c =>
        rw [hall] at hrunning
        cases hrunning
      | running c =>
        rw [hall, Outcome.next] at hrunning
        split at hrunning
        · cases hrunning
        · by_cases hcheck : c.check.1 = none
          · rw [settle_of_accepted hcheck] at hrunning
            cases hrunning
            exact hstart (configureAll_keeps hconfigure h hall)
          · obtain ⟨_, _, _, _, _, hrefused⟩ := settle_of_refused hcheck
            rw [hrefused] at hrunning
            cases hrunning

end

theorem aside_greet (logger : Nat) (args : Arguments) (a : Agent) :
    Agent.Aside logger a (greet args a) := by
  rw [greet]
  split
  · exact .refl a
  · exact .of_staging rfl rfl rfl rfl

theorem aside_begin {logger : Nat} (hl : ChangeKind.locale.logger ≠ logger) (a : Agent) :
    Agent.Aside logger a (Workload.begin a) :=
  ((Agent.aside_stage hl a _ _ _ _).trans (Agent.aside_stage hl _ _ _ _ _)).trans
    (Agent.aside_closeChange hl _ _ _)

theorem startUp_nothing (host : Host) (now : Moment) :
    startUp {} (freshAgent host now) = .running (freshAgent host now).start := by
  have hgroups : groups (freshAgent host now) {} = .ok [] := rfl
  have hcheck : (freshAgent host now).check.1 = none := rfl
  rw [startUp_of_groups rfl hgroups]
  exact settle_of_accepted hcheck

/-- Help that is asked for in an earlier group of a command is of no account, and a command that is
not known is if a group for help stands in front of it. -/
example :
    let exitCode (o : Outcome) : Option Nat :=
      match o with
      | .ended code _ => some code
      | .running _ => none
    let lines (o : Outcome) : List String × List String :=
      match o with
      | .ended _ b => (b.output.stderr, b.output.stdout.take 2)
      | .running _ => ([], [])
    let a := freshAgent .emptyDirectory ⟨0⟩
    let traces := ["traceOpenFiles,help", "logGeneric1,nonsense"]
    let unknown := startUp { traces := traces ++ ["nothing", "help"] } a
    exitCode (startUp { traces, agentArgs := "traceOpenFiles,logGeneric1,format=%s" } a) = none ∧
      exitCode (startUp { traces, agentArgs := "logGeneric1,oncePerStack" } a) = some 2 ∧
      exitCode (startUp { traces := traces ++ ["help", "nothing"] } a) = some 0 ∧
      exitCode unknown = some 2 ∧
      lines unknown = (["Unknown command 'nothing'"], ["The following commands are supported:",
        "traceNativeAllocations: Traces native memory allocations."]) := by
  decide +kernel

end Session

end ResourceTrace
