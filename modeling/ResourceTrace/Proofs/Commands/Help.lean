import Mathlib.Data.String.Basic
import ResourceTrace.Agent.Commands
import ResourceTrace.Proofs.Output.Writing

set_option autoImplicit false

namespace ResourceTrace

/-- Options by their keys in lower case; those with the same stay in their order. -/
structure Command.Shows (c : Command) (options : List (String × String)) : Prop where
  perm : options.Perm c.options
  sorted : options.Pairwise fun p q => Unicode.lower p.1 ≤ Unicode.lower q.1
  stable : ∀ p q, [p, q].Sublist c.options → Unicode.lower p.1 ≤ Unicode.lower q.1 →
    [p, q].Sublist options

inductive Command.Explained (c : Command) : List String → Prop
  | plain (h : c.options = []) :
    Explained c [s!"Help for command '{c.name}':", s!"Description: {c.description}"]
  | options {options : List (String × String)} (h : c.options ≠ []) (hshows : c.Shows options) :
    Explained c ([s!"Help for command '{c.name}':", s!"Description: {c.description}",
      "The following options are supported:"] ++ options.map fun o => s!"{o.1}: {o.2}")

theorem Command.shows_sortedOptions (c : Command) : c.Shows c.sortedOptions := by
  have htrans : ∀ p q r : String × String, decide (Unicode.lower p.1 ≤ Unicode.lower q.1) = true →
      decide (Unicode.lower q.1 ≤ Unicode.lower r.1) = true →
        decide (Unicode.lower p.1 ≤ Unicode.lower r.1) = true := by
    simp only [decide_eq_true_eq]
    exact fun _ _ _ => le_trans
  have htotal : ∀ p q : String × String, (decide (Unicode.lower p.1 ≤ Unicode.lower q.1) ||
      decide (Unicode.lower q.1 ≤ Unicode.lower p.1)) = true := by
    simp only [Bool.or_eq_true, decide_eq_true_eq]
    exact fun _ _ => le_total _ _
  exact {
    perm := List.mergeSort_perm _ _
    sorted := (List.pairwise_mergeSort htrans htotal c.options).imp of_decide_eq_true
    stable := fun p q h hle =>
      List.pair_sublist_mergeSort htrans htotal (decide_eq_true hle) h }

theorem Command.explained_helpLines (c : Command) : c.Explained c.helpLines := by
  rw [helpLines]
  split
  · next h => exact .plain (List.isEmpty_iff.mp h)
  · next h => exact .options (fun hnil => h (List.isEmpty_iff.mpr hnil)) c.shows_sortedOptions

namespace Agent

def overview (a : Agent) : List String :=
  ["The following commands are supported:"] ++
    (a.commands.map fun c => s!"{c.name}: {c.description}") ++
    ["Use <command>,help to get further help for a specific command."]

end Agent

end ResourceTrace
