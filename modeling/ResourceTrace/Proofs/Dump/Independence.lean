import ResourceTrace.Agent.Dumps
import ResourceTrace.Pattern.Interpreter
import ResourceTrace.Proofs.Dump.Report
import ResourceTrace.Snapshot

set_option autoImplicit false

namespace ResourceTrace

variable {δ : Type}

/-- The record with its innermost frames only. -/
def Record.cut (count : Nat) (r : Record δ) : Record δ := { r with stack := r.stack.take count }

namespace Ledger

def Alike (l m : Ledger δ) : Prop := ∀ r, r ∈ l.records.values ↔ r ∈ m.records.values

def CutTo (count : Nat) (l m : Ledger δ) : Prop :=
  ∀ r, r ∈ m.records.values ↔ ∃ s ∈ l.records.values, s.cut count = r

theorem mem_byAge_iff (l : Ledger δ) (r : Record δ) : r ∈ l.byAge ↔ r ∈ l.records.values :=
  l.byAge_perm.mem_iff

theorem length_byAge (l : Ledger δ) : l.byAge.length = l.size := by
  rw [l.byAge_perm.length_eq, Keyed.values, List.length_map]
  rfl

namespace Conserved

variable {l m : Ledger δ} {count : Nat}

theorem byAge_eq (hl : l.Conserved) (hm : m.Conserved) (same : l.Alike m) : l.byAge = m.byAge := by
  refine Record.eq_of_before hl.byAge_before hm.byAge_before fun r => ?_
  rw [mem_byAge_iff, mem_byAge_iff, same r]

theorem byAge_cut (hl : l.Conserved) (hm : m.Conserved) (cut : l.CutTo count m) :
    m.byAge = l.byAge.map (Record.cut count) := by
  have hsorted : (l.byAge.map (Record.cut count)).Pairwise Record.Before :=
    hl.byAge_before.map _ fun _ _ h => h
  refine Record.eq_of_before hm.byAge_before hsorted fun r => ?_
  rw [mem_byAge_iff, cut r, List.mem_map]
  simp only [mem_byAge_iff]

theorem total_eq_of_byAge (hl : l.Conserved) (hm : m.Conserved) (h : l.byAge = m.byAge) :
    l.total = m.total := by
  rw [← hl.sizes_byAge, ← hm.sizes_byAge, h]

end Conserved

theorem size_eq_of_byAge {l m : Ledger δ} (h : l.byAge = m.byAge) : l.size = m.size := by
  rw [← length_byAge, ← length_byAge, h]

theorem sizes_map_cut (count : Nat) (rs : List (Record δ)) :
    sizes (rs.map (Record.cut count)) = sizes rs := by
  induction rs with
  | nil => rfl
  | cons r rs ih =>
    rw [List.map_cons, sizes_cons, sizes_cons, ih]
    rfl

theorem Alike.retain {l m : Ledger δ} (same : l.Alike m) (keep : Record δ → Bool) :
    (l.retain keep).2.Alike (m.retain keep).2 := by
  have hvalues : ∀ n : Ledger δ, (n.retain keep).2.records.values = n.records.values.filter keep :=
    fun n => n.records.values_filter keep
  intro r
  rw [hvalues, hvalues, List.mem_filter, List.mem_filter, same r]

end Ledger

namespace DumpFilter

variable (f : DumpFilter)

theorem texts_cut (r : Record δ) : f.texts (r.cut f.maxFrames).stack = f.texts r.stack := by
  rw [texts, texts, Record.cut, List.take_take, Nat.min_self]

theorem accepts?_cut [PatternEngine] (r : Record δ) (now : Moment) :
    f.accepts? (r.cut f.maxFrames) now = f.accepts? r now := by
  rw [accepts?_eq, accepts?_eq, texts_cut]
  rfl

end DumpFilter

namespace Report

variable [PatternEngine] {l m : Ledger δ} (f : DumpFilter) (throttle : Nat) (now : Moment)
  (zone : Zone)

theorem make_of_alike (hl : l.Conserved) (hm : m.Conserved) (same : l.Alike m) :
    make l f throttle now zone = make m f throttle now zone := by
  have hage := hl.byAge_eq hm same
  rw [make, make, hage, Ledger.size_eq_of_byAge hage, hl.total_eq_of_byAge hm hage]

theorem accepted_cut (hl : l.Conserved) (hm : m.Conserved) (cut : l.CutTo f.maxFrames m) :
    accepted m f now = (accepted l f now).map (Record.cut f.maxFrames) := by
  rw [accepted, accepted, hl.byAge_cut hm cut, List.filter_map]
  simp only [Function.comp_def, DumpFilter.accepts?_cut]

theorem make_of_cut (hl : l.Conserved) (hm : m.Conserved) (cut : l.CutTo f.maxFrames m) :
    make m f throttle now zone = make l f throttle now zone := by
  have hage := hl.byAge_cut hm cut
  have htotal : m.total = l.total := by
    rw [← hm.sizes_byAge, hage, Ledger.sizes_map_cut, hl.sizes_byAge]
  have hsize : m.size = l.size := by
    rw [← Ledger.length_byAge, hage, List.length_map, Ledger.length_byAge]
  -- A printed record shows its header and its window, and cutting changes neither.
  have hlines : ∀ r : Record δ, recordLines (r.cut f.maxFrames)
      (f.texts (r.cut f.maxFrames).stack) zone = recordLines r (f.texts r.stack) zone := by
    intro r
    rw [DumpFilter.texts_cut]
    rfl
  rw [make_eq, make_eq, accepted_cut f now hl hm cut, htotal, hsize]
  simp only [List.map_eq_nil_iff, ne_eq, List.flatMap_map, hlines, List.length_map,
    Ledger.sizes_map_cut]

end Report

theorem Snapshot.text_of_alike {l m : Ledger δ} (hl : l.Conserved) (hm : m.Conserved)
    (same : l.Alike m) (layout : Layout) : text layout l = text layout m := by
  have hage := hl.byAge_eq hm same
  have hjson : json l = json m := by
    rw [json, json, hage, Ledger.size_eq_of_byAge hage, hl.total_eq_of_byAge hm hage]
  cases layout <;> simp only [text, body, hjson]

theorem OpenFiles.dumpLines_of_alike [PatternEngine] {l m : Ledger FileDetail} (hl : l.Conserved)
    (hm : m.Conserved) (same : l.Alike m) (f : DumpFilter) : dumpLines l f = dumpLines m f := by
  have hage := hl.byAge_eq hm same
  rw [dumpLines, dumpLines, accepted, accepted, hage, Ledger.size_eq_of_byAge hage]

namespace Agent

def filesLeft (a : Agent) (l : Ledger FileDetail) : Ledger FileDetail :=
  match a.files.liveness with
  | none => l
  | some isOpen => (OpenFiles.forgetClosed l isOpen).2

theorem conserved_filesLeft (a : Agent) {l : Ledger FileDetail} (h : l.Conserved) :
    (a.filesLeft l).Conserved := by
  unfold filesLeft
  split
  · exact h
  · exact h.retain _

theorem alike_filesLeft (a : Agent) {l m : Ledger FileDetail} (same : l.Alike m) :
    (a.filesLeft l).Alike (a.filesLeft m) := by
  unfold filesLeft
  split
  · exact same
  · exact same.retain _

theorem refreshFiles_setFileLedger (a : Agent) (l : Ledger FileDetail) :
    (a.setFileLedger l).refreshFiles = a.setFileLedger (a.filesLeft l) := by
  cases h : a.files.liveness with
  | none => simp [refreshFiles, filesLeft, setFileLedger, h]
  | some isOpen => simp [refreshFiles, filesLeft, setFileLedger, forgetClosed, h]

variable [PatternEngine]

theorem dumpFiles_setFileLedger (a : Agent) (l : Ledger FileDetail) (o : OptionLine) :
    (a.setFileLedger l).dumpFiles o =
      let (sink, b) := a.resolve o
      let left := b.filesLeft l
      if sink.isEnabled then
        match DumpFilter.read o with
        | .error lines => (false, (b.abort lines).setFileLedger left)
        | .ok filter =>
          let lines := OpenFiles.dumpLines left filter.value
          (!lines.isEmpty,
            ((b.complainAll filter.notes).writeAll sink lines).setFileLedger left)
      else (false, b.setFileLedger l) := by
  have hresolve : (a.setFileLedger l).resolve o =
      ((a.resolve o).1, (a.resolve o).2.setFileLedger l) := rfl
  simp only [dumpFiles, hresolve, refreshFiles_setFileLedger]
  cases (a.resolve o).1.isEnabled with
  | false => rfl
  | true => cases DumpFilter.read o <;> rfl

theorem dumpFiles_of_alike (a : Agent) (o : OptionLine) {l m : Ledger FileDetail}
    (hl : l.Conserved) (hm : m.Conserved) (same : l.Alike m) :
    ((a.setFileLedger l).dumpFiles o).1 = ((a.setFileLedger m).dumpFiles o).1 ∧
      ((a.setFileLedger l).dumpFiles o).2.setFileLedger {} =
        ((a.setFileLedger m).dumpFiles o).2.setFileLedger {} := by
  have hlines := OpenFiles.dumpLines_of_alike ((a.resolve o).2.conserved_filesLeft hl)
    ((a.resolve o).2.conserved_filesLeft hm) ((a.resolve o).2.alike_filesLeft same)
  simp only [dumpFiles_setFileLedger, hlines]
  cases (a.resolve o).1.isEnabled with
  | false => exact ⟨rfl, rfl⟩
  | true => cases DumpFilter.read o <;> exact ⟨rfl, rfl⟩

end Agent

namespace Ledger

/-- Two histories that end with the same live records cannot be told apart by what is put out.
The records come in the same order, whatever order they are enumerated in; reports with the same
filter, throttle and time are the same, so are the snapshots, and dumps of open files leave two
agents that differ at most in their ledgers. A third history, which ends with the same records
but for the frames beyond those that the filter lets through, has the same reports too. -/
theorem outputs_of_live_records [PatternEngine] {ops₁ ops₂ : List (Operation δ)}
    {opens₁ opens₂ : List (Operation FileDetail)} (same : (run {} ops₁).Alike (run {} ops₂))
    (sameFiles : (run {} opens₁).Alike (run {} opens₂)) (f : DumpFilter) (throttle : Nat)
    (now : Moment) (zone : Zone) (a : Agent) (o : OptionLine) :
    (∀ rs : List (Record δ), rs.Perm (run {} ops₁).records.values →
      rs.mergeSort Record.notAfter = (run {} ops₂).byAge) ∧
    Report.make (run {} ops₁) f throttle now zone = Report.make (run {} ops₂) f throttle now zone ∧
    (∀ layout, Snapshot.text layout (run {} ops₁) = Snapshot.text layout (run {} ops₂)) ∧
    (let dump₁ := (a.setFileLedger (run {} opens₁)).dumpFiles o
     let dump₂ := (a.setFileLedger (run {} opens₂)).dumpFiles o
     dump₁.1 = dump₂.1 ∧ dump₁.2.setFileLedger {} = dump₂.2.setFileLedger {}) ∧
    ∀ cutOps, (run {} ops₁).CutTo f.maxFrames (run {} cutOps) →
      Report.make (run {} cutOps) f throttle now zone =
        Report.make (run {} ops₁) f throttle now zone := by
  have h₁ : (run {} ops₁).Conserved := conserved_empty.run ops₁
  have h₂ : (run {} ops₂).Conserved := conserved_empty.run ops₂
  refine ⟨fun rs hrs => ?_, Report.make_of_alike f throttle now zone h₁ h₂ same,
    Snapshot.text_of_alike h₁ h₂ same, ?_, fun cutOps cut => ?_⟩
  · rw [h₁.mergeSort_eq_byAge hrs, h₁.byAge_eq h₂ same]
  · exact a.dumpFiles_of_alike o (conserved_empty.run opens₁) (conserved_empty.run opens₂) sameFiles
  · exact Report.make_of_cut f throttle now zone h₁ (conserved_empty.run cutOps) cut

def innerAndOuter : Stack := [⟨"app::alloc", none, none⟩, ⟨"app::main", none, none⟩]

def small : Record Unit := ⟨⟨0x10⟩, 570, ⟨5⟩, innerAndOuter, ()⟩

def large : Record Unit := ⟨⟨0x20⟩, 750, ⟨5⟩, innerAndOuter, ()⟩

def direct : List (Operation Unit) := [.add small, .add large]

def winding : List (Operation Unit) :=
  [.add { large with size := 1 }, .add { small with handle := ⟨0x99⟩ }, .replace large,
   .reallocate ⟨0x99⟩ small, .add { small with size := 7 }, .remove ⟨0x77⟩]

def shortened : List (Operation Unit) := [.replace (large.cut 1), .add (small.cut 1)]

def config : Record FileDetail := ⟨⟨3⟩, 0, ⟨5⟩, [], ⟨"/etc/app.conf", "r"⟩⟩

def journal : Record FileDetail := ⟨⟨4⟩, 0, ⟨5⟩, [], ⟨"/var/log/app.log", "wa"⟩⟩

def opened : List (Operation FileDetail) := [.add config, .add journal]

def reopened : List (Operation FileDetail) :=
  [.add journal, .add { config with handle := ⟨8⟩ }, .remove ⟨9⟩, .retain fun r => r.handle == ⟨4⟩,
   .replace config]

def innermostFrame : DumpFilter where
  maxFrames := 1
  minSize := 0
  minStackSize := 0
  minIncrease := -1
  minShare := 0.0
  minAge := 0
  maxAge := 31536000
  mustContain := none
  mustNotContain := none

theorem outputs_of_live_records_winding :
    (run {} direct).Alike (run {} winding) ∧ (run {} opened).Alike (run {} reopened) ∧
    (run {} direct).CutTo 1 (run {} shortened) ∧
    (run {} direct).records.values = [small, large] ∧
    (run {} winding).records.values = [large, small] ∧ (run {} winding).byAge = [small, large] ∧
    Report.make (run {} direct) innermostFrame 0 ⟨9⟩ Zone.utc =
      Report.make (run {} winding) innermostFrame 0 ⟨9⟩ Zone.utc ∧
    Report.make (run {} shortened) innermostFrame 0 ⟨9⟩ Zone.utc =
      Report.make (run {} direct) innermostFrame 0 ⟨9⟩ Zone.utc ∧
    (∀ layout, Snapshot.text layout (run {} direct) = Snapshot.text layout (run {} winding)) ∧
    let a : Agent := { now := ⟨9⟩ }
    let o := OptionLine.parse "logDest=stdout"
    let dump₁ := (a.setFileLedger (run {} opened)).dumpFiles o
    let dump₂ := (a.setFileLedger (run {} reopened)).dumpFiles o
    dump₁.1 = dump₂.1 ∧ dump₁.2.setFileLedger {} = dump₂.2.setFileLedger {} := by
  have hdirect : (run {} direct).records.values = [small, large] := by decide
  have hwinding : (run {} winding).records.values = [large, small] := by decide
  have hsame : (run {} direct).Alike (run {} winding) := by
    intro r
    rw [hdirect, hwinding]
    exact (List.Perm.swap large small []).mem_iff
  have hfiles : (run {} opened).Alike (run {} reopened) := by
    have hperm : (run {} opened).records.values.Perm (run {} reopened).records.values := by decide
    exact fun r => hperm.mem_iff
  have hcut : (run {} direct).CutTo 1 (run {} shortened) := by
    have hperm : (run {} shortened).records.values.Perm
        ((run {} direct).records.values.map (Record.cut 1)) := by decide
    exact fun r => hperm.mem_iff.trans List.mem_map
  obtain ⟨hage, hreport, htext, hdump, hshort⟩ := outputs_of_live_records hsame hfiles
    innermostFrame 0 ⟨9⟩ Zone.utc { now := ⟨9⟩ } (OptionLine.parse "logDest=stdout")
  refine ⟨hsame, hfiles, hcut, hdirect, hwinding, ?_, hreport, hshort shortened hcut, htext, hdump⟩
  have hsorted : [small, large].Pairwise fun r s => r.notAfter s = true := by decide
  rw [← hage [small, large] (by rw [hdirect]), List.mergeSort_of_pairwise hsorted]

end Ledger

end ResourceTrace
