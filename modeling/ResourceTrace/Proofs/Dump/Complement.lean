import ResourceTrace.Pattern.Interpreter
import ResourceTrace.Proofs.Dump.Reading

set_option autoImplicit false

namespace ResourceTrace

variable {δ : Type}

/-- The line gives one more key a text and says the same of all others. -/
structure OptionLine.Extends (o' o : OptionLine) (key text : String) : Prop where
  here : o'.pairs.get? key = some (some text)
  elsewhere : ∀ k, k ≠ key → o'.pairs.get? k = o.pairs.get? k

def OptionLine.Plain (o : OptionLine) : Prop :=
  o.pairs.get? "mustContain" = none ∧ o.pairs.get? "mustNotContain" = none

def DumpFilter.withPatterns (f : DumpFilter) (mustContain mustNotContain : Option Pattern) :
    DumpFilter :=
  { f with mustContain, mustNotContain }

section

variable [PatternEngine]

namespace OptionLine

variable {o o' : OptionLine} {key text : String}

theorem Plain.patternOf? (h : o.Plain) :
    o.patternOf? "mustContain" = none ∧ o.patternOf? "mustNotContain" = none := by
  rw [OptionLine.patternOf?, OptionLine.patternOf?, h.1, h.2]
  exact ⟨rfl, rfl⟩

namespace Extends

theorem patternOf? (h : o'.Extends o key text) {p : Pattern} (hp : Pattern.ofText? text = some p) :
    o'.patternOf? key = some p := by
  rw [OptionLine.patternOf?, h.here]
  exact hp

theorem patternOf?_of_ne (h : o'.Extends o key text) {k : String} (hk : k ≠ key) :
    o'.patternOf? k = o.patternOf? k := by
  rw [OptionLine.patternOf?, OptionLine.patternOf?, h.elsewhere k hk]

theorem value_readBounds (h : o'.Extends o key text)
    (hkey : key = "mustContain" ∨ key = "mustNotContain") (n : Int) :
    (DumpFilter.readBounds o' n).value = (DumpFilter.readBounds o n).value.withPatterns
      (o'.patternOf? "mustContain") (o'.patternOf? "mustNotContain") := by
  refine DumpFilter.value_readBounds_congr (fun k hk hk' => h.elsewhere k ?_) n
  rcases hkey with rfl | rfl
  · exact hk
  · exact hk'

end Extends

end OptionLine

theorem DumpFilter.isSome_accepts? (f : DumpFilter) (r : Record δ) (now : Moment) :
    (f.accepts? r now).isSome =
      (f.acceptsSizeAndAge r now && f.acceptsLines (f.texts r.stack)) := by
  rw [accepts?_eq]
  split
  next h => exact h.symm
  next h => exact (Bool.eq_false_iff.mpr h).symm

theorem DumpFilter.any_texts (f : DumpFilter) (p : Pattern) (s : Stack) :
    (f.texts s).any p.isFoundIn = true ↔
      ∃ frame ∈ s.take f.maxFrames, p.isFoundIn frame.text = true := by
  rw [texts, List.any_map, List.any_eq_true]
  rfl

namespace Report

open Ledger (sizes)

/-- The report consists of the given records, oldest first, each with so many of its frames, and a
summary that counts them; without any record it is silent. -/
structure Prints (report : Report) (l : Ledger δ) (frames : Nat) (zone : Zone)
    (printed : List (Record δ)) : Prop where
  sublist : printed.Sublist l.byAge
  lines : report.lines = if printed = [] then [] else
    (printed.flatMap fun r =>
      [s!"Allocated {r.size} bytes at {r.handle.text}",
        s!"Timestamp: {r.created.text zone}", "Allocated at:"] ++
        (r.stack.take frames).map fun frame => "\t" ++ frame.text) ++
      [s!"Printed {printed.length} of {l.size} allocations with {sizes printed} bytes " ++
        s!"(of {l.total} bytes allocated in total)."]
  emitted : report.emitted = true ↔ printed ≠ []

def printed (l : Ledger δ) (f : DumpFilter) (throttle : Nat) (now : Moment) : List (Record δ) :=
  if f.shouldDump l.total throttle then accepted l f now else []

theorem make_prints (l : Ledger δ) (f : DumpFilter) (throttle : Nat) (now : Moment) (zone : Zone) :
    (make l f throttle now zone).Prints l f.maxFrames zone (printed l f throttle now) := by
  have hlines (r : Record δ) : recordLines r (f.texts r.stack) zone =
      [s!"Allocated {r.size} bytes at {r.handle.text}",
        s!"Timestamp: {r.created.text zone}", "Allocated at:"] ++
        (r.stack.take f.maxFrames).map fun frame => "\t" ++ frame.text := by
    rw [recordLines, DumpFilter.texts, List.map_map]
    rfl
  rw [make_eq, printed]
  simp only [hlines]
  by_cases hd : f.shouldDump l.total throttle = true
  · simp only [hd, if_true, true_and]
    by_cases hp : accepted l f now = []
    · simp only [hp, ne_eq, not_true_eq_false, if_false]
      exact ⟨List.nil_sublist _, rfl, by simp [silent]⟩
    · simp only [hp, ne_eq, not_false_eq_true, if_true]
      exact ⟨List.filter_sublist, by rw [if_neg hp]; rfl, by simp [hp]⟩
  · simp only [hd]
    exact ⟨List.nil_sublist _, rfl, by simp [silent]⟩

section

variable {f : DumpFilter} (hf : f.mustContain = none ∧ f.mustNotContain = none)
  (mustContain mustNotContain : Option Pattern)

include hf

theorem accepted_withPatterns (l : Ledger δ) (now : Moment) :
    accepted l (f.withPatterns mustContain mustNotContain) now =
      (accepted l f now).filter fun r =>
        (f.withPatterns mustContain mustNotContain).acceptsLines (f.texts r.stack) := by
  rw [accepted, accepted, List.filter_filter]
  refine List.filter_congr fun r _ => ?_
  have hlines : f.acceptsLines (f.texts r.stack) = true := by
    rw [DumpFilter.acceptsLines, hf.1, hf.2]
    rfl
  rw [DumpFilter.isSome_accepts?, DumpFilter.isSome_accepts?, hlines, Bool.and_true, Bool.and_comm]
  rfl

theorem printed_withPatterns (l : Ledger δ) (throttle : Nat) (now : Moment) :
    printed l (f.withPatterns mustContain mustNotContain) throttle now =
      (printed l f throttle now).filter fun r =>
        (f.withPatterns mustContain mustNotContain).acceptsLines (f.texts r.stack) := by
  have hgate : (f.withPatterns mustContain mustNotContain).shouldDump l.total throttle =
      f.shouldDump l.total throttle := rfl
  rw [printed, printed, hgate, accepted_withPatterns hf]
  split
  · rfl
  · rfl

end

theorem acceptsLines_mustContain (f : DumpFilter) (p : Pattern) (lines : List String) :
    (f.withPatterns (some p) none).acceptsLines lines = lines.any p.isFoundIn :=
  Bool.and_true _

theorem acceptsLines_mustNotContain (f : DumpFilter) (p : Pattern) (lines : List String) :
    (f.withPatterns none (some p)).acceptsLines lines = !lines.any p.isFoundIn :=
  Bool.true_and _

theorem printed_before {l : Ledger δ} (hl : l.Conserved) (f : DumpFilter) (throttle : Nat)
    (now : Moment) : (printed l f throttle now).Pairwise Record.Before := by
  rw [printed]
  split
  · exact accepted_before hl f now
  · exact List.Pairwise.nil

/-- The reports on one ledger, at one time and on one throttle, of a line without patterns and of
the two lines that ask for a pattern and for its absence. The first prints exactly what the other
two print between them: no record is in both of these, merged by age they are all, each record has
the same text, and the numbers in the summaries add up. -/
theorem pattern_divides_report (ops : List (Ledger.Operation δ)) (throttle : Nat) (now : Moment)
    (zone : Zone) {o inside outside : OptionLine} {text : String} {p : Pattern}
    (hp : Pattern.ofText? text = some p) (hframes : o.FramesReadable) (hplain : o.Plain)
    (hinside : inside.Extends o "mustContain" text)
    (houtside : outside.Extends o "mustNotContain" text) :
    let l := Ledger.run {} ops
    ∃ (f f₁ f₂ : Noted DumpFilter) (all hits misses : List (Record δ)),
      DumpFilter.read o = .ok f ∧ DumpFilter.read inside = .ok f₁ ∧
      DumpFilter.read outside = .ok f₂ ∧
      let frames := f.value.maxFrames
      let report := make l f.value throttle now zone
      let inner := make l f₁.value throttle now zone
      let outer := make l f₂.value throttle now zone
      report.Prints l frames zone all ∧ inner.Prints l frames zone hits ∧
      outer.Prints l frames zone misses ∧
      (∀ r ∈ all, r ∈ hits ↔ ∃ frame ∈ r.stack.take frames, p.isFoundIn frame.text = true) ∧
      (∀ r ∈ hits, r ∉ misses) ∧
      hits.merge misses Record.notAfter = all ∧
      hits.length + misses.length = all.length ∧ sizes hits + sizes misses = sizes all ∧
      (report.emitted = true ↔ inner.emitted = true ∨ outer.emitted = true) := by
  intro l
  have hl : l.Conserved := Ledger.conserved_empty.run ops
  obtain ⟨n, hn, hread⟩ := DumpFilter.exists_read hframes
  have hread₁ : DumpFilter.read inside = .ok (DumpFilter.readBounds inside n) := by
    rw [DumpFilter.read, OptionLine.int_congr (hinside.elsewhere _ (by decide)) hn]
    rfl
  have hread₂ : DumpFilter.read outside = .ok (DumpFilter.readBounds outside n) := by
    rw [DumpFilter.read, OptionLine.int_congr (houtside.elsewhere _ (by decide)) hn]
    rfl
  let f := (DumpFilter.readBounds o n).value
  have hf : f.mustContain = none ∧ f.mustNotContain = none := by
    rw [DumpFilter.mustContain_readBounds, DumpFilter.mustNotContain_readBounds]
    exact hplain.patternOf?
  have hinner : (DumpFilter.readBounds inside n).value = f.withPatterns (some p) none := by
    rw [hinside.value_readBounds (.inl rfl), hinside.patternOf? hp,
      hinside.patternOf?_of_ne (by decide), hplain.patternOf?.2]
  have houter : (DumpFilter.readBounds outside n).value = f.withPatterns none (some p) := by
    rw [houtside.value_readBounds (.inr rfl), houtside.patternOf? hp,
      houtside.patternOf?_of_ne (by decide), hplain.patternOf?.1]
  -- Both lines leave the gates alone, so that the three reports differ in one test on the frames.
  let found (r : Record δ) : Bool := (f.texts r.stack).any p.isFoundIn
  let all := printed l f throttle now
  let hits := all.filter found
  let misses := all.filter fun r => !found r
  have hall : (make l f throttle now zone).Prints l f.maxFrames zone all :=
    make_prints l f throttle now zone
  have hhits :
      (make l (f.withPatterns (some p) none) throttle now zone).Prints l f.maxFrames zone hits := by
    have h := make_prints l (f.withPatterns (some p) none) throttle now zone
    simp only [printed_withPatterns hf, acceptsLines_mustContain] at h
    exact h
  have hmisses :
      (make l (f.withPatterns none (some p)) throttle now zone).Prints l f.maxFrames zone
        misses := by
    have h := make_prints l (f.withPatterns none (some p)) throttle now zone
    simp only [printed_withPatterns hf, acceptsLines_mustNotContain] at h
    exact h
  have hlength : hits.length + misses.length = all.length :=
    (List.length_eq_length_filter_add found).symm
  refine ⟨_, _, _, all, hits, misses, hread, hread₁, hread₂, hall, by rwa [hinner],
    by rwa [houter], fun r hr => ?_, fun r hr hr' => ?_,
    Record.merge_filter (printed_before hl f throttle now) found, hlength,
    Ledger.sizes_filter all found, ?_⟩
  · rw [List.mem_filter, and_iff_right hr]
    exact f.any_texts p r.stack
  · have h := (List.mem_filter.mp hr).2
    have h' := (List.mem_filter.mp hr').2
    rw [h] at h'
    exact Bool.noConfusion h'
  · rw [hinner, houter, hall.emitted, hhits.emitted, hmisses.emitted]
    simp only [← List.length_pos_iff_ne_nil]
    omega

end Report

end

namespace Report

/-- Two records of the same frames in either order. -/
def within : Record Unit :=
  ⟨⟨0x20⟩, 750, ⟨5⟩, [⟨"app::alloc", none, none⟩, ⟨"app::main", none, none⟩], ()⟩

def without : Record Unit := ⟨⟨0x10⟩, 570, ⟨5⟩, within.stack.reverse, ()⟩

def both : Ledger Unit := Ledger.run {} [.add within, .add without]

theorem byAge_both : both.byAge = [without, within] := by
  have hperm : [without, within].Perm both.records.values := by decide
  have hsorted : [without, within].Pairwise fun r s => r.notAfter s = true := by decide
  have hboth : both.Conserved := Ledger.conserved_empty.run _
  exact hboth.byAge_eq_of_sorted hperm hsorted

theorem pattern_divides_report_of_crossed :
    let o := OptionLine.parse "maxFrames=1"
    let inside := OptionLine.parse "maxFrames=1,mustContain=alloc"
    let outside := OptionLine.parse "maxFrames=1,mustNotContain=alloc"
    (∃ p, Pattern.ofText? "alloc" = some p) ∧ o.FramesReadable ∧ o.Plain ∧
      inside.Extends o "mustContain" "alloc" ∧ outside.Extends o "mustNotContain" "alloc" ∧
      ∃ (f f₁ f₂ : Noted DumpFilter) (all hits misses : List (Record Unit)),
        DumpFilter.read o = .ok f ∧ DumpFilter.read inside = .ok f₁ ∧
        DumpFilter.read outside = .ok f₂ ∧
        let report := make both f.value 700 ⟨9⟩ Zone.utc
        let inner := make both f₁.value 700 ⟨9⟩ Zone.utc
        let outer := make both f₂.value 700 ⟨9⟩ Zone.utc
        report.Prints both 1 Zone.utc all ∧ inner.Prints both 1 Zone.utc hits ∧
        outer.Prints both 1 Zone.utc misses ∧ hits.merge misses Record.notAfter = all ∧
        report.lines = ["Allocated 570 bytes at 0x10",
          "Timestamp: Thu Jan 01 00:00:00 +00:00 1970", "Allocated at:", "\tapp::main",
          "Allocated 750 bytes at 0x20",
          "Timestamp: Thu Jan 01 00:00:00 +00:00 1970", "Allocated at:", "\tapp::alloc",
          "Printed 2 of 2 allocations with 1320 bytes (of 1320 bytes allocated in total)."] ∧
        inner.lines = ["Allocated 750 bytes at 0x20",
          "Timestamp: Thu Jan 01 00:00:00 +00:00 1970", "Allocated at:", "\tapp::alloc",
          "Printed 1 of 2 allocations with 750 bytes (of 1320 bytes allocated in total)."] ∧
        outer.lines = ["Allocated 570 bytes at 0x10",
          "Timestamp: Thu Jan 01 00:00:00 +00:00 1970", "Allocated at:", "\tapp::main",
          "Printed 1 of 2 allocations with 570 bytes (of 1320 bytes allocated in total)."] := by
  intro o inside outside
  have hp : Pattern.ofText? "alloc" = some ⟨"alloc"⟩ := by decide +kernel
  have hframes : o.FramesReadable :=
    OptionLine.framesReadable_of_text "1" 1 (by decide) (by decide)
  have hplain : o.Plain := ⟨by decide, by decide⟩
  have hinside : inside.Extends o "mustContain" "alloc" := by
    have hpairs : inside.pairs = o.pairs.put "mustContain" (some "alloc") := by decide
    exact ⟨by decide, fun k hk => by rw [hpairs, Keyed.get?_put_of_ne hk]⟩
  have houtside : outside.Extends o "mustNotContain" "alloc" := by
    have hpairs : outside.pairs = o.pairs.put "mustNotContain" (some "alloc") := by decide
    exact ⟨by decide, fun k hk => by rw [hpairs, Keyed.get?_put_of_ne hk]⟩
  obtain ⟨f, f₁, f₂, all, hits, misses, hread, hread₁, hread₂, hall, hhits, hmisses, -, -, hmerge,
    -⟩ := pattern_divides_report [.add within, .add without] 700 ⟨9⟩ Zone.utc hp hframes hplain
      hinside houtside
  refine ⟨⟨_, hp⟩, hframes, hplain, hinside, houtside, f, f₁, f₂, all, hits, misses, hread, hread₁,
    hread₂, ?_⟩
  obtain rfl : DumpFilter.readBounds o 1 = f := Except.ok.inj hread
  obtain rfl : DumpFilter.readBounds inside 1 = f₁ := Except.ok.inj hread₁
  obtain rfl : DumpFilter.readBounds outside 1 = f₂ := Except.ok.inj hread₂
  refine ⟨hall, hhits, hmisses, hmerge, ?_, ?_, ?_⟩ <;> rw [make_eq, accepted, byAge_both] <;>
    decide +kernel

end Report

end ResourceTrace
