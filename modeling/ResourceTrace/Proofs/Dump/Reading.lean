import ResourceTrace.Proofs.Dump.Report

set_option autoImplicit false

namespace ResourceTrace

namespace OptionLine

/-- The number of frames is left open, or it is a number of 32 bits. -/
def FramesReadable (o : OptionLine) : Prop :=
  ∀ value, o.pairs.get? "maxFrames" = some value →
    ∃ text i, value = some text ∧ Numeral.readInt32? text.toList = some i

theorem framesReadable_of_text {o : OptionLine} (text : String) (i : Int)
    (hvalue : o.pairs.get? "maxFrames" = some (some text))
    (hi : Numeral.readInt32? text.toList = some i) : o.FramesReadable := by
  intro value h
  rw [hvalue] at h
  exact ⟨text, i, (Option.some.inj h).symm, hi⟩

/-- The pattern of a key. A text that is no pattern counts as little as no text. -/
def patternOf? [PatternEngine] (o : OptionLine) (key : String) : Option Pattern :=
  ((o.pairs.get? key).getD none).bind Pattern.ofText?

theorem value_pattern [PatternEngine] (o : OptionLine) (key : String) :
    (o.pattern key none).value = o.patternOf? key := by
  rw [pattern, pattern?, strict, patternOf?]
  cases o.pairs.get? key with
  | none => rfl
  | some value =>
    cases value with
    | none => rfl
    | some text =>
      cases hc : Pattern.compile text <;> simp [readPattern, Pattern.ofText?, hc, Except.map,
        Except.toOption]

theorem value_lenient {α : Type} (o : OptionLine) (key : String) (default : α)
    (x : Except OptionError (Option α)) :
    (o.lenient key default x).value = (x.toOption.bind id).getD default := by
  cases x with
  | error e => rfl
  | ok value => rfl

theorem exists_int {o : OptionLine} (h : o.FramesReadable) (default : Int) :
    ∃ n, o.int "maxFrames" default = .ok n := by
  cases hvalue : o.pairs.get? "maxFrames" with
  | none => exact ⟨default, by simp [int, int?, strict, hvalue]⟩
  | some value =>
    obtain ⟨text, i, rfl, hi⟩ := h value hvalue
    exact ⟨i, by simp [int, int?, strict, hvalue, readInt32, hi, Except.map]⟩

section

variable {o o' : OptionLine} {key : String} (h : o'.pairs.get? key = o.pairs.get? key)

include h

theorem strict_congr {α : Type} (read : String → Except OptionError α) :
    o'.strict key read = o.strict key read := by
  rw [strict, strict, h]

theorem size_congr (default : Int) : (o'.size key default).value = (o.size key default).value := by
  rw [size, size, value_lenient, value_lenient, size?, size?, strict_congr h]

theorem long_congr (default : Int) : (o'.long key default).value = (o.long key default).value := by
  rw [long, long, value_lenient, value_lenient, long?, long?, strict_congr h]

theorem duration_congr (default : Int) :
    (o'.duration key default).value = (o.duration key default).value := by
  rw [duration, duration, value_lenient, value_lenient, duration?, duration?, strict_congr h]

theorem int_congr {n default : Int} (hn : o.int key default = .ok n) :
    o'.int key default = .ok n := by
  rw [int, int?] at hn ⊢
  rw [strict_congr h]
  cases hs : o.strict key readInt32 with
  | ok value => rwa [hs] at hn
  | error e =>
    rw [hs] at hn
    cases hn

end

end OptionLine

namespace DumpFilter

variable [PatternEngine]

theorem exists_read {o : OptionLine} (h : o.FramesReadable) :
    ∃ n, o.int "maxFrames" defaultMaxFrames = .ok n ∧ read o = .ok (readBounds o n) := by
  obtain ⟨n, hn⟩ := OptionLine.exists_int h defaultMaxFrames
  exact ⟨n, hn, by rw [read, hn, Except.map]⟩

theorem value_readBounds (o : OptionLine) (n : Int) :
    (readBounds o n).value =
      { maxFrames := n.toNat
        minSize := (o.size "minSize" 0).value
        minStackSize := (o.size "minStackSize" 0).value
        minIncrease := (o.size "minIncrease" (-1)).value
        minShare := share (o.long "minPercentage" 0).value
        minAge := (o.duration "minAge" 0).value.toNat
        maxAge := (o.duration "maxAge" defaultMaxAge).value.toNat
        mustContain := o.patternOf? "mustContain"
        mustNotContain := o.patternOf? "mustNotContain" } := by
  rw [← o.value_pattern "mustContain", ← o.value_pattern "mustNotContain"]
  rfl

theorem mustContain_readBounds (o : OptionLine) (n : Int) :
    (readBounds o n).value.mustContain = o.patternOf? "mustContain" := by
  rw [value_readBounds]

theorem mustNotContain_readBounds (o : OptionLine) (n : Int) :
    (readBounds o n).value.mustNotContain = o.patternOf? "mustNotContain" := by
  rw [value_readBounds]

theorem value_readBounds_congr {o o' : OptionLine}
    (h : ∀ key, key ≠ "mustContain" → key ≠ "mustNotContain" →
      o'.pairs.get? key = o.pairs.get? key) (n : Int) :
    (readBounds o' n).value =
      { (readBounds o n).value with
        mustContain := o'.patternOf? "mustContain"
        mustNotContain := o'.patternOf? "mustNotContain" } := by
  have hsize := OptionLine.size_congr (h "minSize" (by decide) (by decide))
  have hstack := OptionLine.size_congr (h "minStackSize" (by decide) (by decide))
  have hincrease := OptionLine.size_congr (h "minIncrease" (by decide) (by decide))
  have hpercentage := OptionLine.long_congr (h "minPercentage" (by decide) (by decide))
  have hmin := OptionLine.duration_congr (h "minAge" (by decide) (by decide))
  have hmax := OptionLine.duration_congr (h "maxAge" (by decide) (by decide))
  rw [value_readBounds, value_readBounds, hsize, hstack, hincrease, hpercentage, hmin, hmax]

end DumpFilter

end ResourceTrace
