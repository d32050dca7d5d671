import CilDisassembly.Listing.Program

/-!
# What programs write

What a listing program writes and how it ends does not depend on the sink, as long as the
text fits. If it does not fit, the sink keeps the part that does, and the program ends with
the failure of the sink, whatever would have happened later. A program of this kind `Writes` a
text with a result, and it `Puts` the text if it logs nothing as well. Each step of a program
is of this kind, and so are sequences of steps (`Listing.Writes.bind`, `Listing.Puts.bind`).
-/

set_option autoImplicit false

namespace CilDisassembly

/-! ## Room for several texts -/

namespace Sink

@[simp] theorem fits_nil (sink : Sink) : sink.fits [] = true := by
  rw [fits]
  cases sink.room with
  | none => rfl
  | some room => exact decide_eq_true (Nat.zero_le room)

@[simp] theorem put_nil (sink : Sink) : sink.put [] = sink := by
  obtain ⟨content, room⟩ := sink
  cases room <;> simp [put, accepted]

/-- Texts put in one after the other are put in as one. -/
theorem put_put (sink : Sink) (first second : Text) :
    (sink.put first).put second = sink.put (first ++ second) := by
  obtain ⟨content, room⟩ := sink
  cases room with
  | none => simp [put, accepted, String.append_assoc]
  | some room =>
      simp [put, accepted, String.append_assoc, List.take_append, Nat.sub_sub]

/-- Two texts fit exactly when the first one fits, and the second one into what it leaves. -/
theorem fits_append (sink : Sink) (first second : Text) :
    sink.fits (first ++ second) = (sink.fits first && (sink.put first).fits second) := by
  obtain ⟨content, room⟩ := sink
  cases room with
  | none => rfl
  | some room =>
      simp only [fits, put, Option.map_some, List.length_append]
      rw [Bool.eq_iff_iff, Bool.and_eq_true, decide_eq_true_eq, decide_eq_true_eq,
        decide_eq_true_eq]
      omega

/-- Behind a text that does not fit nothing is kept. -/
theorem put_append_of_not_fits {sink : Sink} {first : Text} (second : Text)
    (h : sink.fits first = false) : sink.put (first ++ second) = sink.put first := by
  obtain ⟨content, room⟩ := sink
  cases room with
  | none => cases h
  | some room =>
      have hlong : room < first.length := by
        rw [fits] at h
        exact Nat.not_le.1 (of_decide_eq_false h)
      have htake : (first ++ second).take room = first.take room :=
        List.take_append_of_le_length (Nat.le_of_lt hlong)
      have hroom : room - (first ++ second).length = room - first.length := by
        rw [List.length_append]
        omega
      simp only [put, accepted, Option.map_some, htake, hroom]

end Sink

/-! ## Sinks without a limit -/

/-- A sink without a limit. -/
def Sink.IsUnlimited (sink : Sink) : Prop :=
  sink.room = none

theorem Sink.IsUnlimited.fits {sink : Sink} (h : sink.IsUnlimited) (text : Text) :
    sink.fits text = true := by
  rw [Sink.fits, h]

/-- A sink without a limit holds all that was put into it. -/
theorem Sink.IsUnlimited.content_put {sink : Sink} (h : sink.IsUnlimited) (text : Text) :
    (sink.put text).content.toList = sink.content.toList ++ text := by
  rw [Sink.content_put, accepted, h]

/-- An output after some text was put into its sink. -/
def Output.append (output : Output) (text : Text) : Output :=
  { output with sink := output.sink.put text }

/-! ## Programs that the sink only cuts short -/

namespace Listing

variable {α β : Type}

/-- On every sink the program puts the text into it, and has the result unless the text does
not fit. -/
structure Writes (program : Listing α) (text : Text) (result : Except ListingError α) :
    Prop where
  result_eq : ∀ output : Output, (program.run output).1 =
    if output.sink.fits text then result else .error .sinkFull
  sink_eq : ∀ output : Output, (program.run output).2.sink = output.sink.put text

theorem writes_pure (value : α) : (pure value : Listing α).Writes [] (.ok value) := by
  refine ⟨fun output => ?_, fun output => ?_⟩
  · rw [run_pure, Sink.fits_nil]
    rfl
  · rw [run_pure, Sink.put_nil]

theorem writes_throw (error : ListingError) :
    (throw error : Listing α).Writes [] (.error error) := by
  refine ⟨fun output => ?_, fun output => ?_⟩
  · rw [run_throw, Sink.fits_nil]
    rfl
  · rw [run_throw, Sink.put_nil]

theorem writes_emit (text : Text) : (emit text).Writes text (.ok ()) := by
  refine ⟨fun output => ?_, fun output => ?_⟩
  · rw [run_emit]
  · rw [run_emit]

theorem writes_record (events : List Event) : (record events).Writes [] (.ok ()) := by
  refine ⟨fun output => ?_, fun output => ?_⟩
  · rw [run_record, Sink.fits_nil]
    rfl
  · rw [run_record, Sink.put_nil]

theorem run_bind_of_ok {program : Listing α} (next : α → Listing β) {output : Output}
    {value : α} (h : (program.run output).1 = .ok value) :
    (program >>= next).run output = (next value).run (program.run output).2 := by
  rw [run_bind]
  generalize program.run output = outcome at h
  obtain ⟨result, after⟩ := outcome
  cases h
  rfl

theorem run_bind_of_error {program : Listing α} (next : α → Listing β) {output : Output}
    {error : ListingError} (h : (program.run output).1 = .error error) :
    (program >>= next).run output = (.error error, (program.run output).2) := by
  rw [run_bind]
  generalize program.run output = outcome at h
  obtain ⟨result, after⟩ := outcome
  cases h
  rfl

/-- Behind a program that does not fail of its own the next one is run, if the text fits. -/
theorem Writes.run_bind {program : Listing α} {text : Text} {value : α}
    (h : program.Writes text (.ok value)) (next : α → Listing β) (output : Output) :
    (program >>= next).run output =
      if output.sink.fits text then (next value).run (program.run output).2
      else (.error .sinkFull, (program.run output).2) := by
  have hresult := h.result_eq output
  split
  · next hfits => exact run_bind_of_ok next (by rw [hresult, if_pos hfits])
  · next hfull => exact run_bind_of_error next (by rw [hresult, if_neg hfull])

/-- Behind a program that fails of its own nothing is run. -/
theorem Writes.run_bind_error {program : Listing α} {text : Text} {error : ListingError}
    (h : program.Writes text (.error error)) (next : α → Listing β) (output : Output) :
    (program >>= next).run output =
      (if output.sink.fits text then .error error else .error .sinkFull,
        (program.run output).2) := by
  have hresult := h.result_eq output
  -- the program fails in either case, only the reason differs
  split
  · next hfits => exact run_bind_of_error next (by rw [hresult, if_pos hfits])
  · next hfull => exact run_bind_of_error next (by rw [hresult, if_neg hfull])

/-- A sequence writes the texts of its parts, if the first part does not fail. -/
theorem Writes.bind {program : Listing α} {next : α → Listing β} {first second : Text}
    {value : α} {result : Except ListingError β} (hprogram : program.Writes first (.ok value))
    (hnext : (next value).Writes second result) :
    (program >>= next).Writes (first ++ second) result := by
  refine ⟨fun output => ?_, fun output => ?_⟩
  · rw [hprogram.run_bind, Sink.fits_append]
    split
    · next hfits => rw [hnext.result_eq, hprogram.sink_eq, hfits, Bool.true_and]
    · next hfull =>
        rw [Bool.eq_false_iff.2 hfull, Bool.false_and]
        rfl
  · rw [hprogram.run_bind]
    split
    · rw [hnext.sink_eq, hprogram.sink_eq, Sink.put_put]
    · next hfull =>
        -- the sink is full, so that the second text would not be kept either
        rw [Sink.put_append_of_not_fits second (Bool.eq_false_iff.2 hfull)]
        exact hprogram.sink_eq output

/-- A failure of the first part of a sequence ends it. -/
theorem Writes.bind_error {program : Listing α} (next : α → Listing β) {text : Text}
    {error : ListingError} (hprogram : program.Writes text (.error error)) :
    (program >>= next).Writes text (.error error) := by
  refine ⟨fun output => ?_, fun output => ?_⟩
  · rw [hprogram.run_bind_error]
  · rw [hprogram.run_bind_error]
    exact hprogram.sink_eq output

/-! ## Programs that log nothing -/

/-- The program writes the text with the result, and leaves the log as it was. -/
structure Puts (program : Listing α) (text : Text) (result : Except ListingError α) : Prop
    extends program.Writes text result where
  log_eq : ∀ output : Output, (program.run output).2.log = output.log

theorem puts_pure (value : α) : (pure value : Listing α).Puts [] (.ok value) where
  toWrites := writes_pure value
  log_eq output := by rw [run_pure]

theorem puts_throw (error : ListingError) :
    (throw error : Listing α).Puts [] (.error error) where
  toWrites := writes_throw error
  log_eq output := by rw [run_throw]

theorem puts_emit (text : Text) : (emit text).Puts text (.ok ()) where
  toWrites := writes_emit text
  log_eq output := by rw [run_emit]

theorem Puts.bind {program : Listing α} {next : α → Listing β} {first second : Text}
    {value : α} {result : Except ListingError β} (hprogram : program.Puts first (.ok value))
    (hnext : (next value).Puts second result) :
    (program >>= next).Puts (first ++ second) result where
  toWrites := hprogram.toWrites.bind hnext.toWrites
  log_eq output := by
    rw [hprogram.toWrites.run_bind]
    split
    · rw [hnext.log_eq, hprogram.log_eq]
    · exact hprogram.log_eq output

theorem Puts.bind_error {program : Listing α} (next : α → Listing β) {text : Text}
    {error : ListingError} (hprogram : program.Puts text (.error error)) :
    (program >>= next).Puts text (.error error) where
  toWrites := hprogram.toWrites.bind_error next
  log_eq output := by
    rw [hprogram.toWrites.run_bind_error]
    exact hprogram.log_eq output

/-- Steps that are taken for one value after the other put their texts one behind the other. -/
theorem puts_forM {step : α → Listing Unit} {text : α → Text} (values : List α)
    (h : ∀ value : α, (step value).Puts (text value) (.ok ())) :
    (values.forM step).Puts (values.flatMap text) (.ok ()) := by
  induction values with
  | nil => exact puts_pure ()
  | cons value rest ih => exact (h value).bind ih

/-- The text and the result are all that there is to know of a program. -/
theorem Puts.run_eq {program : Listing α} {text : Text} {result : Except ListingError α}
    (h : program.Puts text result) (output : Output) :
    program.run output =
      (if output.sink.fits text then result else .error .sinkFull, output.append text) := by
  rw [Output.append, ← h.result_eq output, ← h.sink_eq output, ← h.log_eq output]

/-- On a sink without a limit the text is all that a program leaves. -/
theorem Puts.run_of_isUnlimited {program : Listing α} {text : Text}
    {result : Except ListingError α} (h : program.Puts text result) {output : Output}
    (hsink : output.sink.IsUnlimited) : program.run output = (result, output.append text) := by
  rw [h.run_eq, hsink.fits, if_pos rfl]

/-! ## Sequences

A program need not be known in advance to be one that the sink only cuts short: it is enough
that its parts are, whatever values they hand on. -/

/-- The program writes some text with some result. -/
def IsCutOnly (program : Listing α) : Prop :=
  ∃ (text : Text) (result : Except ListingError α), program.Writes text result

theorem isCutOnly_pure (value : α) : (pure value : Listing α).IsCutOnly :=
  ⟨_, _, writes_pure value⟩

theorem isCutOnly_record (events : List Event) : (record events).IsCutOnly :=
  ⟨_, _, writes_record events⟩

theorem isCutOnly_throw (error : ListingError) : (throw error : Listing α).IsCutOnly :=
  ⟨_, _, writes_throw error⟩

theorem isCutOnly_ofExcept {ε : Type} (fail : ε → ListingError) (result : Except ε α) :
    (ofExcept fail result).IsCutOnly := by
  cases result with
  | ok value => exact isCutOnly_pure value
  | error error => exact isCutOnly_throw (fail error)

/-- A sequence is cut only if its parts are. -/
theorem IsCutOnly.bind {program : Listing α} {next : α → Listing β}
    (hprogram : program.IsCutOnly) (hnext : ∀ value : α, (next value).IsCutOnly) :
    (program >>= next).IsCutOnly := by
  obtain ⟨first, result, hfirst⟩ := hprogram
  cases result with
  | ok value =>
      obtain ⟨second, result, hsecond⟩ := hnext value
      exact ⟨_, _, hfirst.bind hsecond⟩
  | error error => exact ⟨_, _, hfirst.bind_error next⟩

end Listing

end CilDisassembly
