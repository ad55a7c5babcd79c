import TvmDebugger.TensorData.Format

/-! numpy's process-wide print state over a sequence of `format_tensor` calls: what a call
installs stays installed, so a later call prints under it while its annotator assumes
numpy's default edge items.
-/

namespace TvmDebugger.TensorData

open TvmDebugger.Python

/-- A sequence of `format_tensor` calls in one process, from numpy's print state `state`:
the result of each call, and the print state after the last. -/
def formatTensorRun (printer : Printer) : List FormatTensorArgs → PrintState →
    List (Except PyError RichTextLines) × PrintState
  | [], state => ([], state)
  | args :: rest, state =>
      let run := formatTensorRun printer rest (formatTensor printer args state).2
      ((formatTensor printer args state).1 :: run.1, run.2)

/-- The value the last of a sequence of `np.set_printoptions` calls writes under key `k`,
where one of them writes it. -/
def lastWritten (k : String) : List (Option PrintOptions) → Option OptionValue
  | [] => none
  | options :: rest => (lastWritten k rest).or (options.bind (·.written k))

/-- A call that returns has installed its options: the print state it leaves is the one
`np.set_printoptions` gave, or the one before it for a call that never reached numpy. -/
theorem formatTensor_installs {printer : Printer} {args : FormatTensorArgs}
    {state : PrintState} {out : RichTextLines} (h : (formatTensor printer args state).1 = .ok out) :
    installPrintoptions args.installs state = .ok (formatTensor printer args state).2 := by
  obtain ⟨lines, call, none⟩ | ⟨e, call⟩ | ⟨tensor, formatted, installed, ndarray, -, install, call⟩ :=
    formatTensor_cases printer args state <;> rw [call] at h ⊢
  · rw [none]; rfl
  · cases h
  · simpa only [FormatTensorArgs.installs, ndarray] using install

/-- numpy's print options persist across `format_tensor` calls: after a run whose calls all
return, every option but `sign` holds what the last call to write it installed, else its
value before the run. A `format_tensor` that restored the options would leave each as it
was. -/
theorem formatTensorRun_options (printer : Printer) (calls : List FormatTensorArgs)
    (state : PrintState) {k : String} (sign : k ≠ "sign")
    (returned : ∀ r ∈ (formatTensorRun printer calls state).1, r.isOk) :
    (formatTensorRun printer calls state).2.formatOptions.get? k
      = (lastWritten k (calls.map (·.installs))).or (state.formatOptions.get? k) := by
  induction calls generalizing state with
  | nil => rfl
  | cons args rest ih =>
    have first : (formatTensor printer args state).1.isOk := returned _ (List.mem_cons_self _ _)
    obtain ⟨out, ok⟩ : ∃ out, (formatTensor printer args state).1 = .ok out := by
      revert first
      cases (formatTensor printer args state).1 with
      | ok out => exact fun _ => ⟨out, rfl⟩
      | error e => exact fun raised => by cases raised
    have step := get?_installPrintoptions (formatTensor_installs ok) sign
    calc (formatTensorRun printer rest (formatTensor printer args state).2).2.formatOptions.get? k
        = (lastWritten k (rest.map (·.installs))).or
            ((formatTensor printer args state).2.formatOptions.get? k) :=
          ih _ (fun r member => returned r (List.mem_cons_of_mem _ member))
      _ = _ := by rw [step, ← Option.or_assoc]; rfl

/-- `np.arange(6).reshape(3, 2)`. -/
def zeroToFive : NdArray :=
  ⟨⟨.integer, "int64"⟩, [3, 2], [.finite 0, .finite 1, .finite 2, .finite 3, .finite 4, .finite 5],
    rfl, by decide⟩

/-- numpy's text of `zeroToFive` under a print state with an int threshold and at least one
edge item: with more than `threshold` elements and one edge item its rows are summarized to
the first and the last, else it is printed whole. -/
def zeroToFivePrinter : Printer :=
  ⟨fun state _ => match state.option "threshold", state.option "edgeitems" with
    | .int threshold, .int 1 =>
        if threshold < 6 then "array([[0, 1],\n       ...,\n       [4, 5]])"
        else "array([[0, 1],\n       [2, 3],\n       [4, 5]])"
    | _, _ => "array([[0, 1],\n       [2, 3],\n       [4, 5]])",
    fun _ _ _ => "", fun _ _ => ""⟩

/-- `format_tensor(zeroToFive, None, np_printoptions={'threshold': 1, 'edgeitems': 1})`. -/
def zeroToFiveSummarized : FormatTensorArgs :=
  { FormatTensorArgs.ofTensor (.ndarray zeroToFive) none with
    npPrintoptions := some ⟨[("threshold", .int 1), ("edgeitems", .int 1)]⟩ }

/-- The run above leaves `edgeitems` at the 1 its first call installed. -/
theorem formatTensorRun_options_zeroToFive :
    "edgeitems" ≠ "sign" ∧
    (∀ r ∈ (formatTensorRun zeroToFivePrinter
      [zeroToFiveSummarized, .ofTensor (.ndarray zeroToFive) none] .empty).1, r.isOk) ∧
    (formatTensorRun zeroToFivePrinter [zeroToFiveSummarized, .ofTensor (.ndarray zeroToFive) none]
      .empty).2.formatOptions.get? "edgeitems"
      = (lastWritten "edgeitems"
          ([zeroToFiveSummarized, .ofTensor (.ndarray zeroToFive) none].map (·.installs))).or
          (PrintState.empty.formatOptions.get? "edgeitems") :=
  have returned : ∀ r ∈ (formatTensorRun zeroToFivePrinter
      [zeroToFiveSummarized, .ofTensor (.ndarray zeroToFive) none] .empty).1, r.isOk := by
    decide
  ⟨by decide, returned, formatTensorRun_options zeroToFivePrinter
    [zeroToFiveSummarized, .ofTensor (.ndarray zeroToFive) none] .empty (by decide) returned⟩

end TvmDebugger.TensorData
