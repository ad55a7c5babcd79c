import TvmDebugger.TensorData.Basic

/-! `_annotate_ndarray_lines`: the state machine that reads numpy's text for an array line
by line, counting brackets, and annotates each line with the indices it starts at.
-/

namespace TvmDebugger.TensorData

open TvmDebugger.Python

/-- `_NUMPY_OMISSION`. -/
def numpyOmission : List Char := "...,".toList

/-- `_NUMPY_DEFAULT_EDGE_ITEMS`. -/
def numpyDefaultEdgeItems : Int := 3

/-- The edge-items count the annotator uses: `np_printoptions["edgeitems"]` when the
options hold that key, else `_NUMPY_DEFAULT_EDGE_ITEMS`. -/
def annotatorEdgeItems (npPrintoptions : Option PrintOptions) : OptionValue :=
  match npPrintoptions.bind (·.get? "edgeitems") with
  | some v => v
  | none => .int numpyDefaultEdgeItems

/-- `x - edge_items`: an int, or a bool as 0 or 1; None, a str or another object is a
TypeError. -/
def subEdgeItems (x : Int) : OptionValue → Except PyError Int
  | .int e => .ok (x - e)
  | .bool b => .ok (x - if b then 1 else 0)
  | .none | .str _ | .other _ _ => .error .typeError

/-- `xs[j] += n`. -/
def addAt (xs : List Int) (j : Int) (n : Int) : Except PyError (List Int) := do
  setItem xs j ((← getItem xs j) + n)

/-- `for k in range(d, len(xs)): xs[k] = 0`. -/
def resetFrom (d : Nat) (xs : List Int) : List Int :=
  xs.take d ++ List.replicate (xs.length - d) 0

/-- What `_annotate_ndarray_lines` carries from one line to the next. -/
structure AnnotatorState where
  currIndices : List Int
  currDim : Int
  annotations : Dict Nat LineAnnot
  deriving DecidableEq, Repr

section Annotator

variable (dims : List Nat) (edgeItems : OptionValue) (offset : Nat)

/-- One pass of the loop body of `_annotate_ndarray_lines`, on line `i` with text `raw`. -/
def annotateLine (st : AnnotatorState) (i : Nat) (raw : String) :
    Except PyError AnnotatorState :=
  let line := strip raw.toList
  if line = [] then .ok st
  else if line = numpyOmission then do
    let resume ← subEdgeItems (← getItem dims (st.currDim - 1)) edgeItems
    let currIndices ← setItem st.currIndices (st.currDim - 1) resume
    pure ⟨currIndices, st.currDim,
      st.annotations.insert (offset + i) (.omission st.currIndices)⟩
  else
    let numRbrackets := line.count ']'
    let currDim := st.currDim + line.count '[' - numRbrackets
    let annotations := st.annotations.insert (offset + i) (.begin st.currIndices)
    if numRbrackets = 0 then do
      let lineContent := line.drop (rfind line '[' + 1).toNat
      let currIndices ← addAt st.currIndices (currDim - 1) (lineContent.count ',')
      pure ⟨currIndices, currDim, annotations⟩
    else if 0 < currDim then do
      let currIndices ← addAt st.currIndices (currDim - 1) 1
      pure ⟨resetFrom currDim.toNat currIndices, currDim, annotations⟩
    else pure ⟨st.currIndices, currDim, annotations⟩

/-- The loop of `_annotate_ndarray_lines` over the lines from index `i` on. -/
def annotateLines : Nat → List String → AnnotatorState → Except PyError AnnotatorState
  | _, [], st => .ok st
  | i, raw :: rest, st => do annotateLines (i + 1) rest (← annotateLine dims edgeItems offset st i raw)

end Annotator

/-- `_annotate_ndarray_lines(array_lines, tensor, np_printoptions, offset)`: the tensor
metadata and the line annotations; a 0-d tensor gets no line annotations. -/
def annotateNdarrayLines (arrayLines : List String) (tensor : NdArray)
    (npPrintoptions : Option PrintOptions) (offset : Nat) :
    Except PyError (TensorMetadata × Dict Nat LineAnnot) := do
  let metadata : TensorMetadata := ⟨tensor.dtype, tensor.shape⟩
  if tensor.shape = [] then return (metadata, .empty)
  let start : AnnotatorState := ⟨List.replicate tensor.shape.length 0, 0, .empty⟩
  let final ← annotateLines tensor.shape (annotatorEdgeItems npPrintoptions) offset 0
    arrayLines start
  return (metadata, final.annotations)

/-- `np.arange(2000.)`. -/
def arange2000 : NdArray :=
  ⟨⟨.floating, "float64"⟩, [2000], (List.range 2000).map (fun i : Nat => Scalar.finite i),
    by rw [List.length_map, List.length_range]; rfl, fun _ _ => trivial⟩

/-- numpy prints `np.arange(2000.)` with the default print options as the two lines below;
the second prints element 1999 alone. The comma count of the first line includes the one
of its inline `...,`, so the second line is annotated as beginning at index 6. -/
theorem annotate_arange2000_wrapped_row :
    annotateNdarrayLines
      ["array([0.000e+00, 1.000e+00, 2.000e+00, ..., 1.997e+03, 1.998e+03,",
        "       1.999e+03])"] arange2000 none 0
      = .ok (⟨⟨.floating, "float64"⟩, [2000]⟩, ⟨[(1, .begin [6]), (0, .begin [0])]⟩) := by
  decide

-----------------------------------------------------------------------------------------
-- What the annotations are
-----------------------------------------------------------------------------------------

/-- `xs[j] += n` keeps the length of `xs`. -/
theorem addAt_length {xs ys : List Int} {j n : Int} (h : addAt xs j n = .ok ys) :
    ys.length = xs.length := by
  simp only [addAt, bind_eq_ok] at h
  obtain ⟨_, -, h⟩ := h
  exact setItem_length h

@[simp] theorem resetFrom_length (d : Nat) (xs : List Int) :
    (resetFrom d xs).length = xs.length := by
  simp only [resetFrom, List.length_append, List.length_take, List.length_replicate]
  omega

/-- Every index list of an annotation has `n` entries. -/
def LineAnnot.HasRank (n : Nat) (a : LineAnnot) : Prop :=
  (∀ ind, a.i0 = some ind → ind.length = n) ∧ ∀ ind, a.omitted = some ind → ind.length = n

/-- One line of the annotator: a blank line changes nothing; any other line is annotated at
`offset + i` with indices of the length the current ones have, which it keeps. -/
theorem annotateLine_cases {dims : List Nat} {edgeItems : OptionValue} {offset : Nat}
    {st st' : AnnotatorState} {i : Nat} {raw : String}
    (h : annotateLine dims edgeItems offset st i raw = .ok st') :
    (strip raw.toList = [] ∧ st' = st) ∨
      (strip raw.toList ≠ [] ∧ st'.currIndices.length = st.currIndices.length ∧
        ∃ a, a.HasRank st.currIndices.length ∧
          st'.annotations = st.annotations.insert (offset + i) a) := by
  have began : (LineAnnot.begin st.currIndices).HasRank st.currIndices.length :=
    ⟨fun _ h => by cases h; rfl, fun _ h => by cases h⟩
  have omitted : (LineAnnot.omission st.currIndices).HasRank st.currIndices.length :=
    ⟨fun _ h => (by cases h), fun _ h => by cases h; rfl⟩
  unfold annotateLine at h
  dsimp only at h
  split_ifs at h with blank omission empty open_
  · exact .inl ⟨blank, (Except.ok.inj h).symm⟩
  · simp only [bind_eq_ok, pure_eq_ok, Except.ok.injEq] at h
    obtain ⟨_, -, _, -, _, set, rfl⟩ := h
    exact .inr ⟨blank, setItem_length set, _, omitted, rfl⟩
  · simp only [bind_eq_ok, pure_eq_ok, Except.ok.injEq] at h
    obtain ⟨_, added, rfl⟩ := h
    exact .inr ⟨blank, addAt_length added, _, began, rfl⟩
  · simp only [bind_eq_ok, pure_eq_ok, Except.ok.injEq] at h
    obtain ⟨_, added, rfl⟩ := h
    exact .inr ⟨blank, by simp [addAt_length added], _, began, rfl⟩
  · obtain rfl := (Except.ok.inj h).symm
    exact .inr ⟨blank, rfl, _, began, rfl⟩

/-- A line of a list is its head or a line of its tail. -/
theorem exists_getElem?_cons {α : Type} (x : α) (xs : List α) (P : Nat → α → Prop) :
    (∃ j y, (x :: xs)[j]? = some y ∧ P j y) ↔ P 0 x ∨ ∃ j y, xs[j]? = some y ∧ P (j + 1) y := by
  constructor
  · rintro ⟨j, y, found, holds⟩
    cases j with
    | zero =>
      rw [List.getElem?_cons_zero, Option.some.injEq] at found
      exact .inl (found ▸ holds)
    | succ j =>
      rw [List.getElem?_cons_succ] at found
      exact .inr ⟨j, y, found, holds⟩
  · rintro (holds | ⟨j, y, found, holds⟩)
    · exact ⟨0, x, List.getElem?_cons_zero, holds⟩
    · exact ⟨j + 1, y, List.getElem?_cons_succ.trans found, holds⟩

/-- The loop of the annotator from line `i` on annotates exactly the non-blank lines, at
`offset + i` on, each with indices of the length the current ones have, by induction on the
lines. -/
theorem annotateLines_annotations {dims : List Nat} {edgeItems : OptionValue} {offset : Nat} :
    ∀ {i : Nat} {lines : List String} {st st' : AnnotatorState},
      annotateLines dims edgeItems offset i lines st = .ok st' →
      st'.currIndices.length = st.currIndices.length ∧
      (∀ k, k ∈ st'.annotations.keys ↔ k ∈ st.annotations.keys ∨
        ∃ j raw, lines[j]? = some raw ∧ strip raw.toList ≠ [] ∧ k = offset + i + j) ∧
      ∀ e ∈ st'.annotations.entries, e ∈ st.annotations.entries ∨
        e.2.HasRank st.currIndices.length
  | _, [], _, _, h => by
      obtain rfl := (Except.ok.inj h).symm
      exact ⟨rfl, fun k => by simp, fun e member => .inl member⟩
  | i, raw :: rest, st, st', h => by
      simp only [annotateLines, bind_eq_ok] at h
      obtain ⟨st₁, first, h⟩ := h
      obtain ⟨length, keys, entries⟩ := annotateLines_annotations h
      have shift : ∀ j, offset + (i + 1) + j = offset + i + (j + 1) := fun j => by omega
      rcases annotateLine_cases first with ⟨blank, rfl⟩ | ⟨kept, length₁, a, ranked, annotated⟩
      · refine ⟨length, fun k => ?_, entries⟩
        rw [keys, exists_getElem?_cons]
        simp only [blank, shift, ne_eq, not_true_eq_false, false_and, false_or]
      · refine ⟨length.trans length₁, fun k => ?_, fun e member => ?_⟩
        · rw [keys, annotated, Dict.mem_keys_insert_iff, exists_getElem?_cons]
          simp only [shift, kept, Nat.add_zero, ne_eq, not_false_eq_true, true_and]
          exact or_assoc.trans or_left_comm
        · rcases entries e member with member | ranked'
          · rw [annotated] at member
            rcases Dict.mem_entries_insert member with rfl | old
            · exact .inr ranked
            · exact .inl old
          · exact .inr (length₁ ▸ ranked')

/-- What `_annotate_ndarray_lines` returns: no annotation for a 0-d tensor, else the
annotations of the loop started from the all-zero coordinate. -/
theorem annotateNdarrayLines_eq {arrayLines : List String} {tensor : NdArray}
    {npPrintoptions : Option PrintOptions} {offset : Nat} {metadata : TensorMetadata}
    {annotations : Dict Nat LineAnnot}
    (h : annotateNdarrayLines arrayLines tensor npPrintoptions offset = .ok (metadata, annotations)) :
    (tensor.shape = [] ∧ annotations = .empty) ∨
      (tensor.shape ≠ [] ∧ ∃ final, annotateLines tensor.shape (annotatorEdgeItems npPrintoptions)
        offset 0 arrayLines ⟨List.replicate tensor.shape.length 0, 0, .empty⟩ = .ok final ∧
        annotations = final.annotations) := by
  unfold annotateNdarrayLines at h
  split at h
  · next scalar => exact .inl ⟨scalar, (Prod.mk.inj (Except.ok.inj h)).2.symm⟩
  · next ranked =>
    simp only [bind_eq_ok, pure_eq_ok, Except.ok.injEq, Prod.mk.injEq] at h
    obtain ⟨_, -, final, run, -, rfl⟩ := h
    exact .inr ⟨ranked, final, run, rfl⟩

/-- The lines `_annotate_ndarray_lines` annotates: the non-blank ones, at `offset` plus
their position, and none of a 0-d tensor. -/
theorem annotateNdarrayLines_keys {arrayLines : List String} {tensor : NdArray}
    {npPrintoptions : Option PrintOptions} {offset : Nat} {metadata : TensorMetadata}
    {annotations : Dict Nat LineAnnot}
    (h : annotateNdarrayLines arrayLines tensor npPrintoptions offset = .ok (metadata, annotations))
    (k : Nat) :
    k ∈ annotations.keys ↔ tensor.shape ≠ [] ∧
      ∃ j raw, arrayLines[j]? = some raw ∧ strip raw.toList ≠ [] ∧ k = offset + j := by
  rcases annotateNdarrayLines_eq h with ⟨scalar, rfl⟩ | ⟨ranked, final, run, rfl⟩
  · simp [scalar]
  · simpa [Dict.keys, Dict.empty, ranked] using (annotateLines_annotations run).2.1 k

/-- `_annotate_ndarray_lines` annotates exactly the non-blank lines of numpy's text, at
`offset` plus their position, each with indices of the tensor's rank; a 0-d tensor gets no
line annotation. -/
theorem annotateNdarrayLines_annotations {arrayLines : List String} {tensor : NdArray}
    {npPrintoptions : Option PrintOptions} {offset : Nat} {metadata : TensorMetadata}
    {annotations : Dict Nat LineAnnot}
    (h : annotateNdarrayLines arrayLines tensor npPrintoptions offset = .ok (metadata, annotations)) :
    (∀ k, k ∈ annotations.keys ↔ tensor.shape ≠ [] ∧
      ∃ j raw, arrayLines[j]? = some raw ∧ strip raw.toList ≠ [] ∧ k = offset + j) ∧
    ∀ e ∈ annotations.entries, e.2.HasRank tensor.shape.length := by
  refine ⟨annotateNdarrayLines_keys h, fun e member => ?_⟩
  rcases annotateNdarrayLines_eq h with ⟨-, rfl⟩ | ⟨-, final, run, rfl⟩
  · simp [Dict.empty] at member
  · simpa [Dict.empty] using (annotateLines_annotations run).2.2 e member

/-- numpy's two lines for `np.arange(2000.)`. -/
def arange2000Lines : List String :=
  ["array([0.000e+00, 1.000e+00, 2.000e+00, ..., 1.997e+03, 1.998e+03,", "       1.999e+03])"]

/-- Annotated from offset 2, both lines are, at 2 and 3, with one index each. -/
theorem annotateNdarrayLines_annotations_arange2000 :
    annotateNdarrayLines arange2000Lines arange2000 none 2
        = .ok (⟨⟨.floating, "float64"⟩, [2000]⟩, ⟨[(3, .begin [6]), (2, .begin [0])]⟩) ∧
      (∀ k, k ∈ (⟨[(3, .begin [6]), (2, .begin [0])]⟩ : Dict Nat LineAnnot).keys ↔
        arange2000.shape ≠ [] ∧
          ∃ j raw, arange2000Lines[j]? = some raw ∧ strip raw.toList ≠ [] ∧ k = 2 + j) ∧
      ∀ e ∈ (⟨[(3, .begin [6]), (2, .begin [0])]⟩ : Dict Nat LineAnnot).entries,
        e.2.HasRank arange2000.shape.length :=
  have annotated : annotateNdarrayLines arange2000Lines arange2000 none 2
      = .ok (⟨⟨.floating, "float64"⟩, [2000]⟩, ⟨[(3, .begin [6]), (2, .begin [0])]⟩) := by decide
  ⟨annotated, annotateNdarrayLines_annotations annotated⟩

end TvmDebugger.TensorData
