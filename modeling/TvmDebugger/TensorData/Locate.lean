import TvmDebugger.TensorData.Annotate
import TvmDebugger.Python.Regex

/-! `locate_tensor_element` and its helpers: the validation of a query, the scan of one
line for number tokens, and the forward sweep over the annotated lines of a buffer.
-/

namespace TvmDebugger.TensorData

open TvmDebugger.Python

-----------------------------------------------------------------------------------------
-- Validation
-----------------------------------------------------------------------------------------

/-- The bounds loop of `_validate_indices_list` over `zip(ind, dims)`. -/
def checkBounds : List Int → List Nat → Except PyError Unit
  | req :: reqs, siz :: sizs =>
      if siz ≤ req then .error (.valueError "Indices exceed tensor dimensions.")
      else if req < 0 then .error (.valueError "Indices contain negative value(s).")
      else checkBounds reqs sizs
  | _, _ => .ok ()

/-- `if prev_ind and ind < prev_ind`: a previous coordinate, non-empty, above this one. -/
def descends (prevInd : Option (List Int)) (ind : List Int) : Bool :=
  match prevInd with
  | some prev => !prev.isEmpty && listLt ind prev
  | none => false

/-- `_validate_indices_list(indices_list, formatted)`, with `prev_ind` the coordinate
before the remaining ones. -/
def validateIndicesList (dims : List Nat) : Option (List Int) → List (List Int) →
    Except PyError Unit
  | _, [] => .ok ()
  | prevInd, ind :: rest => do
      if ind.length ≠ dims.length then
        throw (.valueError ("Dimensions mismatch: requested: " ++ toString ind.length ++
          "; actual: " ++ toString dims.length))
      checkBounds ind dims
      if descends prevInd ind then
        throw (.valueError "Input indices sets are not in ascending order.")
      validateIndicesList dims (some ind) rest

-----------------------------------------------------------------------------------------
-- One line
-----------------------------------------------------------------------------------------

/-- The loop of `_locate_elements_in_line` over the matches before the ellipsis: each
pending offset takes the match `offset_counter` reaches it at, and the loop stops once
every offset has one. -/
def scanMatches : List Int → Nat → List (Nat × Nat) → List (Nat × Nat)
  | [], _, _ => []
  | _, _, [] => []
  | o :: os, counter, m :: ms =>
      if (counter : Int) = o then m :: scanMatches os (counter + 1) ms
      else scanMatches (o :: os) (counter + 1) ms

/-- `[indices[-1] - ref_indices[-1] for indices in indices_list]`. -/
def lastOffsets (refIndices : List Int) : List (List Int) → Except PyError (List Int)
  | [] => .ok []
  | indices :: rest => do
      let offset := (← getItem indices (-1)) - (← getItem refIndices (-1))
      return offset :: (← lastOffsets refIndices rest)

/-- `_locate_elements_in_line(line, indices_list, ref_indices)`: the start and end
columns of each element, none where the scan found no match for it. -/
def locateElementsInLine (line : List Char) (indicesList : List (List Int))
    (refIndices : List Int) : Except PyError (List (Option Nat) × List (Option Nat)) := do
  let offsets ← lastOffsets refIndices indicesList
  let ellipsisIndex := (find line numpyOmission).getD line.length
  let spans := (numberRegex.finditer line).takeWhile (fun m => m.1 ≤ ellipsisIndex)
  if indicesList = [] ∧ spans ≠ [] then throw .indexError
  let found := scanMatches offsets 0 spans
  let missing := List.replicate (indicesList.length - found.length) none
  return (found.map (fun m => some m.1) ++ missing, found.map (fun m => some (m.2 - 1)) ++ missing)

/-- The offsets are one per coordinate, by induction on the coordinates. -/
theorem lastOffsets_length {refIndices : List Int} {indicesList : List (List Int)}
    {offsets : List Int} (h : lastOffsets refIndices indicesList = .ok offsets) :
    offsets.length = indicesList.length := by
  induction indicesList generalizing offsets with
  | nil => simp only [lastOffsets, Except.ok.injEq] at h; simp [← h]
  | cons indices rest ih =>
      simp only [lastOffsets, bind_eq_ok, pure_eq_ok, Except.ok.injEq] at h
      obtain ⟨_, -, _, -, tail, found, rfl⟩ := h
      simp [ih found]

/-- The scan records matches in their order, at most one per offset, by induction on the
matches. -/
theorem scanMatches_sublist (os : List Int) (counter : Nat) (ms : List (Nat × Nat)) :
    (scanMatches os counter ms).Sublist ms ∧ (scanMatches os counter ms).length ≤ os.length := by
  induction ms generalizing os counter with
  | nil => cases os <;> simp [scanMatches]
  | cons m ms ih =>
      cases os with
      | nil => simp [scanMatches]
      | cons o os =>
          simp only [scanMatches]
          split
          · obtain ⟨sub, len⟩ := ih os (counter + 1)
            exact ⟨sub.cons₂ m, by simpa using len⟩
          · obtain ⟨sub, len⟩ := ih (o :: os) (counter + 1)
            exact ⟨sub.cons m, len⟩

/-- What `_locate_elements_in_line` returns: the spans of some matches of the line, in
order and at most one per coordinate, then none for the coordinates left over. -/
theorem locateElementsInLine_eq {line : List Char} {indicesList : List (List Int)}
    {refIndices : List Int} {starts ends : List (Option Nat)}
    (h : locateElementsInLine line indicesList refIndices = .ok (starts, ends)) :
    ∃ found : List (Nat × Nat), found.Sublist (numberRegex.finditer line) ∧
      found.length ≤ indicesList.length ∧
      starts = found.map (fun m => some m.1) ++
        List.replicate (indicesList.length - found.length) none ∧
      ends = found.map (fun m => some (m.2 - 1)) ++
        List.replicate (indicesList.length - found.length) none := by
  simp only [locateElementsInLine, bind_eq_ok] at h
  obtain ⟨offsets, hoffsets, h⟩ := h
  split at h
  · simp at h
  · simp only [pure_eq_ok, ok_bind, Except.ok.injEq, Prod.mk.injEq] at h
    obtain ⟨sub, len⟩ := scanMatches_sublist offsets 0
      ((numberRegex.finditer line).takeWhile (fun m => m.1 ≤ (find line numpyOmission).getD line.length))
    exact ⟨_, sub.trans (List.takeWhile_sublist _), lastOffsets_length hoffsets ▸ len,
      h.1.symm, h.2.symm⟩

-----------------------------------------------------------------------------------------
-- The sweep
-----------------------------------------------------------------------------------------

/-- The key `indices_key` selects in an annotation. -/
inductive IndicesKey
  | begin
  | omitted
  deriving DecidableEq, Repr

/-- `annot[i][indices_key]`. -/
def LineAnnot.get (a : LineAnnot) : IndicesKey → Option (List Int)
  | .begin => a.i0
  | .omitted => a.omitted

/-- A query of `locate_tensor_element`: one coordinate, or a batch of them. -/
inductive Query
  | single (indices : List Int)
  | batch (indicesList : List (List Int))

/-- What `locate_tensor_element` returns for one coordinate. -/
structure Location where
  isOmitted : Bool
  row : Nat
  startColumn : Option Nat
  endColumn : Option Nat
  deriving DecidableEq, Repr

/-- The result of `locate_tensor_element`, in the shape of the query. -/
inductive Located
  | single (l : Location)
  | batch (areOmitted : List Bool) (rowIndices : List Nat)
      (startColumns endColumns : List (Option Nat))
  deriving DecidableEq, Repr

/-- The variables of the loop of `locate_tensor_element`. The four result lists are
written slice after slice from position 0, so they are kept as the list of locations
filled so far, whose length is `batch_pos`. -/
structure Sweep where
  prevR : Nat
  prevLine : String
  prevIndices : List Int
  indicesKey : Option IndicesKey
  located : List Location

/-- The locations of a slice: one per column pair, all on row `row`. -/
def slice (isOmitted : Bool) (row : Nat) (starts ends : List (Option Nat)) : List Location :=
  (starts.zip ends).map (fun c => ⟨isOmitted, row, c.1, c.2⟩)

section Sweep

variable (annot : Dict Nat LineAnnot) (indicesList : List (List Int))

/-- `OMITTED_INDICES_KEY in annot[prev_r]`. -/
def omittedAt (r : Nat) : Except PyError Bool :=
  match annot.get? r with
  | some a => .ok a.omitted.isSome
  | none => .error .keyError

/-- The choice of `indices_key` at an annotated line: the begin key if present, else the
omitted key, else the one chosen at an earlier line. -/
def selectKey (a : LineAnnot) (previous : Option IndicesKey) : Except PyError IndicesKey :=
  match a.i0, a.omitted, previous with
  | some _, _, _ => .ok .begin
  | none, some _, _ => .ok .omitted
  | none, none, some _ => .error .keyError
  | none, none, none => .error .nameError

/-- The coordinates `prev_indices <= ind < bound` among those not yet located. -/
def pendingIn (s : Sweep) (bound : List Int) : List (List Int) :=
  (indicesList.drop s.located.length).filter (fun ind => !listLt ind s.prevIndices && listLt ind bound)

/-- Locate `matching` on the previous line, as a slice written at `batch_pos`. -/
def locateSlice (s : Sweep) (matching : List (List Int)) : Except PyError (List Location) := do
  let (starts, ends) ← locateElementsInLine s.prevLine.toList matching s.prevIndices
  return slice (← omittedAt annot s.prevR) s.prevR starts ends

/-- The loop body of `locate_tensor_element` at annotated line `i`, true where it breaks. -/
def sweepLine (s : Sweep) (i : Nat) (line : String) (a : LineAnnot) :
    Except PyError (Sweep × Bool) := do
  let key ← selectKey a s.indicesKey
  let some bound := a.get key | throw .keyError
  let next (located : List Location) : Sweep := ⟨i, line, bound, some key, located⟩
  let matching := pendingIn indicesList s bound
  if matching = [] then return (next s.located, false)
  let located := s.located ++ (← locateSlice annot s matching)
  if indicesList.length ≤ located.length then return ({ s with located }, true)
  return (next located, false)

/-- The loop of `locate_tensor_element` over the lines from index `i` on. -/
def sweepLines : Nat → List String → Sweep → Except PyError Sweep
  | _, [], s => .ok s
  | i, line :: rest, s =>
      match annot.get? i with
      | none => sweepLines (i + 1) rest s
      | some a => do
          let (s', stop) ← sweepLine annot indicesList s i line a
          if stop then return s' else sweepLines (i + 1) rest s'

/-- A slice is the columns of the previous line, all on the previous row. -/
theorem locateSlice_eq {s : Sweep} {matching : List (List Int)} {sl : List Location}
    (h : locateSlice annot s matching = .ok sl) :
    ∃ isOmitted starts ends,
      locateElementsInLine s.prevLine.toList matching s.prevIndices = .ok (starts, ends) ∧
        sl = slice isOmitted s.prevR starts ends := by
  simp only [locateSlice, bind_eq_ok, pure_eq_ok, Except.ok.injEq] at h
  obtain ⟨⟨starts, ends⟩, columns, isOmitted, -, rfl⟩ := h
  exact ⟨isOmitted, starts, ends, columns, rfl⟩

/-- Every outcome of the loop body: the previous line moves forward to line `i`, after
writing no slice or one, or a slice completes the batch and the loop breaks. -/
theorem sweepLine_cases {s s' : Sweep} {i : Nat} {line : String} {a : LineAnnot} {stop : Bool}
    (h : sweepLine annot indicesList s i line a = .ok (s', stop)) :
    ∃ bound key, (stop = false ∧ s' = ⟨i, line, bound, some key, s.located⟩) ∨
      ∃ sl, locateSlice annot s (pendingIn indicesList s bound) = .ok sl ∧
        ((stop = true ∧ indicesList.length ≤ (s.located ++ sl).length ∧
            s' = { s with located := s.located ++ sl }) ∨
          (stop = false ∧ s' = ⟨i, line, bound, some key, s.located ++ sl⟩)) := by
  simp only [sweepLine, bind_eq_ok] at h
  obtain ⟨key, -, h⟩ := h
  cases hb : a.get key with
  | none => simp [hb] at h
  | some bound =>
      refine ⟨bound, key, ?_⟩
      simp only [hb] at h
      split at h
      · simp only [pure_eq_ok, Except.ok.injEq, Prod.mk.injEq] at h
        exact .inl ⟨h.2.symm, h.1.symm⟩
      · simp only [pure_eq_ok, ok_bind, bind_eq_ok] at h
        obtain ⟨sl, hsl, h⟩ := h
        refine .inr ⟨sl, hsl, ?_⟩
        split at h <;> simp only [pure_eq_ok, ok_bind, Except.ok.injEq, Prod.mk.injEq] at h
        · exact .inl ⟨h.2.symm, ‹_›, h.1.symm⟩
        · exact .inr ⟨h.2.symm, h.1.symm⟩

/-- The block after the loop: the coordinates still unlocated go to the last line seen. -/
def sweepRest (s : Sweep) : Except PyError (List Location) := do
  if s.located.length < indicesList.length then
    return s.located ++ (← locateSlice annot s (indicesList.drop s.located.length))
  return s.located

end Sweep

/-- The sweep starts from row 0, an empty previous line and the all-zero coordinate. -/
def Sweep.start (rank : Nat) : Sweep := ⟨0, "", List.replicate rank 0, none, []⟩

/-- `locate_tensor_element(formatted, indices)`. -/
def locateTensorElement (formatted : RichTextLines) (indices : Query) :
    Except PyError Located := do
  let (indicesList, inputBatch) ← match indices with
    | .single [] | .batch [] => throw PyError.indexError
    | .single ind => pure ([ind], false)
    | .batch l => pure (l, true)
  let some metadata := formatted.tensorMetadata
    | throw (.attributeError "tensor_metadata is not available in annotations.")
  validateIndicesList metadata.shape none indicesList
  let swept ← sweepLines formatted.annotations indicesList 0 formatted.lines
    (Sweep.start metadata.shape.length)
  let located ← sweepRest formatted.annotations indicesList swept
  if inputBatch then
    return .batch (located.map (·.isOmitted)) (located.map (·.row))
      (located.map (·.startColumn)) (located.map (·.endColumn))
  match located with
  | l :: _ => return .single l
  | [] => throw .indexError

/-- A batch query that returns ran the validation, the loop and the block after it, and
returns the four lists of the locations. -/
theorem locateTensorElement_batch_eq {formatted : RichTextLines} {batch : List (List Int)}
    {result : Located} (h : locateTensorElement formatted (.batch batch) = .ok result) :
    ∃ metadata swept located, formatted.tensorMetadata = some metadata ∧
      validateIndicesList metadata.shape none batch = .ok () ∧
      sweepLines formatted.annotations batch 0 formatted.lines
        (Sweep.start metadata.shape.length) = .ok swept ∧
      sweepRest formatted.annotations batch swept = .ok located ∧
      result = .batch (located.map (·.isOmitted)) (located.map (·.row))
        (located.map (·.startColumn)) (located.map (·.endColumn)) := by
  cases batch with
  | nil => simp [locateTensorElement] at h
  | cons first rest =>
      simp only [locateTensorElement, pure_eq_ok, ok_bind] at h
      cases hm : formatted.tensorMetadata with
      | none => simp [hm] at h
      | some metadata =>
          simp only [hm, bind_eq_ok, pure_eq_ok, ite_true, Except.ok.injEq] at h
          obtain ⟨_, valid, swept, hs, located, hl, rfl⟩ := h
          exact ⟨metadata, swept, located, rfl, valid, hs, hl, rfl⟩

end TvmDebugger.TensorData
