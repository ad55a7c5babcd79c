import TvmDebugger.TensorData.Locate
import TvmDebugger.TensorData.Summary

/-! `format_tensor`: the label, metadata and summary lines, numpy's text of the array with
its line annotations, and the highlighting of the elements a criterion selects.
-/

namespace TvmDebugger.TensorData

open TvmDebugger.Python

/-- The arguments of `format_tensor`. -/
structure FormatTensorArgs where
  tensor : TensorValue
  tensorLabel : Option String
  includeMetadata : Bool
  auxiliaryMessage : Option RichTextLines
  includeNumericSummary : Bool
  npPrintoptions : Option PrintOptions
  highlightOptions : Option HighlightOptions

/-- `format_tensor(tensor, tensor_label)` with every other argument at its default. -/
def FormatTensorArgs.ofTensor (tensor : TensorValue) (tensorLabel : Option String) :
    FormatTensorArgs :=
  ⟨tensor, tensorLabel, false, none, false, none, none⟩

/-- `str(tensor.shape)`: the Python tuple of the dimensions. -/
def shapeRepr : List Nat → String
  | [] => "()"
  | [d] => "(" ++ toString d ++ ",)"
  | ds => "(" ++ ", ".intercalate (ds.map toString) ++ ")"

/-- `text.split("\n")`. -/
def splitLines (text : String) : List String := (split '\n' text.toList).map String.mk

/-- The segments of the label line `Tensor "<label>":`. The label starts at column 8; when
the text after its last colon is a number the whole label is white, else the text before
that suffix is white and the suffix yellow. -/
def labelSegs (tensorLabel : String) : List FontAttrSeg :=
  let suffix := (split ':' tensorLabel.toList).getLastD []
  if isDigits suffix then [⟨8, 8 + tensorLabel.length, "white"⟩]
  else
    let debugOpLen : Int := suffix.length
    let properLen : Int := tensorLabel.length - debugOpLen - 1
    [⟨8, 8 + properLen, "white"⟩, ⟨8 + properLen + 1, 8 + properLen + 1 + debugOpLen, "yellow"⟩]

/-- `lines.append("")` where there are lines already. -/
def closeBlock (lines : List String) : List String := if lines = [] then [] else lines ++ [""]

-----------------------------------------------------------------------------------------
-- Highlighting
-----------------------------------------------------------------------------------------

/-- The summary text `Highlighted(<description>): K of N element(s) (P%)`. -/
def highlightSummary (host : Host) (description : Option String) (k n : Nat) : String :=
  let described := match description with
    | some d => if d = "" then "" else "(" ++ d ++ ")"
    | none => ""
  "Highlighted" ++ described ++ ": " ++ toString k ++ " of " ++ toString n ++
    " element(s) (" ++ host.percentStr k n ++ "%)"

/-- The loop body of the highlighting: a located element with both columns, outside an
omitted region, gets a segment appended on its row. -/
def addHighlight (fontAttr : String) (segs : Dict Nat (List FontAttrSeg)) (l : Location) :
    Dict Nat (List FontAttrSeg) :=
  match l.isOmitted, l.startColumn, l.endColumn with
  | false, some s, some e => segs.insert l.row ((segs.get? l.row).getD [] ++ [⟨s, e, fontAttr⟩])
  | _, _, _ => segs

/-- The four lists of a batch result, zipped back into locations. -/
def zipLocated (areOmitted : List Bool) (rows : List Nat) (starts ends : List (Option Nat)) :
    List Location :=
  ((areOmitted.zip rows).zip (starts.zip ends)).map (fun e => ⟨e.1.1, e.1.2, e.2.1, e.2.2⟩)

/-- The highlighting step of `format_tensor`: the summary on the first line, then a
segment on every located element the criterion selects. -/
def highlightElements (host : Host) (tensor : NdArray) (h : HighlightOptions)
    (formatted : RichTextLines) : Except PyError RichTextLines := do
  let indicesList := argwhere (h.criterion tensor)
  let totalElements := tensor.size
  if totalElements = 0 then throw .zeroDivisionError
  let summary := highlightSummary host h.description indicesList.length totalElements
  let formatted ← match formatted.lines with
    | [] => throw PyError.indexError
    | line :: rest => pure { formatted with lines := (line ++ " " ++ summary) :: rest }
  if indicesList = [] then return formatted
  match ← locateTensorElement formatted (.batch (indicesList.map (·.map Int.ofNat))) with
  | .batch areOmitted rows starts ends =>
      let located := zipLocated areOmitted rows starts ends
      return { formatted with
        fontAttrSegs := located.foldl (addHighlight h.fontAttr) formatted.fontAttrSegs }
  | .single _ => throw .typeError

-----------------------------------------------------------------------------------------
-- format_tensor
-----------------------------------------------------------------------------------------

/-- The array block of `format_tensor`, printed under the installed print options: numpy's
text of the array, annotated unless the dtype is `np.string_`, then the highlighting. -/
def formatArray (host : Host) (tensor : NdArray) (args : FormatTensorArgs)
    (formatted : RichTextLines) : Except PyError RichTextLines := do
  let arrayLines := splitLines (host.arrayRepr tensor)
  let formattedArray ← if tensor.dtype.kind = .string then pure (RichTextLines.ofLines arrayLines)
    else do
      let (metadata, annotations) ← annotateNdarrayLines arrayLines tensor args.npPrintoptions 0
      pure ⟨arrayLines, .empty, annotations, some metadata⟩
  let formatted := formatted.extend formattedArray
  match args.highlightOptions with
  | none => return formatted
  | some h => highlightElements host tensor h formatted

/-- The lines and segments before the array block of an ndarray: label, metadata, a blank
line, the auxiliary message and the numeric summary. -/
def formatHeader (host : Host) (tensor : NdArray) (args : FormatTensorArgs) :
    Except PyError RichTextLines := do
  let labelLines := (args.tensorLabel.map (fun l => "Tensor \"" ++ l ++ "\":")).toList
  let metadataLines := if args.includeMetadata then
    ["  dtype: " ++ tensor.dtype.name, "  shape: " ++ shapeRepr tensor.shape] else []
  let fontAttrSegs := match args.tensorLabel with
    | some l => Dict.empty.insert 0 (labelSegs l)
    | none => .empty
  let formatted : RichTextLines :=
    ⟨closeBlock (labelLines ++ metadataLines), fontAttrSegs, .empty, none⟩
  let formatted := match args.auxiliaryMessage with
    | some m => formatted.extend m
    | none => formatted
  if args.includeNumericSummary then
    return ((formatted.append "Numeric summary:").extend (← numericSummary host tensor)).append ""
  return formatted

/-- `format_tensor(tensor, tensor_label, ...)` under numpy's print state before the call: the
result and the print state after it. The header, numeric summary included, prints under the
state before the call; `np.set_printoptions` runs just before the array is printed, and
nothing restores the state afterwards. -/
def formatTensor (printer : Printer) (args : FormatTensorArgs) (printState : PrintState) :
    Except PyError RichTextLines × PrintState :=
  match args.tensor with
  | .inconvertible text | .other text =>
      let labelLines := (args.tensorLabel.map (fun l => "Tensor \"" ++ l ++ "\":")).toList
      (.ok (.ofLines (closeBlock labelLines ++ splitLines text)), printState)
  | .ndarray tensor =>
      match formatHeader (printer.under printState) tensor args with
      | .error e => (.error e, printState)
      | .ok formatted =>
          match installPrintoptions args.npPrintoptions printState with
          | .error e => (.error e, printState)
          | .ok printState => (formatArray (printer.under printState) tensor args formatted, printState)

/-- The options a call passes to `np.set_printoptions`: a call on a value that is not an
ndarray returns before it gets there. -/
def FormatTensorArgs.installs (args : FormatTensorArgs) : Option PrintOptions :=
  match args.tensor with
  | .ndarray _ => args.npPrintoptions
  | .inconvertible _ | .other _ => none

/-- A call on an ndarray whose header prints runs `np.set_printoptions`; unless numpy rejects
the options it prints the array under the state they installed, and leaves that state. -/
theorem formatTensor_of_header {printer : Printer} {args : FormatTensorArgs}
    {printState : PrintState} {tensor : NdArray} {formatted : RichTextLines}
    (ndarray : args.tensor = .ndarray tensor)
    (header : formatHeader (printer.under printState) tensor args = .ok formatted) :
    formatTensor printer args printState =
      match installPrintoptions args.npPrintoptions printState with
      | .error e => (.error e, printState)
      | .ok installed => (formatArray (printer.under installed) tensor args formatted, installed) := by
  simp only [formatTensor, ndarray, header]

/-- What a call of `format_tensor` can do: return the text of a value that is not an ndarray,
installing nothing; raise in the header or in `np.set_printoptions`, leaving numpy's print
state as it was; or print the array under the print state its options installed, whether or
not the rest of the call raises, and leave that state. -/
theorem formatTensor_cases (printer : Printer) (args : FormatTensorArgs)
    (printState : PrintState) :
    (∃ lines, formatTensor printer args printState = (.ok (.ofLines lines), printState) ∧
      args.installs = none) ∨
    (∃ e, formatTensor printer args printState = (.error e, printState)) ∨
    (∃ tensor formatted installed, args.tensor = .ndarray tensor ∧
      formatHeader (printer.under printState) tensor args = .ok formatted ∧
      installPrintoptions args.npPrintoptions printState = .ok installed ∧
      formatTensor printer args printState
        = (formatArray (printer.under installed) tensor args formatted, installed)) := by
  cases tensor : args.tensor with
  | inconvertible text | other text =>
    exact .inl ⟨_, by simp only [formatTensor, tensor]; rfl,
      by simp only [FormatTensorArgs.installs, tensor]⟩
  | ndarray t =>
    cases header : formatHeader (printer.under printState) t args with
    | error e => exact .inr (.inl ⟨e, by simp only [formatTensor, tensor, header]⟩)
    | ok formatted =>
      rw [formatTensor_of_header tensor header]
      cases install : installPrintoptions args.npPrintoptions printState with
      | error e => exact .inr (.inl ⟨e, rfl⟩)
      | ok installed => exact .inr (.inr ⟨t, formatted, installed, rfl, header, rfl, rfl⟩)

-----------------------------------------------------------------------------------------
-- Fixed inputs
-----------------------------------------------------------------------------------------

/-- A host that prints every array as `text`; below, `text` is numpy's text of the one array
printed, under the print options in force there. -/
def Host.printing (text : String) : Host := ⟨fun _ => text, fun _ _ => "", fun _ _ => ""⟩

/-- A printer that prints every array as `text` under every print state; below, `text` is
numpy's text of the one array printed, under numpy's initial print options. -/
def Printer.printing (text : String) : Printer := ⟨fun _ _ => text, fun _ _ _ => "", fun _ _ => ""⟩

/-- `np.array(5)`, which numpy prints as `array(5)`. -/
def scalarFive : NdArray := ⟨⟨.integer, "int64"⟩, [], [.finite 5], rfl, by decide⟩

/-- A label without a colon is taken whole as the debug-op suffix, so `proper_len` is -1
and the white segment of the label line runs from column 8 back to column 7. -/
theorem formatTensor_colonless_label_segment :
    (formatTensor (.printing "array(5)") (.ofTensor (.ndarray scalarFive) (some "x")) .empty).1
      = .ok ⟨["Tensor \"x\":", "", "array(5)"],
          ⟨[(0, [⟨8, 7, "white"⟩, ⟨8, 9, "yellow"⟩])]⟩, ⟨[]⟩, some ⟨⟨.integer, "int64"⟩, []⟩⟩ := by
  decide

/-- For a 0-d tensor the one coordinate of the right length is `[]`; `indices[0]` fails on
it as a single query, and `indices[-1]` inside `_locate_elements_in_line` as a batch. -/
theorem locate_scalar_indexError :
    ((formatTensor (.printing "array(5)") (.ofTensor (.ndarray scalarFive) (some "x")) .empty).1
      >>= (locateTensorElement · (.single []))) = .error .indexError ∧
    ((formatTensor (.printing "array(5)") (.ofTensor (.ndarray scalarFive) (some "x")) .empty).1
      >>= (locateTensorElement · (.batch [[]]))) = .error .indexError := by
  decide

/-- `np.array([5, 10, 20])`, which numpy prints as `array([ 5, 10, 20])`. -/
def fiveTenTwenty : NdArray :=
  ⟨⟨.integer, "int64"⟩, [3], [.finite 5, .finite 10, .finite 20], rfl, by decide⟩

/-- The token `5,` is one character short of `_NUMBER_REGEX`, so the scan counts `10,` as
the first element and locating index 1 returns columns 15 to 17, the text `20`; the text
of element 1, `10`, is at columns 11 to 13. -/
theorem locate_fiveTenTwenty_one_spans_twenty :
    ((formatTensor (.printing "array([ 5, 10, 20])") (.ofTensor (.ndarray fiveTenTwenty) none)
      .empty).1 >>= (locateTensorElement · (.single [1])))
      = .ok (.single ⟨false, 0, some 15, some 17⟩) ∧
    (("array([ 5, 10, 20])".toList.drop 15).take 2 = "20".toList) := by
  decide

/-- `np.array([1, 2, 3])`, which numpy prints as `array([1, 2, 3])`. -/
def oneTwoThree : NdArray :=
  ⟨⟨.integer, "int64"⟩, [3], [.finite 1, .finite 2, .finite 3], rfl, by decide⟩

/-- No single-digit token matches `_NUMBER_REGEX`, so element 0, printed with no ellipsis on
its line, gets no columns. -/
theorem locate_oneTwoThree_zero_no_columns :
    ((formatTensor (.printing "array([1, 2, 3])") (.ofTensor (.ndarray oneTwoThree) none)
      .empty).1 >>= (locateTensorElement · (.single [0])))
      = .ok (.single ⟨false, 0, none, none⟩) := by
  decide

/-- `np.array([[10, 11], [12, 13]])`, which numpy prints on the two lines
`array([[10, 11],` and `       [12, 13]])`. -/
def tenToThirteen : NdArray :=
  ⟨⟨.integer, "int64"⟩, [2, 2], [.finite 10, .finite 11, .finite 12, .finite 13], rfl,
    by decide⟩

/-- Validation accepts the repeated coordinate `[0, 1]`, but the line scan gives each
match to one offset only: the batch leaves the second copy without columns, while the
single lookup of `[0, 1]` finds columns 12 to 14. -/
theorem locate_repeated_coordinate_columns :
    ((formatTensor (.printing "array([[10, 11],\n       [12, 13]])")
      (.ofTensor (.ndarray tenToThirteen) none) .empty).1
      >>= (locateTensorElement · (.batch [[0, 1], [0, 1]])))
      = .ok (.batch [false, false] [0, 0] [some 12, none] [some 14, none]) ∧
    ((formatTensor (.printing "array([[10, 11],\n       [12, 13]])")
      (.ofTensor (.ndarray tenToThirteen) none) .empty).1
      >>= (locateTensorElement · (.single [0, 1])))
      = .ok (.single ⟨false, 0, some 12, some 14⟩) := by
  decide

/-- `np.zeros((0,))`, which numpy prints as `array([], dtype=float64)`. -/
def emptyFloats : NdArray := ⟨⟨.floating, "float64"⟩, [0], [], rfl, by decide⟩

/-- The criterion `lambda x: x > 0`. -/
def positiveCriterion : HighlightOptions :=
  ⟨fun t => ⟨t.shape, t.elements.map Scalar.gtZero, by simp [t.elements_length]⟩, none,
    defaultTensorElementHighlightFontAttr⟩

/-- Highlighting an empty tensor divides the highlighted count by `float(0)`. -/
theorem formatTensor_empty_highlight_zeroDivision :
    (formatTensor (.printing "array([], dtype=float64)")
      { FormatTensorArgs.ofTensor (.ndarray emptyFloats) none with
        highlightOptions := some positiveCriterion } .empty).1 = .error .zeroDivisionError := by
  decide

end TvmDebugger.TensorData
