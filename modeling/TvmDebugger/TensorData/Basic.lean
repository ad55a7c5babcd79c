import TvmDebugger.Python.Runtime
import Mathlib.Data.Rat.Defs

/-! The values tensor_data.py works on: numpy arrays, masks and print options, the per-line
annotations, and the `RichTextLines` buffer the formatter fills.
-/

namespace TvmDebugger.TensorData

open TvmDebugger.Python

-----------------------------------------------------------------------------------------
-- Arrays
-----------------------------------------------------------------------------------------

/-- The kinds of numpy dtype that the code tells apart. -/
inductive DTypeKind
  | floating | integer | complex | boolean | string | other
  deriving DecidableEq, Repr

/-- A numpy dtype: its kind and the name that `str(tensor.dtype)` prints. -/
structure DType where
  kind : DTypeKind
  name : String
  deriving DecidableEq, Repr

/-- One element of a real-valued array: NaN, an infinity, or a finite value; integers and
floats alike, and -0.0 is the finite value 0. -/
inductive Scalar
  | nan
  | negInf
  | posInf
  | finite (value : ℚ)
  deriving DecidableEq, Repr

/-- An element fits a dtype kind: integers are finite whole numbers and booleans are 0 or 1.
Complex and string elements are not modelled; no modelled function reads them. -/
def Scalar.Fits : DTypeKind → Scalar → Prop
  | .integer, .finite q => q.den = 1
  | .integer, _ => False
  | .boolean, .finite q => q = 0 ∨ q = 1
  | .boolean, _ => False
  | _, _ => True

instance : (k : DTypeKind) → (x : Scalar) → Decidable (x.Fits k)
  | .integer, .finite q => inferInstanceAs (Decidable (q.den = 1))
  | .integer, .nan | .integer, .negInf | .integer, .posInf => isFalse id
  | .boolean, .finite q => inferInstanceAs (Decidable (q = 0 ∨ q = 1))
  | .boolean, .nan | .boolean, .negInf | .boolean, .posInf => isFalse id
  | .floating, _ | .complex, _ | .string, _ | .other, _ => isTrue trivial

/-- The number of elements of an array of a shape: the product of its dimensions. -/
def shapeSize : List Nat → Nat
  | [] => 1
  | d :: ds => d * shapeSize ds

/-- A numpy ndarray: dtype, shape, and its elements in row-major order, as many as the
shape holds, each fitting the dtype. -/
structure NdArray where
  dtype : DType
  shape : List Nat
  elements : List Scalar
  elements_length : elements.length = shapeSize shape
  elements_fit : ∀ x ∈ elements, x.Fits dtype.kind

/-- `np.size(tensor)`. -/
def NdArray.size (t : NdArray) : Nat := shapeSize t.shape

/-- The coordinates of an array of a shape in row-major order, the order in which
`np.argwhere` lists them. -/
def coords : List Nat → List (List Nat)
  | [] => [[]]
  | d :: ds => (List.range d).flatMap (fun i => (coords ds).map (i :: ·))

/-- A boolean array, as a highlight criterion returns it. -/
structure Mask where
  shape : List Nat
  values : List Bool
  values_length : values.length = shapeSize shape

/-- `np.argwhere(mask)`: the coordinates of the true entries, in row-major order. -/
def argwhere (m : Mask) : List (List Nat) :=
  ((coords m.shape).zip m.values).filterMap (fun e => if e.2 then some e.1 else none)

/-- `HighlightOptions`: the criterion, its description and the font attribute. -/
structure HighlightOptions where
  criterion : NdArray → Mask
  description : Option String
  fontAttr : String

/-- `DEFAULT_TENSOR_ELEMENT_HIGHLIGHT_FONT_ATTR`. -/
def defaultTensorElementHighlightFontAttr : String := "bold"

/-- What `format_tensor` is given as `tensor`: an ndarray, an `InconvertibleTensorProto`
(through its `str`), or any other object (through its `repr`). -/
inductive TensorValue
  | ndarray (t : NdArray)
  | inconvertible (str : String)
  | other (repr : String)

-----------------------------------------------------------------------------------------
-- Print options
-----------------------------------------------------------------------------------------

/-- A value passed as a print option or held among numpy's options: None, a bool, an int, a
str, or another object by its repr and its truth value, one that int arithmetic rejects
(floats are not modelled). -/
inductive OptionValue
  | none
  | bool (b : Bool)
  | int (n : Int)
  | str (s : String)
  | other (repr : String) (truth : Bool)
  deriving DecidableEq, Repr

/-- `bool(value)`. -/
def OptionValue.truthy : OptionValue → Bool
  | .none => false
  | .bool b => b
  | .int n => n ≠ 0
  | .str s => s ≠ ""
  | .other _ truth => truth

/-- A keyword dictionary for `np.set_printoptions`, and numpy's `_format_options` as the
options written since the process started. -/
abbrev PrintOptions := Dict String OptionValue

/-- The initial `_format_options` of numpy's arrayprint, by key; `formatter` starts as None. -/
def formatOptionDefault : String → OptionValue
  | "edgeitems" => .int 3
  | "threshold" => .int 1000
  | "floatmode" => .str "maxprec"
  | "precision" => .int 8
  | "suppress" => .bool false
  | "linewidth" => .int 75
  | "nanstr" => .str "nan"
  | "infstr" => .str "inf"
  | "sign" => .str "-"
  | "legacy" => .bool false
  | _ => .none

/-- numpy's process-wide print state: `_format_options`, a key no call wrote holding its
initial value, and the C-level legacy print mode that `str` of a numpy scalar follows. -/
structure PrintState where
  formatOptions : PrintOptions
  legacyPrintMode : Nat
  deriving DecidableEq, Repr

/-- The print state at process start. -/
def PrintState.empty : PrintState := ⟨.empty, 0⟩

/-- `np.get_printoptions()[k]`. -/
def PrintState.option (state : PrintState) (k : String) : OptionValue :=
  (state.formatOptions.get? k).getD (formatOptionDefault k)

/-- The keywords `np.set_printoptions` takes: its parameters, and `legacy`, which it pops
from `**kwarg`; in the order of the parameters of `_make_options_dict`. -/
def printoptionKeywords : List String :=
  ["precision", "threshold", "edgeitems", "linewidth", "suppress", "nanstr", "infstr", "sign",
    "formatter", "floatmode", "legacy"]

/-- The modes `_make_options_dict` accepts for `floatmode`. -/
def floatModes : List String := ["fixed", "unique", "maxprec", "maxprec_equal"]

/-- `_make_options_dict(...)`, with `arg k` the argument of parameter `k` (None when not
passed): the non-None arguments, `suppress` through `bool`, once `floatmode` and `sign` pass
their checks. An unknown `legacy` only warns. -/
def makeOptionsDict (arg : String → OptionValue) : Except PyError PrintOptions := do
  let options : PrintOptions :=
    ⟨(printoptionKeywords.map fun k => (k, arg k)).filter (·.2 ≠ .none)⟩
  let options := if arg "suppress" = .none then options
    else options.insert "suppress" (.bool (arg "suppress").truthy)
  if arg "floatmode" ∉ floatModes.map .str ++ [.none] then
    throw (.valueError ("floatmode option must be one of " ++
      ", ".intercalate (floatModes.map fun m => "\"" ++ m ++ "\"")))
  if arg "sign" ∉ [.none, .str "-", .str "+", .str " "] then
    throw (.valueError "sign option must be one of ' ', '+', or '-'")
  return options

/-- `np.set_printoptions(**options)` as numpy 1.14 runs it: a keyword it does not take is a
TypeError naming the last such keyword written, raised before any option is; then the
options `_make_options_dict` keeps, with `formatter` set by every call (None when not
given), update `_format_options`, and the legacy print mode follows
`_format_options['legacy']`, whose `'1.13'` also resets `sign` to `'-'`. -/
def setPrintoptions (state : PrintState) (options : PrintOptions) :
    Except PyError PrintState := do
  if let some (k, _) := options.entries.find? (·.1 ∉ printoptionKeywords) then
    throw (.typeErrorWith ("set_printoptions() got unexpected keyword argument '" ++ k ++ "'"))
  let arg := fun k => (options.get? k).getD .none
  let opt ← makeOptionsDict arg
  let formatOptions := state.formatOptions.update (opt.insert "formatter" (arg "formatter"))
  let legacy := (formatOptions.get? "legacy").getD (formatOptionDefault "legacy")
  if legacy = .str "1.13" then return ⟨formatOptions.insert "sign" (.str "-"), 113⟩
  if legacy = .bool false then return ⟨formatOptions, 0⟩
  return ⟨formatOptions, state.legacyPrintMode⟩

/-- The value `np.set_printoptions(**options)` writes under key `k`, where it writes one:
the call's formatter or None under `formatter`, else the call's value unless it is None,
through `bool` under `suppress`. `sign` may be reset after (`setPrintoptions_ok`). -/
def PrintOptions.written (options : PrintOptions) (k : String) : Option OptionValue :=
  let v := (options.get? k).getD .none
  if k = "formatter" then some v
  else if k ∈ printoptionKeywords ∧ v ≠ .none then
    some (if k = "suppress" then .bool v.truthy else v)
  else none

/-- `{k: arg(k) for k in keys if arg(k) is not None}` reads `arg k` at a listed key whose
argument is not None. -/
theorem get?_givenArguments (arg : String → OptionValue) (keys : List String) (k : String) :
    (⟨(keys.map fun k => (k, arg k)).filter (·.2 ≠ .none)⟩ : PrintOptions).get? k
      = if k ∈ keys ∧ arg k ≠ .none then some (arg k) else none := by
  induction keys with
  | nil => rfl
  | cons key keys ih =>
    simp only [ne_eq, decide_not] at ih
    by_cases same : key = k
    · subst same
      by_cases given : arg key = .none <;> simp [List.filter_cons, Dict.get?_cons, given, ih]
    · by_cases given : arg key = .none <;>
        simp [List.filter_cons, Dict.get?_cons, same, ih, given, Ne.symm same]

/-- The options `_make_options_dict` keeps are the non-None arguments, `suppress` through
`bool`. -/
theorem get?_makeOptionsDict {arg : String → OptionValue} {opt : PrintOptions}
    (h : makeOptionsDict arg = .ok opt) (k : String) :
    opt.get? k = if k ∈ printoptionKeywords ∧ arg k ≠ .none then
      some (if k = "suppress" then .bool (arg k).truthy else arg k) else none := by
  simp only [makeOptionsDict] at h
  split_ifs at h with _ _ suppress <;> cases h
  · rw [get?_givenArguments]
    by_cases same : k = "suppress" <;> simp [same, suppress]
  · by_cases same : k = "suppress"
    · subst same; simp [suppress, printoptionKeywords]
    · rw [Dict.get?_insert_ne _ _ (Ne.symm same), get?_givenArguments]
      simp [same]

/-- The options a call puts into `_format_options`, `formatter` among them, are those
`PrintOptions.written` names. -/
theorem get?_written {options opt : PrintOptions}
    (h : makeOptionsDict (fun k => (options.get? k).getD .none) = .ok opt) (k : String) :
    (opt.insert "formatter" ((options.get? "formatter").getD .none)).get? k = options.written k := by
  by_cases formatter : k = "formatter"
  · subst formatter; simp [PrintOptions.written]
  · rw [Dict.get?_insert_ne _ _ (Ne.symm formatter), get?_makeOptionsDict h]
    simp [PrintOptions.written, formatter]

/-- A call numpy accepts passed only keywords it takes, and every option but `sign` then
holds what the call wrote there, else its value before. -/
theorem setPrintoptions_ok {state state' : PrintState} {options : PrintOptions}
    (h : setPrintoptions state options = .ok state') :
    (∀ k ∈ options.keys, k ∈ printoptionKeywords) ∧
    ∀ k, k ≠ "sign" →
      state'.formatOptions.get? k = (options.written k).or (state.formatOptions.get? k) := by
  simp only [setPrintoptions] at h
  split at h
  · cases h
  · rename_i unknown
    obtain ⟨-, -, h⟩ := bind_eq_ok.mp h
    obtain ⟨opt, made, h⟩ := bind_eq_ok.mp h
    refine ⟨fun k member => ?_, fun k sign => ?_⟩
    · by_contra unknownKey
      obtain ⟨e, inside, rfl⟩ := List.mem_map.mp member
      cases found : options.entries.find? (fun x => decide ¬x.1 ∈ printoptionKeywords) with
      | none => exact absurd (List.find?_eq_none.mp found e inside) (by simpa using unknownKey)
      | some f => exact unknown f.1 f.2 found
    · split at h
      · cases h
        rw [Dict.get?_insert_ne _ _ (Ne.symm sign), Dict.get?_update, get?_written made]
      · split at h <;> (cases h; rw [Dict.get?_update, get?_written made])

/-- A call numpy rejects raises one of three errors, each naming what it checked: the
TypeError of a keyword of the call that numpy does not take, or the ValueError of
`floatmode` or of `sign` when the call passed a value numpy does not accept there. -/
theorem setPrintoptions_error {state : PrintState} {options : PrintOptions} {e : PyError}
    (h : setPrintoptions state options = .error e) :
    (∃ k ∈ options.keys, k ∉ printoptionKeywords ∧
      e = .typeErrorWith ("set_printoptions() got unexpected keyword argument '" ++ k ++ "'")) ∨
    ((options.get? "floatmode").getD .none ∉ floatModes.map .str ++ [.none] ∧
      e = .valueError
        "floatmode option must be one of \"fixed\", \"unique\", \"maxprec\", \"maxprec_equal\"") ∨
    ((options.get? "sign").getD .none ∉ [.none, .str "-", .str "+", .str " "] ∧
      e = .valueError "sign option must be one of ' ', '+', or '-'") := by
  simp only [setPrintoptions] at h
  split at h
  · rename_i k v found
    cases h
    have unknown : ¬k ∈ printoptionKeywords := by simpa using List.find?_some found
    exact .inl ⟨k, List.mem_map_of_mem _ (List.mem_of_find?_eq_some found), unknown, rfl⟩
  · cases made : makeOptionsDict (fun k => (options.get? k).getD .none) with
    | ok opt =>
      simp only [made, pure_eq_ok, ok_bind] at h
      split_ifs at h
    | error e' =>
      rw [made] at h
      cases h
      simp only [makeOptionsDict] at made
      split at made
      · cases made; exact .inr (.inl ⟨‹_›, rfl⟩)
      · split at made
        · cases made; exact .inr (.inr ⟨‹_›, rfl⟩)
        · cases made

/-- The call of `format_tensor` that installs its print options:
`if np_printoptions is not None: np.set_printoptions(**np_printoptions)`. -/
def installPrintoptions (npPrintoptions : Option PrintOptions) (state : PrintState) :
    Except PyError PrintState :=
  match npPrintoptions with
  | some options => setPrintoptions state options
  | none => .ok state

/-- After an installation numpy accepts, every option but `sign` holds what the call's
options wrote there, else its value before. -/
theorem get?_installPrintoptions {npPrintoptions : Option PrintOptions} {state state' : PrintState}
    (h : installPrintoptions npPrintoptions state = .ok state') {k : String} (sign : k ≠ "sign") :
    state'.formatOptions.get? k
      = (npPrintoptions.bind (·.written k)).or (state.formatOptions.get? k) := by
  cases npPrintoptions with
  | none => cases h; rfl
  | some options => exact (setPrintoptions_ok h).2 k sign

/-- What the code takes from numpy and from Python's float printing under one print state:
`repr` of an array, `str` of each statistic of the finite elements, and the `%.2f` text of a
highlighted share `k / float(n) * 100.0`. -/
structure Host where
  arrayRepr : NdArray → String
  statStr : String → List ℚ → String
  percentStr : Nat → Nat → String

/-- numpy's printing as it depends on the print state: `repr` of an array follows the whole
state, `str` of a numpy scalar only the legacy print mode, and Python's `%.2f` none of it. -/
structure Printer where
  arrayRepr : PrintState → NdArray → String
  statStr : Nat → String → List ℚ → String
  percentStr : Nat → Nat → String

/-- The host a printer is under a print state. -/
def Printer.under (printer : Printer) (state : PrintState) : Host :=
  ⟨printer.arrayRepr state, printer.statStr state.legacyPrintMode, printer.percentStr⟩

-----------------------------------------------------------------------------------------
-- Annotations and the text buffer
-----------------------------------------------------------------------------------------

/-- The dictionary annotating one text line: under `BEGIN_INDICES_KEY` ("i0") the indices of
the first element on the line, under `OMITTED_INDICES_KEY` ("omitted") where an ellipsis
line's omitted elements begin. A buffer may hold either, both or neither. -/
structure LineAnnot where
  i0 : Option (List Int)
  omitted : Option (List Int)
  deriving DecidableEq, Repr

/-- The annotation `{BEGIN_INDICES_KEY: indices}`. -/
def LineAnnot.begin (indices : List Int) : LineAnnot := ⟨some indices, none⟩

/-- The annotation `{OMITTED_INDICES_KEY: indices}`. -/
def LineAnnot.omission (indices : List Int) : LineAnnot := ⟨none, some indices⟩

/-- `annotations["tensor_metadata"]`: the dtype and shape of the formatted tensor. -/
structure TensorMetadata where
  dtype : DType
  shape : List Nat
  deriving DecidableEq, Repr

/-- One font-attribute segment `(start, end, attr)` of a line. -/
structure FontAttrSeg where
  start : Int
  stop : Int
  attr : String
  deriving DecidableEq, Repr

/-- Modelled from the spec: `ui_common.RichTextLines`, which is not in the repository. The
spec's AttributedBuffer: the text lines, font-attribute segments keyed by line, and the
annotations dictionary, whose integer keys hold line annotations and whose key
"tensor_metadata" holds the tensor's metadata. -/
structure RichTextLines where
  lines : List String
  fontAttrSegs : Dict Nat (List FontAttrSeg)
  annotations : Dict Nat LineAnnot
  tensorMetadata : Option TensorMetadata
  deriving DecidableEq, Repr

namespace RichTextLines

/-- `RichTextLines(lines)`: text with no segments and no annotations. -/
def ofLines (lines : List String) : RichTextLines := ⟨lines, .empty, .empty, none⟩

/-- Modelled from the spec: `RichTextLines.extend(other)` appends the other buffer's lines
and moves its segments and line annotations down by the lines already present; its
tensor metadata, where it has one, replaces this buffer's. -/
def extend (self other : RichTextLines) : RichTextLines where
  lines := self.lines ++ other.lines
  fontAttrSegs := other.fontAttrSegs.entries.foldr
    (fun e d => d.insert (self.lines.length + e.1) e.2) self.fontAttrSegs
  annotations := other.annotations.entries.foldr
    (fun e d => d.insert (self.lines.length + e.1) e.2) self.annotations
  tensorMetadata := other.tensorMetadata <|> self.tensorMetadata

/-- Modelled from the spec: `RichTextLines.append(line)` adds one line with no segments. -/
def append (self : RichTextLines) (line : String) : RichTextLines :=
  { self with lines := self.lines ++ [line] }

@[simp] theorem extend_lines (self other : RichTextLines) :
    (self.extend other).lines = self.lines ++ other.lines := rfl

@[simp] theorem append_lines (self : RichTextLines) (line : String) :
    (self.append line).lines = self.lines ++ [line] := rfl

@[simp] theorem append_annotations (self : RichTextLines) (line : String) :
    (self.append line).annotations = self.annotations := rfl

@[simp] theorem append_fontAttrSegs (self : RichTextLines) (line : String) :
    (self.append line).fontAttrSegs = self.fontAttrSegs := rfl

@[simp] theorem append_tensorMetadata (self : RichTextLines) (line : String) :
    (self.append line).tensorMetadata = self.tensorMetadata := rfl

end RichTextLines

end TvmDebugger.TensorData
