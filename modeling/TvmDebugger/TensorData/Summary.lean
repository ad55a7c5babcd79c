import TvmDebugger.TensorData.Basic
import Mathlib.Algebra.Order.Ring.Rat

/-! `numeric_summary` and `_counts_summary`: the counts of NaNs, infinities, negative, zero
and positive values, and the statistics of the finite values, as two-row tables.
-/

namespace TvmDebugger.TensorData

open TvmDebugger.Python

-----------------------------------------------------------------------------------------
-- Tables
-----------------------------------------------------------------------------------------

/-- `_pad_string_to_length(string, length)`: spaces on the left up to `length`. -/
def padStringToLength (s : List Char) (length : Nat) : List Char :=
  List.replicate (length - s.length) ' ' ++ s

/-- The two rows that `_counts_summary` builds from its cells `(key, str(value))`: each
cell right-justified to the widest cell plus one, and a `total` column when a total is
given. -/
def countsTable (cells : List (List Char × List Char)) (totalCount : Option Nat) :
    RichTextLines :=
  let maxCommonLen := cells.foldl (fun m c => max (max (c.1.length + 1) (c.2.length + 1)) m) 0
  let keyLine := '|' :: (cells.map (fun c => padStringToLength c.1 maxCommonLen)).flatten
    ++ " |".toList
  let valLine := '|' :: (cells.map (fun c => padStringToLength c.2 maxCommonLen)).flatten
    ++ " |".toList
  match totalCount with
  | none => .ofLines [⟨keyLine⟩, ⟨valLine⟩]
  | some total =>
      let totalValStr := (toString total).toList
      let width := max ("total".length + 1) totalValStr.length
      .ofLines [⟨keyLine ++ padStringToLength "total".toList width ++ " |".toList⟩,
        ⟨valLine ++ padStringToLength totalValStr width ++ " |".toList⟩]

/-- `_counts_summary(counts, skip_zeros, total_count)`: the table of the counts, those
whose value is false skipped when `skip_zeros`. `truthy` is Python's truth value of a
count. -/
def countsSummary {α : Type} [ToString α] (truthy : α → Bool) (counts : List (String × α))
    (skipZeros : Bool) (totalCount : Option Nat) : RichTextLines :=
  countsTable ((if skipZeros then counts.filter (fun c => truthy c.2) else counts).map
    (fun c => (c.1.toList, (toString c.2).toList))) totalCount

/-- A space or a bar: what separates the cells of a table row. -/
def isCellBreak (c : Char) : Bool := c = ' ' || c = '|'

/-- The run of cell characters at the head of a row, and the cells after it. -/
def splitCells : List Char → List Char × List (List Char)
  | [] => ([], [])
  | c :: cs =>
      let rest := splitCells cs
      if isCellBreak c then ([], if rest.1 = [] then rest.2 else rest.1 :: rest.2)
      else (c :: rest.1, rest.2)

/-- The cells of a table row, as a reader sees them: its maximal runs of characters that
are neither spaces nor bars. -/
def rowCells (row : List Char) : List (List Char) :=
  let head := splitCells row
  if head.1 = [] then head.2 else head.1 :: head.2

theorem isCellBreak_space : isCellBreak ' ' = true := rfl

theorem isCellBreak_bar : isCellBreak '|' = true := rfl

/-- A break ends the run at the head of a row. -/
theorem splitCells_break {c : Char} (hc : isCellBreak c) (cs : List Char) :
    splitCells (c :: cs) = ([], rowCells cs) := by
  simp [splitCells, hc, rowCells]

/-- A break before a row adds no cell. -/
theorem rowCells_break {c : Char} (hc : isCellBreak c) (cs : List Char) :
    rowCells (c :: cs) = rowCells cs := by
  simp [rowCells, splitCells_break hc]

/-- Text up to a break keeps its run and cells, by induction on the text. -/
theorem splitCells_append_break {c : Char} (hc : isCellBreak c) (a b : List Char) :
    splitCells (a ++ c :: b) = ((splitCells a).1, (splitCells a).2 ++ rowCells b) := by
  induction a with
  | nil => rw [List.nil_append, splitCells_break hc]; rfl
  | cons x a ih =>
      rw [List.cons_append]
      simp only [splitCells]
      rw [ih]
      by_cases hx : isCellBreak x
      · simp only [hx, if_true]
        split <;> simp
      · simp [hx]

/-- The cells of two texts joined at a break are the cells of each. -/
theorem rowCells_append_break {c : Char} (hc : isCellBreak c) (a b : List Char) :
    rowCells (a ++ c :: b) = rowCells a ++ rowCells b := by
  simp only [rowCells, splitCells_append_break hc]
  split <;> simp

/-- Spaces before a row add no cell. -/
theorem rowCells_spaces (k : Nat) (cs : List Char) :
    rowCells (List.replicate k ' ' ++ cs) = rowCells cs := by
  induction k with
  | zero => rfl
  | succ k ih => rw [List.replicate_succ, List.cons_append, rowCells_break isCellBreak_space, ih]

/-- A cell is non-empty and has no space or bar. -/
def IsCellWord (w : List Char) : Prop := w ≠ [] ∧ ∀ x ∈ w, isCellBreak x = false

instance : DecidablePred IsCellWord :=
  fun w => inferInstanceAs (Decidable (w ≠ [] ∧ ∀ x ∈ w, isCellBreak x = false))

/-- A cell word is one cell, by induction on the word. -/
theorem rowCells_word {w : List Char} (word : IsCellWord w) : rowCells w = [w] := by
  have split : ∀ w : List Char, (∀ x ∈ w, isCellBreak x = false) → splitCells w = (w, []) := by
    intro w word
    induction w with
    | nil => rfl
    | cons x w ih =>
        simp [splitCells, word x (List.mem_cons_self x w),
          ih (fun y member => word y (List.mem_cons_of_mem x member))]
  simp [rowCells, split w word.2, word.1]

/-- Cell words each padded with at least one space on the left are the cells of their
concatenation, by induction on the words. -/
theorem rowCells_padded (pad : List Char → Nat) (ws : List (List Char))
    (words : ∀ w ∈ ws, 0 < pad w ∧ IsCellWord w) :
    rowCells (ws.map (fun w => List.replicate (pad w) ' ' ++ w)).flatten = ws := by
  induction ws with
  | nil => rfl
  | cons w ws ih =>
      have word := (words w (List.mem_cons_self w ws)).2
      have ih := ih (fun v member => words v (List.mem_cons_of_mem w member))
      simp only [List.map_cons, List.flatten_cons, List.append_assoc, rowCells_spaces]
      cases ws with
      | nil => simpa using rowCells_word word
      | cons v vs =>
          obtain ⟨k, hk⟩ := Nat.exists_eq_succ_of_ne_zero
            (Nat.pos_iff_ne_zero.mp (words v (by simp)).1)
          simp only [List.map_cons, List.flatten_cons, hk, List.replicate_succ, List.cons_append,
            List.append_assoc, rowCells_break isCellBreak_space] at ih ⊢
          rw [rowCells_append_break isCellBreak_space, rowCells_word word, ih,
            List.singleton_append]

/-- A row of `_counts_summary` with a total column reads back as its words and the total:
each word is padded by at least one space, and bars close the columns. -/
theorem rowCells_row {β : Type} (f : β → List Char) (cells : List β) (width : Nat)
    (last : List Char) (lastWidth : Nat) (wide : ∀ c ∈ cells, (f c).length < width)
    (words : ∀ c ∈ cells, IsCellWord (f c)) (lastWord : IsCellWord last) :
    rowCells ('|' :: (cells.map (fun c => padStringToLength (f c) width)).flatten ++ " |".toList
      ++ padStringToLength last lastWidth ++ " |".toList) = cells.map f ++ [last] := by
  have padded := rowCells_padded (fun w => width - w.length) (cells.map f) (fun w member => by
    obtain ⟨c, cell, rfl⟩ := List.mem_map.mp member
    exact ⟨Nat.sub_pos_of_lt (wide c cell), words c cell⟩)
  simp only [padStringToLength, List.cons_append, List.append_assoc, String.toList,
    List.nil_append, List.map_map, Function.comp_def, rowCells_break isCellBreak_bar] at padded ⊢
  rw [rowCells_append_break isCellBreak_space, rowCells_break isCellBreak_bar, rowCells_spaces,
    rowCells_append_break isCellBreak_space, rowCells_break isCellBreak_bar,
    rowCells_word lastWord, padded]
  rfl

/-- The running maximum of `_counts_summary` bounds every cell's width, by induction on the
cells. -/
theorem le_foldl_max {α : Type} (g : α → Nat) (cells : List α) (init : Nat) :
    init ≤ cells.foldl (fun m c => max (g c) m) init ∧
      ∀ c ∈ cells, g c ≤ cells.foldl (fun m c => max (g c) m) init := by
  induction cells generalizing init with
  | nil => simp
  | cons c cells ih =>
      obtain ⟨start, each⟩ := ih (max (g c) init)
      simp only [List.foldl_cons, List.mem_cons, forall_eq_or_imp]
      exact ⟨le_trans (le_max_right _ _) start, le_trans (le_max_left _ _) start, each⟩

/-- The table of `_counts_summary` with a total reads back, row by row, as its keys followed
by `total`, over its values followed by the total, when every key and value is a word. -/
theorem countsTable_cells (cells : List (List Char × List Char)) (total : Nat)
    (words : ∀ c ∈ cells, IsCellWord c.1 ∧ IsCellWord c.2)
    (totalWord : IsCellWord (toString total).toList) :
    (countsTable cells (some total)).lines.map (fun l => rowCells l.toList) =
      [cells.map (·.1) ++ ["total".toList], cells.map (·.2) ++ [(toString total).toList]] := by
  obtain ⟨-, wide⟩ := le_foldl_max (fun c => max (c.1.length + 1) (c.2.length + 1)) cells 0
  simp only [countsTable, RichTextLines.ofLines, List.map_cons, List.map_nil, List.cons.injEq,
    and_true]
  exact ⟨rowCells_row Prod.fst cells _ _ _ (fun c member => by have := wide c member; omega)
      (fun c member => (words c member).1) (by decide),
    rowCells_row Prod.snd cells _ _ _ (fun c member => by have := wide c member; omega)
      (fun c member => (words c member).2) totalWord⟩

-----------------------------------------------------------------------------------------
-- The predicates
-----------------------------------------------------------------------------------------

namespace Scalar

/-- `np.isnan`. -/
def isNan : Scalar → Bool
  | .nan => true
  | _ => false

/-- `np.isneginf`. -/
def isNegInf : Scalar → Bool
  | .negInf => true
  | _ => false

/-- `np.isposinf`. -/
def isPosInf : Scalar → Bool
  | .posInf => true
  | _ => false

/-- `x < 0.0`; NaN compares false. -/
def ltZero : Scalar → Bool
  | .negInf => true
  | .finite q => decide (q < 0)
  | _ => false

/-- `x == 0.0`. -/
def eqZero : Scalar → Bool
  | .finite q => decide (q = 0)
  | _ => false

/-- `x > 0.0`; NaN compares false. -/
def gtZero : Scalar → Bool
  | .posInf => true
  | .finite q => decide (0 < q)
  | _ => false

/-- Neither infinite nor NaN: the elements `valid_array` keeps. -/
def finiteValue? : Scalar → Option ℚ
  | .finite q => some q
  | _ => none

end Scalar

/-- The six columns of the counts table of a numeric tensor, in the order of `counts`. -/
def summaryPredicates : List (String × (Scalar → Bool)) :=
  [("nan", Scalar.isNan), ("-inf", Scalar.isNegInf),
    ("-", fun x => x.ltZero && !x.isNegInf), ("0", Scalar.eqZero),
    ("+", fun x => x.gtZero && !x.isPosInf), ("+inf", Scalar.isPosInf)]

/-- The two columns of the counts table of a boolean tensor: `tensor == 0`, `tensor > 0`. -/
def boolPredicates : List (String × (Scalar → Bool)) :=
  [("False", Scalar.eqZero), ("True", Scalar.gtZero)]

/-- `np.sum(p(tensor))` for each named predicate. -/
def countAll (t : NdArray) (predicates : List (String × (Scalar → Bool))) : List (String × Nat) :=
  predicates.map (fun p => (p.1, t.elements.countP p.2))

/-- The sum of the counts of a table. -/
def countsTotal (counts : List (String × Nat)) : Nat := counts.foldr (fun c total => c.2 + total) 0

@[simp] theorem countsTotal_nil : countsTotal [] = 0 := rfl

@[simp] theorem countsTotal_cons (c : String × Nat) (counts : List (String × Nat)) :
    countsTotal (c :: counts) = c.2 + countsTotal counts := rfl

/-- The names of the statistics table, in its order. -/
def statNames : List String := ["min", "max", "mean", "std"]

/-- `numeric_summary(tensor)` for an ndarray. Complex tensors stop at `np.isneginf`, which
numpy does not define for complex values. -/
def numericSummary (host : Host) (tensor : NdArray) : Except PyError RichTextLines :=
  if tensor.size = 0 then .ok (.ofLines ["No numeric summary available due to empty tensor."])
  else match tensor.dtype.kind with
    | .floating | .integer =>
        let output := countsSummary (· ≠ 0) (countAll tensor summaryPredicates) true
          (some tensor.size)
        let validArray := tensor.elements.filterMap Scalar.finiteValue?
        if validArray = [] then .ok output
        else .ok (output.extend (countsSummary (fun _ => true)
          (statNames.map (fun k => (k, host.statStr k validArray))) false none))
    | .complex => .error .typeError
    | .boolean => .ok (countsSummary (· ≠ 0) (countAll tensor boolPredicates) true
        (some tensor.size))
    | .string | .other => .ok (.ofLines
        ["No numeric summary available due to tensor dtype: " ++ tensor.dtype.name ++ "."])

-----------------------------------------------------------------------------------------
-- The counts partition the tensor
-----------------------------------------------------------------------------------------

/-- No decimal digit character is a space or a bar. -/
theorem digitChar_not_break : ∀ d < 10, isCellBreak (Nat.digitChar d) = false := by decide

/-- `str(n)` of a count is one cell. -/
theorem natStr_cellWord (n : Nat) : IsCellWord (toString n).toList := by
  obtain ⟨ne, digits⟩ := natStr_digits n
  refine ⟨ne, fun x member => ?_⟩
  obtain ⟨d, lt, rfl⟩ := digits x member
  exact digitChar_not_break d lt

/-- Every element satisfies exactly one of the six predicates of the counts table, by
cases on the element and on the sign of a finite value. -/
theorem summaryPredicates_exactlyOne (x : Scalar) :
    (summaryPredicates.filter (fun p => p.2 x)).length = 1 := by
  cases x with
  | finite q =>
      rcases lt_trichotomy q 0 with h | rfl | h
      · simp [summaryPredicates, Scalar.isNan, Scalar.isNegInf, Scalar.ltZero, Scalar.eqZero,
          Scalar.gtZero, Scalar.isPosInf, h, h.ne, not_lt.mpr h.le]
      · decide
      · simp [summaryPredicates, Scalar.isNan, Scalar.isNegInf, Scalar.ltZero, Scalar.eqZero,
          Scalar.gtZero, Scalar.isPosInf, h, h.ne', not_lt.mpr h.le]
  | _ => rfl

/-- A boolean element is counted once, as `False` or as `True`. -/
theorem boolPredicates_exactlyOne {x : Scalar} (fits : x.Fits .boolean) :
    (boolPredicates.filter (fun p => p.2 x)).length = 1 := by
  cases x with
  | finite q => rcases fits with rfl | rfl <;> decide
  | _ => exact fits.elim

/-- Counting an element adds it to exactly the columns it satisfies, by induction on the
columns. -/
theorem countsTotal_countP_cons (predicates : List (String × (Scalar → Bool))) (x : Scalar)
    (xs : List Scalar) :
    countsTotal (predicates.map (fun p => (p.1, (x :: xs).countP p.2))) =
      countsTotal (predicates.map (fun p => (p.1, xs.countP p.2))) +
        (predicates.filter (fun p => p.2 x)).length := by
  induction predicates with
  | nil => rfl
  | cons p ps ih =>
      rw [List.map_cons, countsTotal_cons, ih, List.map_cons, countsTotal_cons, List.countP_cons,
        List.filter_cons]
      by_cases hp : p.2 x <;> simp [hp] <;> omega

/-- Columns that each element satisfies exactly one of count every element once, by
induction on the elements. -/
theorem countsTotal_exactlyOne (predicates : List (String × (Scalar → Bool))) (xs : List Scalar)
    (one : ∀ x ∈ xs, (predicates.filter (fun p => p.2 x)).length = 1) :
    countsTotal (predicates.map (fun p => (p.1, xs.countP p.2))) = xs.length := by
  induction xs with
  | nil => induction predicates <;> simp_all
  | cons x xs ih =>
      rw [countsTotal_countP_cons, ih (fun y member => one y (List.mem_cons_of_mem x member)),
        one x (List.mem_cons_self x xs), List.length_cons]

/-- The counts of such columns sum to the size of the tensor. -/
theorem countsTotal_countAll (t : NdArray) (predicates : List (String × (Scalar → Bool)))
    (one : ∀ x ∈ t.elements, (predicates.filter (fun p => p.2 x)).length = 1) :
    countsTotal (countAll t predicates) = t.size := by
  rw [NdArray.size, ← t.elements_length, ← countsTotal_exactlyOne predicates t.elements one]
  rfl

/-- The counts table reads back as the non-zero columns and the total. -/
theorem countsSummary_counts_cells (t : NdArray) (predicates : List (String × (Scalar → Bool)))
    (labels : ∀ p ∈ predicates, IsCellWord p.1.toList) :
    (countsSummary (· ≠ 0) (countAll t predicates) true (some t.size)).lines.map
        (fun l => rowCells l.toList) =
      [((countAll t predicates).filter (·.2 ≠ 0)).map (·.1.toList) ++ ["total".toList],
        ((countAll t predicates).filter (·.2 ≠ 0)).map (fun c => (toString c.2).toList) ++
          [(toString t.size).toList]] := by
  rw [countsSummary, countsTable_cells _ _ _ (natStr_cellWord _)]
  · simp [List.map_map, Function.comp_def]
  · simp only [ite_true, List.mem_map, List.mem_filter, countAll]
    rintro _ ⟨_, ⟨⟨p, member, rfl⟩, -⟩, rfl⟩
    exact ⟨labels p member, natStr_cellWord _⟩

/-- `numeric_summary` of a non-empty integer or floating tensor starts with the counts table;
the statistics table follows it when some element is finite. -/
theorem numericSummary_counts (host : Host) {t : NdArray}
    (numeric : t.dtype.kind = .integer ∨ t.dtype.kind = .floating) (nonempty : 0 < t.size) :
    ∃ out, numericSummary host t = .ok out ∧
      out.lines.take 2 = (countsSummary (· ≠ 0) (countAll t summaryPredicates) true
        (some t.size)).lines := by
  have length : (countsSummary (· ≠ 0) (countAll t summaryPredicates) true
      (some t.size)).lines.length = 2 := rfl
  unfold numericSummary
  rw [if_neg (Nat.pos_iff_ne_zero.mp nonempty)]
  rcases numeric with kind | kind <;> simp only [kind] <;> split
  all_goals first
    | exact ⟨_, rfl, List.take_of_length_le (by omega)⟩
    | exact ⟨_, rfl, by rw [RichTextLines.extend_lines, List.take_left' length]⟩

/-- `numeric_summary` of a non-empty boolean tensor is its counts table. -/
theorem numericSummary_boolean (host : Host) {t : NdArray} (boolean : t.dtype.kind = .boolean)
    (nonempty : 0 < t.size) :
    numericSummary host t =
      .ok (countsSummary (· ≠ 0) (countAll t boolPredicates) true (some t.size)) := by
  unfold numericSummary
  rw [if_neg (Nat.pos_iff_ne_zero.mp nonempty)]
  simp only [boolean]

/-- Summary counts partition the tensor. For a non-empty integer or floating tensor every
element satisfies exactly one of the six predicates, so the six counts sum to the size, and
the first table lists the non-zero counts in order and then the size as the total. For a
non-empty boolean tensor the `False` and `True` counts sum to the size, listed the same way. -/
theorem numericSummary_partition (host : Host) :
    (∀ t : NdArray, (t.dtype.kind = .integer ∨ t.dtype.kind = .floating) → 0 < t.size →
      (∀ x ∈ t.elements, (summaryPredicates.filter (fun p => p.2 x)).length = 1) ∧
      countsTotal (countAll t summaryPredicates) = t.size ∧
      ∃ out, numericSummary host t = .ok out ∧
        (out.lines.take 2).map (fun l => rowCells l.toList) =
          [((countAll t summaryPredicates).filter (·.2 ≠ 0)).map (·.1.toList) ++ ["total".toList],
            ((countAll t summaryPredicates).filter (·.2 ≠ 0)).map (fun c => (toString c.2).toList)
              ++ [(toString t.size).toList]]) ∧
    (∀ t : NdArray, t.dtype.kind = .boolean → 0 < t.size →
      countsTotal (countAll t boolPredicates) = t.size ∧
      ∃ out, numericSummary host t = .ok out ∧
        out.lines.map (fun l => rowCells l.toList) =
          [((countAll t boolPredicates).filter (·.2 ≠ 0)).map (·.1.toList) ++ ["total".toList],
            ((countAll t boolPredicates).filter (·.2 ≠ 0)).map (fun c => (toString c.2).toList)
              ++ [(toString t.size).toList]]) := by
  have cells := countsSummary_counts_cells
  refine ⟨fun t numeric nonempty => ?_, fun t boolean nonempty => ?_⟩
  · have one := fun x (_ : x ∈ t.elements) => summaryPredicates_exactlyOne x
    refine ⟨one, countsTotal_countAll t _ one, ?_⟩
    obtain ⟨out, result, first⟩ := numericSummary_counts host numeric nonempty
    exact ⟨out, result, first ▸ cells t summaryPredicates (by decide)⟩
  · refine ⟨countsTotal_countAll t _ (fun x member =>
      boolPredicates_exactlyOne (boolean ▸ t.elements_fit x member)), _,
      numericSummary_boolean host boolean nonempty, cells t boolPredicates (by decide)⟩

/-- `np.array([nan, -inf, -2., 0., 1.5, inf])`: one element for each column. -/
def everyColumn : NdArray :=
  ⟨⟨.floating, "float64"⟩, [6], [.nan, .negInf, .finite (-2), .finite 0, .finite (3 / 2), .posInf],
    rfl, by decide⟩

/-- `np.array([True, True, True, False, False])`. -/
def threeTrue : NdArray :=
  ⟨⟨.boolean, "bool"⟩, [5], [.finite 1, .finite 1, .finite 1, .finite 0, .finite 0], rfl,
    by decide⟩

/-- The six counts of `everyColumn` and the two of `threeTrue` sum to their sizes. -/
theorem numericSummary_partition_everyColumn_threeTrue :
    countsTotal (countAll everyColumn summaryPredicates) = everyColumn.size ∧
      countsTotal (countAll threeTrue boolPredicates) = threeTrue.size :=
  have host : Host := ⟨fun _ => "", fun _ _ => "", fun _ _ => ""⟩
  ⟨((numericSummary_partition host).1 everyColumn (.inr rfl) (by decide)).2.1,
    ((numericSummary_partition host).2 threeTrue rfl (by decide)).1⟩

-----------------------------------------------------------------------------------------
-- The total column
-----------------------------------------------------------------------------------------

/-- `np.zeros(n)`. -/
def zeros (n : Nat) : NdArray :=
  ⟨⟨.floating, "float64"⟩, [n], List.replicate n (.finite 0), by simp [shapeSize],
    fun _ _ => trivial⟩

/-- Every element of `np.zeros(n)` is counted in the column `0`. -/
theorem countAll_zeros (n : Nat) :
    countAll (zeros n) summaryPredicates =
      [("nan", 0), ("-inf", 0), ("-", 0), ("0", n), ("+", 0), ("+inf", 0)] := by
  simp [countAll, zeros, summaryPredicates, List.countP_replicate, Scalar.isNan,
    Scalar.isNegInf, Scalar.ltZero, Scalar.eqZero, Scalar.gtZero, Scalar.isPosInf]

/-- The total column is `max(len("total") + 1, len(str(total)))` wide, with no space added
for the value as the count columns add: a six-digit total fills it, so the table of
`np.zeros(100000)` prints its total right after the bar. -/
theorem numericSummary_zeros_total_unpadded (host : Host) :
    ∃ out, numericSummary host (zeros 100000) = .ok out ∧
      out.lines.take 2 = ["|      0 | total |", "| 100000 |100000 |"] := by
  obtain ⟨out, result, first⟩ := @numericSummary_counts host (zeros 100000) (.inr rfl) (by decide)
  refine ⟨out, result, ?_⟩
  rw [first, countAll_zeros]
  decide

end TvmDebugger.TensorData
