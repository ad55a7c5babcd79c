import TvmDebugger.TensorData.Locate

/-! `_locate_elements_in_line` against the lookup it stands for: its one left-to-right scan
gives each of a strictly increasing list of offsets the match an independent lookup of that
offset among the matches before the ellipsis finds.
-/

namespace TvmDebugger.TensorData

open TvmDebugger.Python

-----------------------------------------------------------------------------------------
-- One lookup per offset
-----------------------------------------------------------------------------------------

/-- The matches of `_NUMBER_REGEX` in `line` that start no later than its first `...,`, or
all of them when it has none. -/
def matchesBeforeEllipsis (line : List Char) : List (Nat × Nat) :=
  (numberRegex.finditer line).filter (fun m => m.1 ≤ (find line numpyOmission).getD line.length)

/-- The lookup of one offset on its own: `(m.start(), m.end() - 1)` of the `offset`-th match
before the ellipsis, or `(None, None)` when there are not that many. -/
def lookupOffset (line : List Char) (offset : Int) : Option Nat × Option Nat :=
  ((matchesBeforeEllipsis line)[offset.toNat]?.map (·.1),
    (matchesBeforeEllipsis line)[offset.toNat]?.map (·.2 - 1))

-----------------------------------------------------------------------------------------
-- The scan
-----------------------------------------------------------------------------------------

/-- Matches in increasing order of start stop being early at the first late one, so the
loop's break at the ellipsis keeps exactly the early matches, by induction on the matches. -/
theorem takeWhile_early_eq_filter {ms : List (Nat × Nat)}
    (ordered : ms.Pairwise (fun a b => a.1 < b.1)) (e : Nat) :
    ms.takeWhile (fun m => m.1 ≤ e) = ms.filter (fun m => m.1 ≤ e) := by
  induction ms with
  | nil => rfl
  | cons m ms ih =>
    obtain ⟨later, ordered⟩ := List.pairwise_cons.mp ordered
    by_cases early : m.1 ≤ e
    · simp [List.takeWhile_cons, List.filter_cons, early, ih ordered]
    · have none : ms.filter (fun m => m.1 ≤ e) = [] := List.filter_eq_nil_iff.mpr
        (fun b member => by have := later b member; simp only [decide_eq_true_eq]; omega)
      simp [List.takeWhile_cons, List.filter_cons, early, none]

/-- From counter `c`, the scan gives every offset at least `c`, taken in strictly increasing
order, the match `offset - c` places further on, and leaves the others without one, by
induction on the matches. -/
theorem scanMatches_lookup (os : List Int) (c : Nat) (ms : List (Nat × Nat))
    (above : ∀ o ∈ os, (c : Int) ≤ o) (increasing : os.Pairwise (· < ·)) :
    (scanMatches os c ms).map some ++ List.replicate (os.length - (scanMatches os c ms).length) none
      = os.map (fun o => ms[(o - (c : Int)).toNat]?) := by
  induction ms generalizing os c with
  | nil => cases os <;> simp [scanMatches, List.replicate_succ]
  | cons m ms ih =>
    cases os with
    | nil => rfl
    | cons o os =>
      obtain ⟨later, increasingRest⟩ := List.pairwise_cons.mp increasing
      have shift : ∀ xs : List Int, (∀ x ∈ xs, ((c + 1 : Nat) : Int) ≤ x) →
          xs.map (fun x => ms[(x - ((c + 1 : Nat) : Int)).toNat]?)
            = xs.map (fun x => (m :: ms)[(x - (c : Int)).toNat]?) := by
        refine fun xs bound => List.map_congr_left (fun x member => ?_)
        rw [show (x - (c : Int)).toNat = (x - ((c + 1 : Nat) : Int)).toNat + 1 by
          have := bound x member; omega]
        exact List.getElem?_cons_succ.symm
      have start := above o (List.mem_cons_self o os)
      simp only [scanMatches]
      split
      · next hit =>
        subst hit
        have rest : ∀ x ∈ os, ((c + 1 : Nat) : Int) ≤ x := fun x member => by
          have := later x member; omega
        simp only [List.map_cons, List.length_cons, Nat.add_sub_add_right, List.cons_append,
          ih os (c + 1) rest increasingRest, shift os rest, Int.sub_self, Int.toNat_zero,
          List.getElem?_cons_zero]
      · next miss =>
        have rest : ∀ x ∈ o :: os, ((c + 1 : Nat) : Int) ≤ x := List.forall_mem_cons.mpr
          ⟨by omega, fun x member => by have := later x member; omega⟩
        rw [ih (o :: os) (c + 1) rest increasing, shift _ rest]

/-- The empty batch has no offsets, so every condition on them holds, yet the loop reads
`offsets[0]` at the first match of the line and raises IndexError; `locate_tensor_element`
calls the helper only under `if matching_indices_list:` and `if batch_pos < batch_size:`. -/
theorem locateElementsInLine_empty_batch_indexError :
    lastOffsets [0] [] = .ok [] ∧
      locateElementsInLine "array([10, 11])".toList [] [0] = .error .indexError := by
  decide

/-- Single scan equals per-offset lookup: for a non-empty batch whose offsets are non-negative
and strictly increasing, position `j` of each list `_locate_elements_in_line` returns is the
lookup of `offsets[j]` among the matches before the ellipsis. -/
theorem locateElementsInLine_lookups {line : List Char} {indicesList : List (List Int)}
    {refIndices : List Int} {offsets : List Int} (nonempty : indicesList ≠ [])
    (computed : lastOffsets refIndices indicesList = .ok offsets)
    (nonneg : ∀ o ∈ offsets, 0 ≤ o) (increasing : offsets.Pairwise (· < ·)) :
    locateElementsInLine line indicesList refIndices
      = .ok (offsets.map (lookupOffset line)).unzip := by
  have scan := scanMatches_lookup offsets 0 (matchesBeforeEllipsis line)
    (fun o member => by simpa using nonneg o member) increasing
  rw [lastOffsets_length computed] at scan
  have column := fun (f : Nat × Nat → Nat) => congrArg (List.map (Option.map f)) scan
  simp only [List.map_append, List.map_map, List.map_replicate, Function.comp_def,
    Option.map_some', Option.map_none', Int.natCast_zero, Int.sub_zero] at column
  simp only [locateElementsInLine, computed, ok_bind, pure_eq_ok, nonempty, false_and, if_false,
    takeWhile_early_eq_filter (finditer_ordered numberRegex line), ← matchesBeforeEllipsis.eq_1,
    column]
  rw [show (offsets.map (lookupOffset line)).unzip
      = ((offsets.map (lookupOffset line)).map Prod.fst, (offsets.map (lookupOffset line)).map Prod.snd)
    from Prod.ext List.unzip_fst List.unzip_snd]
  simp only [List.map_map, Function.comp_def, lookupOffset]

/-- In `array([10, 11, 12])` the offsets 0 and 2 of `[[0], [2]]` against `[0]` get the
tokens `10` at columns 7 to 9 and `12` at columns 15 to 17. -/
theorem locateElementsInLine_lookups_tenElevenTwelve :
    locateElementsInLine "array([10, 11, 12])".toList [[0], [2]] [0]
        = .ok (([0, 2] : List Int).map (lookupOffset "array([10, 11, 12])".toList)).unzip ∧
      (([0, 2] : List Int).map (lookupOffset "array([10, 11, 12])".toList)).unzip
        = ([some 7, some 15], [some 9, some 17]) :=
  ⟨locateElementsInLine_lookups (by decide) (by decide) (by decide) (by decide), by decide⟩

end TvmDebugger.TensorData
