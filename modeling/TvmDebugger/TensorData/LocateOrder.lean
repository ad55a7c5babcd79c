import TvmDebugger.TensorData.Locate

/-! The batch sweep of `locate_tensor_element` keeps the order of the batch: along it the
rows never decrease, and elements found on one row have increasing start columns, whatever
the annotations and the line texts of the buffer.
-/

namespace TvmDebugger.TensorData

open TvmDebugger.Python

/-- Two start columns in increasing order, where both are known. -/
def StartsBefore (a b : Option Nat) : Prop := ∀ s t, a = some s → b = some t → s < t

/-- `a` is located no later than `b`: on an earlier row, or on the same row and, where both
start columns are known, further left. -/
def Location.Before (a b : Location) : Prop :=
  a.row ≤ b.row ∧ (a.row = b.row → StartsBefore a.startColumn b.startColumn)

-----------------------------------------------------------------------------------------
-- One line and one slice
-----------------------------------------------------------------------------------------

/-- The start columns of one line increase, by the left-to-right order of `re.finditer`;
there is one start and one end column per coordinate. -/
theorem locateElementsInLine_starts {line : List Char} {indicesList : List (List Int)}
    {refIndices : List Int} {starts ends : List (Option Nat)}
    (h : locateElementsInLine line indicesList refIndices = .ok (starts, ends)) :
    starts.Pairwise StartsBefore ∧ starts.length = indicesList.length ∧
      ends.length = indicesList.length := by
  obtain ⟨found, sub, len, rfl, rfl⟩ := locateElementsInLine_eq h
  have ordered := (finditer_ordered numberRegex line).sublist sub
  refine ⟨List.pairwise_append.mpr ⟨?_, ?_, ?_⟩, by simp; omega, by simp; omega⟩
  · exact List.pairwise_map.mpr (ordered.imp (fun lt _ _ hs ht => by cases hs; cases ht; exact lt))
  · exact List.pairwise_replicate.mpr (.inr (fun _ _ h => nomatch h))
  · intro _ _ b member _ _ _ hb
    rw [List.eq_of_mem_replicate member] at hb
    exact nomatch hb

/-- An empty line has no number token, so it gives no columns. -/
theorem locateElementsInLine_empty {indicesList : List (List Int)} {refIndices : List Int}
    {starts ends : List (Option Nat)}
    (h : locateElementsInLine [] indicesList refIndices = .ok (starts, ends)) :
    ∀ c ∈ starts, c = none := by
  obtain ⟨found, sub, -, rfl, -⟩ := locateElementsInLine_eq h
  rw [finditer_nil, List.sublist_nil] at sub
  subst sub
  simp only [List.map_nil, List.length_nil, Nat.sub_zero, List.nil_append]
  exact fun c member => List.eq_of_mem_replicate member

/-- Every location of a slice is on the slice's row and carries one of its start columns. -/
theorem mem_slice {isOmitted : Bool} {row : Nat} {starts ends : List (Option Nat)}
    {l : Location} (h : l ∈ slice isOmitted row starts ends) :
    l.row = row ∧ l.startColumn ∈ starts := by
  obtain ⟨c, member, rfl⟩ := List.mem_map.mp h
  exact ⟨rfl, (List.of_mem_zip member).1⟩

/-- A slice with increasing start columns is in order, all of it on one row. -/
theorem slice_ordered {isOmitted : Bool} {row : Nat} {starts ends : List (Option Nat)}
    (h : starts.Pairwise StartsBefore) (len : starts.length ≤ ends.length) :
    (slice isOmitted row starts ends).Pairwise Location.Before := by
  have columns : (slice isOmitted row starts ends).map (·.startColumn) = starts := by
    simp only [slice, List.map_map]
    exact List.map_fst_zip _ _ len
  rw [← columns, List.pairwise_map] at h
  exact h.imp_of_mem (fun ma mb before =>
    ⟨le_of_eq ((mem_slice ma).1.trans (mem_slice mb).1.symm), fun _ => before⟩)

-----------------------------------------------------------------------------------------
-- The sweep
-----------------------------------------------------------------------------------------

/-- The invariant of the sweep before line `i`: the locations written are in order, none
is on a row after the previous one, those with a start column are on rows before it, and
the previous row is before line `i` unless the sweep is still at its start. -/
structure SweepOrdered (s : Sweep) (i : Nat) : Prop where
  ordered : s.located.Pairwise Location.Before
  rows_le : ∀ l ∈ s.located, l.row ≤ s.prevR
  found_lt : ∀ l ∈ s.located, l.startColumn ≠ none → l.row < s.prevR
  fresh : s.prevR < i ∨ (s.prevR = 0 ∧ s.prevLine = "")

theorem SweepOrdered.start (rank : Nat) : SweepOrdered (Sweep.start rank) 0 :=
  ⟨.nil, nofun, nofun, .inr ⟨rfl, rfl⟩⟩

theorem SweepOrdered.prevR_le {s : Sweep} {i : Nat} (ord : SweepOrdered s i) : s.prevR ≤ i := by
  rcases ord.fresh with h | ⟨h, -⟩ <;> omega

/-- Located entries with a start column are on rows before line `i`. -/
theorem SweepOrdered.found_before {s : Sweep} {i : Nat} (ord : SweepOrdered s i) :
    ∀ l ∈ s.located, l.startColumn ≠ none → l.row < i :=
  fun l member known => lt_of_lt_of_le (ord.found_lt l member known) ord.prevR_le

/-- An unannotated line leaves the sweep as it is. -/
theorem SweepOrdered.skip {s : Sweep} {i : Nat} (ord : SweepOrdered s i) :
    SweepOrdered s (i + 1) :=
  { ord with fresh := ord.fresh.imp_left (Nat.lt_succ_of_lt) }

section Sweep

variable (annot : Dict Nat LineAnnot) (indicesList : List (List Int))

/-- Writing a slice keeps the locations in order: the slice is on the previous row, and
earlier locations on that row have no start column. A slice with start columns comes from
a line before line `i`, since at the start the previous line is empty. -/
theorem SweepOrdered.extend {s : Sweep} {i : Nat} {matching : List (List Int)}
    {sl : List Location} (ord : SweepOrdered s i) (h : locateSlice annot s matching = .ok sl) :
    (s.located ++ sl).Pairwise Location.Before ∧ (∀ l ∈ s.located ++ sl, l.row ≤ s.prevR) ∧
      (∀ l ∈ s.located ++ sl, l.startColumn ≠ none → l.row < i) := by
  obtain ⟨isOmitted, starts, ends, columns, rfl⟩ := locateSlice_eq annot h
  obtain ⟨increasing, lenStarts, lenEnds⟩ := locateElementsInLine_starts columns
  have found (l) (member : l ∈ slice isOmitted s.prevR starts ends) (known : l.startColumn ≠ none) :
      s.prevR < i := by
    rcases ord.fresh with before | ⟨-, empty⟩
    · exact before
    · rw [empty] at columns
      exact absurd (locateElementsInLine_empty columns _ (mem_slice member).2) known
  refine ⟨List.pairwise_append.mpr ⟨ord.ordered, slice_ordered increasing (by omega), ?_⟩, ?_, ?_⟩
  · intro a old b new
    have row := (mem_slice new).1
    refine ⟨row ▸ ord.rows_le a old, fun same s t hs _ => ?_⟩
    have := ord.found_lt a old (by simp [hs])
    omega
  · exact List.forall_mem_append.mpr ⟨ord.rows_le, fun l new => le_of_eq (mem_slice new).1⟩
  · exact List.forall_mem_append.mpr
      ⟨ord.found_before, fun l new known => (mem_slice new).1 ▸ found l new known⟩

/-- Moving the previous line to line `i` keeps the invariant, for located entries that are
in order, on rows up to the previous one, and with a start column only before line `i`. -/
theorem SweepOrdered.advance {s : Sweep} {i : Nat} {line : String} {bound : List Int}
    {key : IndicesKey} {located : List Location} (ord : SweepOrdered s i)
    (ordered : located.Pairwise Location.Before) (rows : ∀ l ∈ located, l.row ≤ s.prevR)
    (found : ∀ l ∈ located, l.startColumn ≠ none → l.row < i) :
    SweepOrdered ⟨i, line, bound, some key, located⟩ (i + 1) :=
  ⟨ordered, fun l member => le_trans (rows l member) ord.prevR_le, found, .inl (Nat.lt_succ_self i)⟩

/-- The loop keeps the locations in order, and leaves the invariant where it did not break,
by induction on the lines. -/
theorem sweepLines_ordered {lines : List String} {i : Nat} {s r : Sweep}
    (h : sweepLines annot indicesList i lines s = .ok r) (ord : SweepOrdered s i) :
    r.located.Pairwise Location.Before ∧
      (r.located.length < indicesList.length → ∃ j, SweepOrdered r j) := by
  induction lines generalizing i s with
  | nil =>
      simp only [sweepLines, Except.ok.injEq] at h
      exact h ▸ ⟨ord.ordered, fun _ => ⟨i, ord⟩⟩
  | cons line rest ih =>
      simp only [sweepLines] at h
      split at h
      · exact ih h ord.skip
      · obtain ⟨⟨s', stop⟩, step, h⟩ := bind_eq_ok.mp h
        obtain ⟨bound, key, ⟨rfl, rfl⟩ | ⟨sl, hsl, ⟨rfl, full, rfl⟩ | ⟨rfl, rfl⟩⟩⟩ :=
          sweepLine_cases annot indicesList step
        · exact ih h (ord.advance ord.ordered ord.rows_le ord.found_before)
        · simp only [ite_true, pure_eq_ok, Except.ok.injEq] at h
          subst h
          exact ⟨(ord.extend annot hsl).1, fun short => absurd full (by simpa using short)⟩
        · obtain ⟨ordered, rows, found⟩ := ord.extend annot hsl
          exact ih h (ord.advance ordered rows found)

/-- The block after the loop keeps the locations in order. -/
theorem sweepRest_ordered {s : Sweep} {located : List Location}
    (h : sweepRest annot indicesList s = .ok located)
    (ord : s.located.Pairwise Location.Before ∧
      (s.located.length < indicesList.length → ∃ j, SweepOrdered s j)) :
    located.Pairwise Location.Before := by
  unfold sweepRest at h
  split at h
  · obtain ⟨j, ordj⟩ := ord.2 ‹_›
    obtain ⟨sl, hsl, h⟩ := bind_eq_ok.mp h
    simp only [pure_eq_ok, Except.ok.injEq] at h
    exact h ▸ (ordj.extend annot hsl).1
  · simp only [pure_eq_ok, ok_bind, Except.ok.injEq] at h
    exact h ▸ ord.1

end Sweep

/-- Located positions keep the batch order: for every buffer and every batch the query
returns on, the rows never decrease along the batch, and two positions on one row whose
start columns are both known have them in increasing order. -/
theorem locateTensorElement_batch_order {formatted : RichTextLines} {batch : List (List Int)}
    {areOmitted : List Bool} {rows : List Nat} {starts ends : List (Option Nat)}
    (h : locateTensorElement formatted (.batch batch) = .ok (.batch areOmitted rows starts ends)) :
    rows.Pairwise (· ≤ ·) ∧
      (rows.zip starts).Pairwise (fun a b => a.1 = b.1 → ∀ s t, a.2 = some s → b.2 = some t → s < t) := by
  obtain ⟨metadata, swept, located, -, -, hs, hl, result⟩ := locateTensorElement_batch_eq h
  simp only [Located.batch.injEq] at result
  obtain ⟨-, rfl, rfl, -⟩ := result
  have ordered := sweepRest_ordered _ _ hl
    (sweepLines_ordered _ _ hs (SweepOrdered.start metadata.shape.length))
  refine ⟨List.pairwise_map.mpr (ordered.imp (·.1)), ?_⟩
  rw [List.zip_map', List.pairwise_map]
  exact ordered.imp (·.2)

/-- The buffer of `np.array([[10, 11], [12, 13]])` with its two annotated lines. -/
theorem locateTensorElement_batch_order_tenToThirteen :
    locateTensorElement
        ⟨["array([[10, 11],", "       [12, 13]])"], .empty,
          ⟨[(1, .begin [1, 0]), (0, .begin [0, 0])]⟩, some ⟨⟨.integer, "int64"⟩, [2, 2]⟩⟩
        (.batch [[0, 0], [0, 1], [1, 0], [1, 1]])
      = .ok (.batch [false, false, false, false] [0, 0, 1, 1]
          [some 8, some 12, some 8, some 12] [some 10, some 14, some 10, some 14]) ∧
    ([0, 0, 1, 1] : List Nat).Pairwise (· ≤ ·) ∧
      ([0, 0, 1, 1].zip [some 8, some 12, some 8, some 12]).Pairwise
        (fun a b => a.1 = b.1 → ∀ s t, a.2 = some s → b.2 = some t → s < t) :=
  have located := by decide
  ⟨located, locateTensorElement_batch_order located⟩

end TvmDebugger.TensorData
