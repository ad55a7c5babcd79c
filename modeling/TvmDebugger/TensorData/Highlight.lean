import TvmDebugger.TensorData.Buffer

/-! Where `locate_tensor_element` puts the elements it finds, and so where the highlighting
of `format_tensor` puts its segments. Every location is written by a slice on the previous
line of the sweep, whose annotation gives the omitted flag, so it is on an annotated line.
Its columns come from `_locate_elements_in_line` on that line, which is a line of the buffer
or still the empty line of the start, and a match of `_NUMBER_REGEX` lies inside its line
and ends with a delimiter. So each column pair marks characters of its line, and each
segment the highlighting adds starts before it stops, and stops before the line ends.
-/

namespace TvmDebugger.TensorData

open TvmDebugger.Python

/-- A location is on an annotated line and carries that line's omitted flag. -/
def Location.Annotated (annot : Dict Nat LineAnnot) (l : Location) : Prop :=
  ∃ a, annot.get? l.row = some a ∧ l.isOmitted = a.omitted.isSome

/-- A location with both columns marks characters of its row's line: it starts before it
stops, and stops before the line ends. -/
def Location.Fits (lines : List String) (l : Location) : Prop :=
  ∀ a b, l.startColumn = some a → l.endColumn = some b →
    ∃ line, lines[l.row]? = some line ∧ a < b ∧ b < line.length

-----------------------------------------------------------------------------------------
-- One line and one slice
-----------------------------------------------------------------------------------------

/-- Both columns found on a line are inside it: a token starts at the start column and
ends at the end column, which is the delimiter the match includes. -/
theorem locateElementsInLine_fits {line : String} {indicesList : List (List Int)}
    {refIndices : List Int} {starts ends : List (Option Nat)}
    (h : locateElementsInLine line.toList indicesList refIndices = .ok (starts, ends)) :
    ∀ c ∈ starts.zip ends, ∀ a b, c.1 = some a → c.2 = some b → a < b ∧ b < line.length := by
  obtain ⟨found, sub, -, rfl, rfl⟩ := locateElementsInLine_eq h
  intro c member a b first second
  rw [List.zip_append (by simp), List.zip_map', List.mem_append] at member
  rcases member with member | member
  · obtain ⟨m, inside, rfl⟩ := List.mem_map.mp member
    cases first
    cases second
    have : m.1 + 3 ≤ m.2 ∧ m.2 ≤ line.length := numberRegex_finditer_span (sub.subset inside)
    omega
  · rw [List.eq_of_mem_replicate (List.of_mem_zip member).1] at first
    cases first

/-- A slice of columns found on line `row` fits the lines, also when that line is the empty
one the sweep starts from, on which nothing is found. -/
theorem slice_fits {lines : List String} {isOmitted : Bool} {row : Nat} {line : String}
    {starts ends : List (Option Nat)}
    (columns : ∀ c ∈ starts.zip ends, ∀ a b, c.1 = some a → c.2 = some b → a < b ∧ b < line.length)
    (onRow : line = "" ∨ lines[row]? = some line) :
    ∀ l ∈ slice isOmitted row starts ends, l.Fits lines := by
  intro l member a b start stop
  obtain ⟨c, inside, rfl⟩ := List.mem_map.mp member
  obtain ⟨lt, within⟩ := columns c inside a b start stop
  rcases onRow with rfl | found
  · cases within
  · exact ⟨line, found, lt, within⟩

-----------------------------------------------------------------------------------------
-- The sweep
-----------------------------------------------------------------------------------------

section Sweep

variable (annot : Dict Nat LineAnnot) (indicesList : List (List Int))

/-- A slice is on the previous row, which `omittedAt` finds annotated. -/
theorem locateSlice_annotated {s : Sweep} {matching : List (List Int)} {sl : List Location}
    (h : locateSlice annot s matching = .ok sl) : ∀ l ∈ sl, l.Annotated annot := by
  simp only [locateSlice, bind_eq_ok, pure_eq_ok, Except.ok.injEq] at h
  obtain ⟨_, -, isOmitted, flag, rfl⟩ := h
  intro l member
  obtain ⟨_, -, rfl⟩ := List.mem_map.mp member
  unfold omittedAt at flag
  split at flag
  · next a found => exact ⟨a, found, (Except.ok.inj flag).symm⟩
  · cases flag

/-- The invariant of the sweep over the lines of a buffer: the previous line is the line of
the previous row, unless it is still the empty line of the start, and every location
written is on an annotated line and fits the lines. -/
structure SweepFits (lines : List String) (s : Sweep) : Prop where
  prev : s.prevLine = "" ∨ lines[s.prevR]? = some s.prevLine
  located : ∀ l ∈ s.located, l.Annotated annot ∧ l.Fits lines

theorem SweepFits.start (lines : List String) (rank : Nat) :
    SweepFits annot lines (Sweep.start rank) :=
  ⟨.inl rfl, nofun⟩

/-- A slice written on the previous line is on an annotated line and fits the lines. -/
theorem SweepFits.extend {lines : List String} {s : Sweep} {matching : List (List Int)}
    {sl : List Location} (inv : SweepFits annot lines s)
    (h : locateSlice annot s matching = .ok sl) :
    ∀ l ∈ s.located ++ sl, l.Annotated annot ∧ l.Fits lines := by
  have annotated := locateSlice_annotated annot h
  obtain ⟨isOmitted, starts, ends, columns, rfl⟩ := locateSlice_eq annot h
  refine List.forall_mem_append.mpr ⟨inv.located, fun l member => ⟨annotated l member, ?_⟩⟩
  exact slice_fits (locateElementsInLine_fits columns) inv.prev l member

/-- The loop keeps the invariant, over the lines from `i` on, by induction on them. -/
theorem sweepLines_fits {lines rest : List String} {i : Nat} {s r : Sweep}
    (h : sweepLines annot indicesList i rest s = .ok r) (suffix : lines.drop i = rest)
    (inv : SweepFits annot lines s) : SweepFits annot lines r := by
  induction rest generalizing i s with
  | nil =>
      simp only [sweepLines, Except.ok.injEq] at h
      exact h ▸ inv
  | cons line rest ih =>
      have here : lines[i]? = some line := by
        simpa [suffix] using (List.getElem?_drop lines i 0).symm
      have next : lines.drop (i + 1) = rest := by rw [← List.tail_drop, suffix, List.tail_cons]
      simp only [sweepLines] at h
      split at h
      · exact ih h next inv
      · obtain ⟨⟨s', stop⟩, step, h⟩ := bind_eq_ok.mp h
        obtain ⟨bound, key, ⟨rfl, rfl⟩ | ⟨sl, hsl, ⟨rfl, -, rfl⟩ | ⟨rfl, rfl⟩⟩⟩ :=
          sweepLine_cases annot indicesList step
        · exact ih h next ⟨.inr here, inv.located⟩
        · simp only [ite_true, pure_eq_ok, Except.ok.injEq] at h
          exact h ▸ ⟨inv.prev, inv.extend annot hsl⟩
        · exact ih h next ⟨.inr here, inv.extend annot hsl⟩

/-- The block after the loop writes its slice on the last line seen, which fits. -/
theorem sweepRest_fits {lines : List String} {s : Sweep} {located : List Location}
    (h : sweepRest annot indicesList s = .ok located) (inv : SweepFits annot lines s) :
    ∀ l ∈ located, l.Annotated annot ∧ l.Fits lines := by
  unfold sweepRest at h
  split at h
  · obtain ⟨sl, hsl, h⟩ := bind_eq_ok.mp h
    simp only [pure_eq_ok, Except.ok.injEq] at h
    exact h ▸ inv.extend annot hsl
  · simp only [pure_eq_ok, ok_bind, Except.ok.injEq] at h
    exact h ▸ inv.located

/-- The whole sweep, from the start over every line of the buffer, writes locations on
annotated lines that fit the lines. -/
theorem sweep_fits {lines : List String} {rank : Nat} {swept : Sweep} {located : List Location}
    (loop : sweepLines annot indicesList 0 lines (Sweep.start rank) = .ok swept)
    (rest : sweepRest annot indicesList swept = .ok located) :
    ∀ l ∈ located, l.Annotated annot ∧ l.Fits lines :=
  sweepRest_fits annot indicesList rest
    (sweepLines_fits annot indicesList loop (List.drop_zero _) (SweepFits.start annot _ _))

end Sweep

/-- The four lists of a batch zip back to the locations they were read from. -/
theorem zipLocated_map (located : List Location) :
    zipLocated (located.map (·.isOmitted)) (located.map (·.row)) (located.map (·.startColumn))
      (located.map (·.endColumn)) = located := by
  induction located with
  | nil => rfl
  | cons l located ih => simpa [zipLocated] using ih

/-- The locations of a result: the one of a single query, or those of the four lists of a
batch, in order. -/
def Located.locations : Located → List Location
  | .single l => [l]
  | .batch areOmitted rows starts ends => zipLocated areOmitted rows starts ends

/-- A query that returns ran the sweep over the buffer, and returns locations it wrote. -/
theorem locateTensorElement_located {formatted : RichTextLines} {query : Query}
    {result : Located} (h : locateTensorElement formatted query = .ok result) :
    ∃ indicesList rank swept located,
      sweepLines formatted.annotations indicesList 0 formatted.lines (Sweep.start rank)
        = .ok swept ∧
      sweepRest formatted.annotations indicesList swept = .ok located ∧
      ∀ l ∈ result.locations, l ∈ located := by
  cases query with
  | batch batch =>
      obtain ⟨metadata, swept, located, -, -, hs, hl, rfl⟩ := locateTensorElement_batch_eq h
      refine ⟨batch, _, swept, located, hs, hl, fun l member => ?_⟩
      rwa [Located.locations, zipLocated_map] at member
  | single ind =>
      cases ind with
      | nil => simp [locateTensorElement] at h
      | cons first rest =>
          simp only [locateTensorElement, pure_eq_ok, ok_bind] at h
          cases hm : formatted.tensorMetadata with
          | none => simp [hm] at h
          | some metadata =>
              simp only [hm, bind_eq_ok, pure_eq_ok, Bool.false_eq_true, ite_false] at h
              obtain ⟨_, -, swept, hs, located, hl, h⟩ := h
              refine ⟨_, _, swept, located, hs, hl, ?_⟩
              cases located with
              | nil => cases h
              | cons l _ =>
                  obtain rfl := Except.ok.inj h
                  simp [Located.locations]

/-- Every location `locate_tensor_element` returns, for one coordinate or a batch, is on an
annotated line of the buffer and carries that line's omitted flag; where both its columns
are known, they mark characters of that line, the start before the end and the end before
the line ends. -/
theorem locateTensorElement_locations {formatted : RichTextLines} {query : Query}
    {result : Located} (h : locateTensorElement formatted query = .ok result) :
    ∀ l ∈ result.locations, l.Annotated formatted.annotations ∧ l.Fits formatted.lines := by
  obtain ⟨indicesList, rank, swept, located, loop, rest, written⟩ := locateTensorElement_located h
  exact fun l member => sweep_fits _ _ loop rest l (written l member)

/-- The two annotated lines of `np.array([[10, 11], [12, 13]])`, as numpy prints them. -/
def tenToThirteenLines : RichTextLines :=
  ⟨["array([[10, 11],", "       [12, 13]])"], .empty,
    ⟨[(1, .begin [1, 0]), (0, .begin [0, 0])]⟩, some ⟨⟨.integer, "int64"⟩, [2, 2]⟩⟩

/-- Element `[1, 0]` is the token `12` on the second line, an annotated line outside an
omitted region. -/
theorem locateTensorElement_locations_tenToThirteen :
    locateTensorElement tenToThirteenLines (.single [1, 0])
        = .ok (.single ⟨false, 1, some 8, some 10⟩) ∧
      ∀ l ∈ (Located.single ⟨false, 1, some 8, some 10⟩).locations,
        l.Annotated tenToThirteenLines.annotations ∧ l.Fits tenToThirteenLines.lines :=
  have located : locateTensorElement tenToThirteenLines (.single [1, 0])
      = .ok (.single ⟨false, 1, some 8, some 10⟩) := by
    decide
  ⟨located, locateTensorElement_locations located⟩

-----------------------------------------------------------------------------------------
-- The segments
-----------------------------------------------------------------------------------------

/-- On row `r`, one location appends its segment where it is on row `r`, outside an
omitted region, with both columns, and appends nothing otherwise. -/
theorem addHighlight_get? (attr : String) (segs : Dict Nat (List FontAttrSeg)) (l : Location)
    (r : Nat) :
    ∃ added, ((addHighlight attr segs l).get? r).getD [] = (segs.get? r).getD [] ++ added ∧
      ∀ seg ∈ added, l.row = r ∧
        ∃ a b, l.startColumn = some a ∧ l.endColumn = some b ∧ seg = ⟨a, b, attr⟩ := by
  unfold addHighlight
  split
  · next a b _ start stop =>
    by_cases same : l.row = r
    · subst same
      exact ⟨[⟨a, b, attr⟩], by simp, by simp [start, stop]⟩
    · exact ⟨[], by simp [Dict.get?_insert_ne _ _ same], by simp⟩
  · exact ⟨[], by simp, by simp⟩

/-- The loop of the highlighting appends to row `r` one segment for each location on row
`r` with both columns, by induction on the locations. -/
theorem foldl_addHighlight (attr : String) (r : Nat) :
    ∀ (locs : List Location) (segs : Dict Nat (List FontAttrSeg)),
      ∃ added, ((locs.foldl (addHighlight attr) segs).get? r).getD [] =
          (segs.get? r).getD [] ++ added ∧
        ∀ seg ∈ added, ∃ l ∈ locs, l.row = r ∧
          ∃ a b, l.startColumn = some a ∧ l.endColumn = some b ∧ seg = ⟨a, b, attr⟩
  | [], _ => ⟨[], by simp, by simp⟩
  | l :: locs, segs => by
      obtain ⟨first, now, fromFirst⟩ := addHighlight_get? attr segs l r
      obtain ⟨rest, later, fromRest⟩ := foldl_addHighlight attr r locs (addHighlight attr segs l)
      refine ⟨first ++ rest, by rw [List.foldl_cons, later, now, List.append_assoc], ?_⟩
      intro seg member
      rcases List.mem_append.mp member with member | member
      · exact ⟨l, List.mem_cons_self _ _, fromFirst seg member⟩
      · obtain ⟨l', inside, marks⟩ := fromRest seg member
        exact ⟨l', List.mem_cons_of_mem _ inside, marks⟩

/-- The highlighting keeps the segments of every row and appends, with the option's font
attribute, segments that mark characters of the row's line in the buffer it returns: each
starts before it stops, and stops before the line ends. -/
theorem highlightElements_segments {host : Host} {tensor : NdArray} {h : HighlightOptions}
    {formatted out : RichTextLines} (done : highlightElements host tensor h formatted = .ok out)
    (r : Nat) :
    ∃ added, (out.fontAttrSegs.get? r).getD [] = (formatted.fontAttrSegs.get? r).getD [] ++ added ∧
      ∀ seg ∈ added, seg.attr = h.fontAttr ∧ ∃ line, out.lines[r]? = some line ∧
        0 ≤ seg.start ∧ seg.start < seg.stop ∧ seg.stop < line.length := by
  obtain ⟨line, rest, summary, -, rfl | ⟨areOmitted, rows, starts, ends, found, rfl⟩⟩ :=
    highlightElements_cases done
  · exact ⟨[], by simp, by simp⟩
  · obtain ⟨added, segs, marked⟩ := foldl_addHighlight h.fontAttr r _ formatted.fontAttrSegs
    refine ⟨added, segs, fun seg member => ?_⟩
    obtain ⟨l, inside, rfl, a, b, start, stop, rfl⟩ := marked seg member
    obtain ⟨_, _, _, _, loop, rest, written⟩ := locateTensorElement_located found
    obtain ⟨line, onRow, lt, within⟩ :=
      (sweep_fits _ _ loop rest l (written l inside)).2 a b start stop
    refine ⟨rfl, line, onRow, ?_⟩
    dsimp only
    omega

/-- With every positive element highlighted, both lines carry bold segments on the tokens
`10`, `11`, `12` and `13`, after the summary is put on the first line. -/
def tenToThirteenMarked : RichTextLines :=
  ⟨["array([[10, 11], Highlighted: 4 of 4 element(s) (%)", "       [12, 13]])"],
    ⟨[(1, [⟨8, 10, "bold"⟩, ⟨12, 14, "bold"⟩]), (0, [⟨8, 10, "bold"⟩, ⟨12, 14, "bold"⟩])]⟩,
    ⟨[(1, .begin [1, 0]), (0, .begin [0, 0])]⟩, some ⟨⟨.integer, "int64"⟩, [2, 2]⟩⟩

theorem highlightElements_segments_tenToThirteen :
    highlightElements (.printing "array([[10, 11],\n       [12, 13]])") tenToThirteen
        positiveCriterion tenToThirteenLines = .ok tenToThirteenMarked ∧
      ∃ added, (tenToThirteenMarked.fontAttrSegs.get? 1).getD [] =
          (tenToThirteenLines.fontAttrSegs.get? 1).getD [] ++ added ∧
        ∀ seg ∈ added, seg.attr = positiveCriterion.fontAttr ∧
          ∃ line, tenToThirteenMarked.lines[1]? = some line ∧
            0 ≤ seg.start ∧ seg.start < seg.stop ∧ seg.stop < line.length :=
  have marked : highlightElements (.printing "array([[10, 11],\n       [12, 13]])") tenToThirteen
      positiveCriterion tenToThirteenLines = .ok tenToThirteenMarked := by
    decide
  ⟨marked, highlightElements_segments marked 1⟩

end TvmDebugger.TensorData
