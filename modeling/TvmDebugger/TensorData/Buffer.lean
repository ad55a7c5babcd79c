import TvmDebugger.TensorData.Format

/-! What the buffer `format_tensor` returns holds together: every line annotation is on one
of its lines, so that `locate_tensor_element` reads lines that are there. Each piece of the
buffer keeps this: the label and metadata lines, the auxiliary message, the numeric summary,
numpy's annotated text of the array, and the highlighting, which changes no line count and
no annotation.
-/

namespace TvmDebugger.TensorData

open TvmDebugger.Python

namespace RichTextLines

/-- Every line annotation of the buffer is on one of its lines. -/
def WellAnnotated (b : RichTextLines) : Prop := ∀ k ∈ b.annotations.keys, k < b.lines.length

theorem ofLines_wellAnnotated (lines : List String) : (ofLines lines).WellAnnotated :=
  fun _ member => by simp [ofLines, Dict.keys, Dict.empty] at member

/-- The annotations after `extend` are this buffer's, and the other's moved down by `n`
lines, by induction on the other's entries. -/
theorem mem_keys_shift {α : Type} {n : Nat} {d : Dict Nat α} :
    ∀ {es : List (Nat × α)} {k : Nat}, k ∈ (es.foldr (fun e d => d.insert (n + e.1) e.2) d).keys →
      k ∈ d.keys ∨ ∃ e ∈ es, k = n + e.1
  | [], _, h => .inl h
  | e :: _, _, h => by
      rcases Dict.mem_keys_insert h with rfl | member
      · exact .inr ⟨e, List.mem_cons_self _ _, rfl⟩
      · exact (mem_keys_shift member).imp_right
          fun ⟨e', inside, same⟩ => ⟨e', List.mem_cons_of_mem _ inside, same⟩

/-- `extend` keeps the annotations on the lines: the other buffer's move down with its
lines. -/
theorem extend_wellAnnotated {self other : RichTextLines} (first : self.WellAnnotated)
    (second : other.WellAnnotated) : (self.extend other).WellAnnotated := by
  intro k member
  rw [extend_lines, List.length_append]
  rcases mem_keys_shift member with old | ⟨e, inside, rfl⟩
  · have := first k old
    omega
  · have := second e.1 (List.mem_map_of_mem _ inside)
    omega

theorem append_wellAnnotated {self : RichTextLines} (h : self.WellAnnotated) (line : String) :
    (self.append line).WellAnnotated := fun k member => by
  have := h k member
  simp only [append_lines, List.length_append, List.length_singleton]
  omega

end RichTextLines

open RichTextLines

theorem countsTable_wellAnnotated (cells : List (List Char × List Char))
    (totalCount : Option Nat) : (countsTable cells totalCount).WellAnnotated := by
  unfold countsTable
  split <;> exact ofLines_wellAnnotated _

theorem countsSummary_wellAnnotated {α : Type} [ToString α] {truthy : α → Bool}
    {counts : List (String × α)} {skipZeros : Bool} {totalCount : Option Nat} :
    (countsSummary truthy counts skipZeros totalCount).WellAnnotated :=
  countsTable_wellAnnotated _ _

/-- The numeric summary has no line annotations on lines it lacks: it is one or two tables. -/
theorem numericSummary_wellAnnotated {host : Host} {tensor : NdArray} {b : RichTextLines}
    (h : numericSummary host tensor = .ok b) : b.WellAnnotated := by
  unfold numericSummary at h
  dsimp only at h
  split at h
  · obtain rfl := Except.ok.inj h
    exact ofLines_wellAnnotated _
  · split at h <;> (try split at h) <;> first
      | (obtain rfl := Except.ok.inj h
         first
          | exact countsSummary_wellAnnotated
          | exact extend_wellAnnotated countsSummary_wellAnnotated countsSummary_wellAnnotated
          | exact ofLines_wellAnnotated _)
      | cases h

/-- The lines before the array keep the annotations on the lines, given an auxiliary
message that does. -/
theorem formatHeader_wellAnnotated {host : Host} {tensor : NdArray} {args : FormatTensorArgs}
    {formatted : RichTextLines}
    (aux : ∀ m, args.auxiliaryMessage = some m → m.WellAnnotated)
    (h : formatHeader host tensor args = .ok formatted) : formatted.WellAnnotated := by
  have start : ∀ lines segs, (⟨lines, segs, .empty, none⟩ : RichTextLines).WellAnnotated :=
    fun _ _ _ member => by simp [Dict.keys, Dict.empty] at member
  have summarized : ∀ f : RichTextLines, f.WellAnnotated → ∀ b, numericSummary host tensor = .ok b →
      (((f.append "Numeric summary:").extend b).append "").WellAnnotated :=
    fun f wa b summary => append_wellAnnotated
      (extend_wellAnnotated (append_wellAnnotated wa _) (numericSummary_wellAnnotated summary)) _
  unfold formatHeader at h
  cases given : args.auxiliaryMessage <;> simp only [given] at h <;> split at h <;>
    simp only [bind_eq_ok, pure_eq_ok, Except.ok.injEq] at h
  · obtain ⟨b, summary, rfl⟩ := h
    exact summarized _ (start _ _) b summary
  · obtain ⟨_, -, rfl⟩ := h
    exact start _ _
  · obtain ⟨b, summary, rfl⟩ := h
    exact summarized _ (extend_wellAnnotated (start _ _) (aux _ given)) b summary
  · obtain ⟨_, -, rfl⟩ := h
    exact extend_wellAnnotated (start _ _) (aux _ given)

/-- The highlighting puts the summary at the end of the first line, and then either stops,
with no element selected, or locates the selected elements as a batch and adds their
segments. -/
theorem highlightElements_cases {host : Host} {tensor : NdArray} {h : HighlightOptions}
    {formatted out : RichTextLines} (done : highlightElements host tensor h formatted = .ok out) :
    ∃ line rest summary, formatted.lines = line :: rest ∧
      (out = { formatted with lines := (line ++ " " ++ summary) :: rest } ∨
        ∃ areOmitted rows starts ends,
          locateTensorElement { formatted with lines := (line ++ " " ++ summary) :: rest }
              (.batch ((argwhere (h.criterion tensor)).map (·.map Int.ofNat)))
            = .ok (.batch areOmitted rows starts ends) ∧
          out = { { formatted with lines := (line ++ " " ++ summary) :: rest } with
            fontAttrSegs := (zipLocated areOmitted rows starts ends).foldl
              (addHighlight h.fontAttr) formatted.fontAttrSegs }) := by
  unfold highlightElements at done
  dsimp only at done
  split at done
  · cases done
  · cases lines : formatted.lines with
    | nil => simp [lines] at done
    | cons line rest =>
      simp only [lines, bind_eq_ok, pure_eq_ok, ok_bind] at done
      refine ⟨line, rest, highlightSummary host h.description (argwhere (h.criterion tensor)).length
        tensor.size, rfl, ?_⟩
      split at done
      · exact .inl (Except.ok.inj done).symm
      · simp only [bind_eq_ok] at done
        obtain ⟨result, found, done⟩ := done
        cases result with
        | batch areOmitted rows starts ends =>
          exact .inr ⟨areOmitted, rows, starts, ends, found, (Except.ok.inj done).symm⟩
        | single => cases done

/-- The highlighting keeps the count of lines and the annotations. -/
theorem highlightElements_frame {host : Host} {tensor : NdArray} {h : HighlightOptions}
    {formatted out : RichTextLines} (done : highlightElements host tensor h formatted = .ok out) :
    out.lines.length = formatted.lines.length ∧ out.annotations = formatted.annotations := by
  obtain ⟨line, rest, summary, lines, rfl | ⟨_, _, _, _, -, rfl⟩⟩ := highlightElements_cases done <;>
    simp [lines]

/-- numpy's annotated text of the array has its annotations on its lines. -/
theorem formatArray_wellAnnotated {host : Host} {tensor : NdArray} {args : FormatTensorArgs}
    {formatted out : RichTextLines} (wa : formatted.WellAnnotated)
    (h : formatArray host tensor args formatted = .ok out) : out.WellAnnotated := by
  have highlighted : ∀ b : RichTextLines, b.WellAnnotated →
      (match args.highlightOptions with
        | none => Except.ok (formatted.extend b)
        | some h => highlightElements host tensor h (formatted.extend b)) = .ok out →
      out.WellAnnotated := by
    intro b array h
    have extended := extend_wellAnnotated wa array
    split at h
    · obtain rfl := Except.ok.inj h
      exact extended
    · obtain ⟨length, annotations⟩ := highlightElements_frame h
      intro k member
      rw [length]
      exact extended k (annotations ▸ member)
  unfold formatArray at h
  dsimp only at h
  split at h
  · simp only [pure_eq_ok, ok_bind] at h
    exact highlighted _ (ofLines_wellAnnotated _) h
  · simp only [bind_eq_ok, pure_eq_ok, ok_bind] at h
    obtain ⟨⟨metadata, annotations⟩, annotated, h⟩ := h
    refine highlighted _ (fun k member => ?_) h
    obtain ⟨-, j, raw, found, -, rfl⟩ := (annotateNdarrayLines_keys annotated k).mp member
    simpa using (List.getElem?_eq_some_iff.mp found).1

/-- Every line annotation of the buffer `format_tensor` returns is on one of its lines,
given an auxiliary message whose annotations are on its lines: the array's annotations move
down with its lines past the header, and the highlighting moves none. -/
theorem formatTensor_wellAnnotated {printer : Printer} {args : FormatTensorArgs}
    {printState : PrintState} {out : RichTextLines}
    (aux : ∀ m, args.auxiliaryMessage = some m → m.WellAnnotated)
    (h : (formatTensor printer args printState).1 = .ok out) : out.WellAnnotated := by
  obtain ⟨lines, call, -⟩ | ⟨e, call⟩ | ⟨tensor, formatted, installed, -, header, -, call⟩ :=
    formatTensor_cases printer args printState <;> rw [call] at h
  · obtain rfl := Except.ok.inj h
    exact ofLines_wellAnnotated _
  · cases h
  · exact formatArray_wellAnnotated (formatHeader_wellAnnotated aux header) h

/-- The buffer of `np.array([[10, 11], [12, 13]])` labelled `t`, with every positive
element highlighted: both array lines carry two bold segments and an annotation. -/
def highlightedTenToThirteen : RichTextLines :=
  ⟨["Tensor \"t\": Highlighted: 4 of 4 element(s) (%)", "", "array([[10, 11],",
      "       [12, 13]])"],
    ⟨[(3, [⟨8, 10, "bold"⟩, ⟨12, 14, "bold"⟩]), (2, [⟨8, 10, "bold"⟩, ⟨12, 14, "bold"⟩]),
      (0, [⟨8, 7, "white"⟩, ⟨8, 9, "yellow"⟩])]⟩,
    ⟨[(3, .begin [1, 0]), (2, .begin [0, 0])]⟩, some ⟨⟨.integer, "int64"⟩, [2, 2]⟩⟩

theorem formatTensor_wellAnnotated_highlighted :
    (formatTensor (.printing "array([[10, 11],\n       [12, 13]])")
      { FormatTensorArgs.ofTensor (.ndarray tenToThirteen) (some "t") with
        highlightOptions := some positiveCriterion } .empty).1 = .ok highlightedTenToThirteen ∧
      highlightedTenToThirteen.WellAnnotated :=
  have formatted : (formatTensor (.printing "array([[10, 11],\n       [12, 13]])")
      { FormatTensorArgs.ofTensor (.ndarray tenToThirteen) (some "t") with
        highlightOptions := some positiveCriterion } .empty).1 = .ok highlightedTenToThirteen := by
    decide
  ⟨formatted, formatTensor_wellAnnotated (fun _ given => by cases given) formatted⟩

end TvmDebugger.TensorData
