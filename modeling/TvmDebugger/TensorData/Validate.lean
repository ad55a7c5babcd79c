import Mathlib.Data.List.Chain
import Mathlib.Data.List.Forall2
import TvmDebugger.TensorData.Locate

/-! `_validate_indices_list` accepts exactly the batches a tensor can be indexed with: each
coordinate has one index per dimension, each index in range, and no coordinate is below the
one before it in Python's list order, so a coordinate may repeat. Every error it raises is
a `ValueError` with one of its four messages.
-/

namespace TvmDebugger.TensorData

open TvmDebugger.Python

/-- A coordinate of a tensor of shape `dims`: one index per dimension, each in range. -/
def InBounds (dims : List Nat) (ind : List Int) : Prop :=
  List.Forall₂ (fun (i : Int) (d : Nat) => 0 ≤ i ∧ i < d) ind dims

/-- `ind` is not below `prev` in Python's order on lists. -/
def NotBelow (prev ind : List Int) : Prop := listLt ind prev = false

/-- The bounds loop accepts exactly the coordinates in range, for one index per dimension,
by induction on them. -/
theorem checkBounds_ok_iff : ∀ (ind : List Int) (dims : List Nat),
    ind.length = dims.length → (checkBounds ind dims = .ok () ↔ InBounds dims ind)
  | [], [], _ => by simp [checkBounds, InBounds]
  | [], _ :: _, same | _ :: _, [], same => by simp at same
  | i :: ind, d :: dims, same => by
      have rest := checkBounds_ok_iff ind dims (by simpa using same)
      simp only [checkBounds, InBounds, List.forall₂_cons] at rest ⊢
      split_ifs with above below
      · simp only [reduceCtorEq, false_iff, not_and]
        rintro ⟨-, lt⟩
        omega
      · simp only [reduceCtorEq, false_iff, not_and]
        rintro ⟨nonneg, -⟩
        omega
      · rw [rest]
        exact ⟨fun tail => ⟨⟨by omega, by omega⟩, tail⟩, And.right⟩

/-- The bounds loop raises one of its two errors. -/
theorem checkBounds_error {ind : List Int} {dims : List Nat} {e : PyError}
    (h : checkBounds ind dims = .error e) :
    e = .valueError "Indices exceed tensor dimensions." ∨
      e = .valueError "Indices contain negative value(s)." := by
  induction ind generalizing dims with
  | nil => simp [checkBounds] at h
  | cons i ind ih =>
      cases dims with
      | nil => simp [checkBounds] at h
      | cons d dims =>
          simp only [checkBounds] at h
          split_ifs at h
          · exact .inl (Except.error.inj h).symm
          · exact .inr (Except.error.inj h).symm
          · exact ih h

/-- One coordinate of the loop: its length, its bounds and its order after the one before,
in that order, then the rest. -/
theorem validateIndicesList_cons_ok (dims : List Nat) (prevInd : Option (List Int))
    (ind : List Int) (rest : List (List Int)) :
    validateIndicesList dims prevInd (ind :: rest) = .ok () ↔
      ind.length = dims.length ∧ checkBounds ind dims = .ok () ∧ descends prevInd ind = false ∧
        validateIndicesList dims (some ind) rest = .ok () := by
  simp only [validateIndicesList]
  by_cases len : ind.length = dims.length
  · cases bounds : checkBounds ind dims with
    | error e => simp [len, bounds]
    | ok u => cases descends prevInd ind <;> simp [len, bounds]
  · simp [len]

/-- For coordinates of one length, the order check of the loop is Python's list order: an
empty previous coordinate has only the empty coordinate after it. -/
theorem descends_some_eq_false {prev ind : List Int} (same : prev.length = ind.length) :
    descends (some prev) ind = false ↔ NotBelow prev ind := by
  cases prev with
  | nil => cases ind with
    | nil => rfl
    | cons _ _ => simp at same
  | cons p prev => simp [descends, NotBelow]

/-- From any previous coordinate of the right length, the loop accepts exactly coordinates
in range, each not below the one before, by induction on them. -/
theorem validateIndicesList_ok_iff_from (dims : List Nat) :
    ∀ (prevInd : Option (List Int)) (indicesList : List (List Int)),
      (∀ prev ∈ prevInd, prev.length = dims.length) →
      (validateIndicesList dims prevInd indicesList = .ok () ↔
        (∀ ind ∈ indicesList, InBounds dims ind) ∧
          (prevInd.toList ++ indicesList).Chain' NotBelow)
  | prevInd, [], _ => by
      cases prevInd <;> simp [validateIndicesList, List.chain'_nil, List.chain'_singleton]
  | prevInd, ind :: rest, len => by
      rw [validateIndicesList_cons_ok]
      by_cases same : ind.length = dims.length
      · have order : descends prevInd ind = false ∧ (ind :: rest).Chain' NotBelow ↔
            (prevInd.toList ++ ind :: rest).Chain' NotBelow := by
          cases prevInd with
          | none => simp [descends]
          | some prev =>
              rw [descends_some_eq_false ((len prev rfl).trans same.symm)]
              simp only [Option.toList_some, List.singleton_append, List.chain'_cons]
        rw [checkBounds_ok_iff ind dims same,
          validateIndicesList_ok_iff_from dims (some ind) rest
            (fun _ found => by cases found; exact same),
          ← order]
        simp only [Option.toList_some, List.singleton_append, List.forall_mem_cons]
        tauto
      · have : ¬ InBounds dims ind := fun bounds => same bounds.length_eq
        simp [same, this]

/-- `_validate_indices_list` accepts exactly the batches of coordinates of the tensor, in
range and each not below the one before: the order is not strict, so a coordinate may
repeat. -/
theorem validateIndicesList_ok_iff (dims : List Nat) (indicesList : List (List Int)) :
    validateIndicesList dims none indicesList = .ok () ↔
      (∀ ind ∈ indicesList, InBounds dims ind) ∧ indicesList.Chain' NotBelow := by
  simpa using validateIndicesList_ok_iff_from dims none indicesList (by simp)

example : validateIndicesList [2, 2] none [[0, 1], [0, 1], [1, 0]] = .ok () := by decide

/-- Every error of the validation is a `ValueError` with one of its four messages, by
induction on the coordinates. -/
theorem validateIndicesList_error {dims : List Nat} {prevInd : Option (List Int)}
    {indicesList : List (List Int)} {e : PyError}
    (h : validateIndicesList dims prevInd indicesList = .error e) :
    (∃ n : Nat, e = .valueError ("Dimensions mismatch: requested: " ++ toString n ++
        "; actual: " ++ toString dims.length)) ∨
      e = .valueError "Indices exceed tensor dimensions." ∨
      e = .valueError "Indices contain negative value(s)." ∨
      e = .valueError "Input indices sets are not in ascending order." := by
  induction indicesList generalizing prevInd with
  | nil => simp [validateIndicesList] at h
  | cons ind rest ih =>
      simp only [validateIndicesList] at h
      by_cases len : ind.length = dims.length
      · cases bounds : checkBounds ind dims with
        | error e' =>
            simp [len, bounds] at h
            subst h
            exact .inr ((checkBounds_error bounds).imp_right .inl)
        | ok u =>
            cases order : descends prevInd ind
            · simp [len, bounds, order] at h
              exact ih h
            · simp [len, bounds, order] at h
              exact .inr (.inr (.inr h.symm))
      · simp [len] at h
        exact .inl ⟨ind.length, h.symm⟩

end TvmDebugger.TensorData
