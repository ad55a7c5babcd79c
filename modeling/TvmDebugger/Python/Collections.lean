import TvmDebugger.Python.Runtime
import Mathlib.Data.List.Sort
import Mathlib.Data.String.Basic

/-! The parts of Python that ui_config.py adds: the order `sorted` puts strings in, and
`collections.OrderedDict`, which keeps each key where it was first written.
-/

namespace TvmDebugger.Python

-----------------------------------------------------------------------------------------
-- Strings in order
-----------------------------------------------------------------------------------------

/-- Python's `a <= b` on strings is Mathlib's order on `String`: the first differing code point
decides, and a prefix is the lesser. Mathlib decides it by well-founded recursion over
string iterators, which evaluation cannot run; this decides it on the character lists. -/
instance instDecidableLeString : DecidableRel (α := String) (· ≤ ·) :=
  fun _ _ => decidable_of_iff' _ String.le_iff_toList_le

/-- `sorted(keys)`. Python's sort is stable, and on distinct keys every sort gives the one
increasing order, which insertion sort computes. -/
def sorted (keys : List String) : List String := keys.insertionSort (· ≤ ·)

-----------------------------------------------------------------------------------------
-- OrderedDict
-----------------------------------------------------------------------------------------

/-- A `collections.OrderedDict` with string keys: its entries in the order their keys were
first written, each key once. -/
@[ext] structure OrderedDict (α : Type) where
  entries : List (String × α)
  nodup : (entries.map (·.1)).Nodup

namespace OrderedDict

variable {α : Type}

instance instDecidableEqOrderedDict [DecidableEq α] : DecidableEq (OrderedDict α) :=
  fun a b => decidable_of_iff (a.entries = b.entries) OrderedDict.ext_iff.symm

/-- `OrderedDict()`. -/
def empty : OrderedDict α := ⟨[], List.nodup_nil⟩

/-- The keys, in order. -/
def keys (d : OrderedDict α) : List String := d.entries.map (·.1)

/-- `d[k]`, with a missing key as none. -/
def get? (d : OrderedDict α) (k : String) : Option α :=
  (d.entries.find? (·.1 = k)).map (·.2)

/-- An entry after `d[k] = v`: the key's entry takes the value, the others stay. -/
def write (k : String) (v : α) (e : String × α) : String × α :=
  (e.1, if e.1 = k then v else e.2)

theorem map_fst_write (k : String) (v : α) (es : List (String × α)) :
    (es.map (write k v)).map (·.1) = es.map (·.1) := by
  rw [List.map_map]; rfl

/-- `d[k] = v`: a key already present keeps its place and takes the new value, a new key
goes last. -/
def setItem (d : OrderedDict α) (k : String) (v : α) : OrderedDict α :=
  if present : k ∈ d.keys then ⟨d.entries.map (write k v), (map_fst_write k v _).symm ▸ d.nodup⟩
  else ⟨d.entries ++ [(k, v)], by
    rw [List.map_append]
    exact d.nodup.append (List.nodup_singleton k) (List.disjoint_singleton.mpr present)⟩

/-- `d[k] = v` for each pair in turn, as `OrderedDict(pairs)` and a loop over pairs do. -/
def assign (d : OrderedDict α) (pairs : List (String × α)) : OrderedDict α :=
  pairs.foldl (fun d p => d.setItem p.1 p.2) d

@[simp] theorem keys_empty : (empty : OrderedDict α).keys = [] := rfl

@[simp] theorem get?_empty (k : String) : (empty : OrderedDict α).get? k = none := rfl

@[simp] theorem assign_nil (d : OrderedDict α) : d.assign [] = d := rfl

@[simp] theorem assign_cons (d : OrderedDict α) (p : String × α) (ps : List (String × α)) :
    d.assign (p :: ps) = (d.setItem p.1 p.2).assign ps := rfl

theorem nodup_keys (d : OrderedDict α) : d.keys.Nodup := d.nodup

/-- A write keeps the keys, and a new key goes last. -/
theorem keys_setItem (d : OrderedDict α) (k : String) (v : α) :
    (d.setItem k v).keys = if k ∈ d.keys then d.keys else d.keys ++ [k] := by
  unfold setItem keys
  split
  · exact map_fst_write k v _
  · simp

/-- No entry has a key that is not among the keys. -/
theorem find?_key_none {es : List (String × α)} {k : String} (absent : k ∉ es.map (·.1)) :
    es.find? (·.1 = k) = none :=
  List.find?_eq_none.mpr fun _ member hit =>
    absent ((of_decide_eq_true hit) ▸ List.mem_map_of_mem (·.1) member)

/-- The entry a lookup finds has the key looked up. -/
theorem find?_key_some {es : List (String × α)} {k : String} {e : String × α}
    (h : es.find? (·.1 = k) = some e) : e.1 = k := by
  simpa using List.find?_some h

/-- A key is missing exactly when it has no value. -/
theorem get?_eq_none_iff (d : OrderedDict α) (k : String) : d.get? k = none ↔ k ∉ d.keys := by
  refine ⟨fun missing present => ?_, fun absent => by simp [get?, find?_key_none absent]⟩
  obtain ⟨e, member, rfl⟩ := List.mem_map.mp present
  exact List.find?_eq_none.mp (Option.map_eq_none'.mp missing) e member (by simp)

/-- A write gives its key the value and leaves every other key's value: in place, the entry
found keeps its key; at the end, only the written key finds the new entry. -/
theorem get?_setItem (d : OrderedDict α) (k k' : String) (v : α) :
    (d.setItem k v).get? k' = if k = k' then some v else d.get? k' := by
  unfold setItem get?
  split
  · next present =>
    rw [List.find?_map, Option.map_map]
    change Option.map (fun e => (write k v e).2) (d.entries.find? (·.1 = k')) = _
    cases found : d.entries.find? (·.1 = k') with
    | none =>
      have differ : k ≠ k' := by
        rintro rfl
        obtain ⟨e, member, rfl⟩ := List.mem_map.mp present
        exact List.find?_eq_none.mp found e member (by simp)
      simp [differ]
    | some e =>
      obtain rfl := find?_key_some found
      by_cases same : k = e.1 <;> simp [write, same, eq_comm]
  · next absent =>
    by_cases same : k = k'
    · subst same
      simp [List.find?_append, find?_key_none absent]
    · simp [List.find?_append, same]

/-- Writing pairs with distinct keys keeps the keys there were and adds the new ones in the
order written, by induction on the pairs. -/
theorem keys_assign (d : OrderedDict α) {pairs : List (String × α)}
    (nodup : (pairs.map (·.1)).Nodup) :
    (d.assign pairs).keys = d.keys ++ (pairs.map (·.1)).filter (· ∉ d.keys) := by
  induction pairs generalizing d with
  | nil => simp
  | cons p ps ih =>
    obtain ⟨fresh, nodup⟩ := List.nodup_cons.mp nodup
    rw [assign_cons, ih _ nodup, keys_setItem]
    split
    · next present => simp [present]
    · next absent =>
      have others : (ps.map (·.1)).filter (· ∉ d.keys ++ [p.1])
          = (ps.map (·.1)).filter (· ∉ d.keys) :=
        List.filter_congr fun k member => by
          have : k ≠ p.1 := by rintro rfl; exact fresh member
          simp [this]
      rw [others]
      simp [absent]

end OrderedDict

end TvmDebugger.Python
