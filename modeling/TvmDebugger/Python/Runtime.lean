import Mathlib.Data.List.Basic

/-! The parts of Python that tensor_data.py and ui_config.py lean on: their exceptions,
subscripts with negative indices, dictionaries, and the str methods the formatter calls, on
character lists.
-/

namespace TvmDebugger.Python

/-- The exceptions the modelled code raises, with the message where the code writes one. -/
inductive PyError
  | valueError (message : String)
  | attributeError (message : String)
  | indexError
  /-- A KeyError of a subscript, whose text the code never reads. -/
  | keyError
  /-- A TypeError of Python itself, whose text the code never reads. -/
  | typeError
  | zeroDivisionError
  | nameError
  /-- The RecursionError of a parser that nests deeper than the interpreter's limit. -/
  | recursionError
  /-- A KeyError the code raises with a message of its own. -/
  | keyErrorWith (message : String)
  /-- A TypeError the code raises with a message of its own. -/
  | typeErrorWith (message : String)
  deriving DecidableEq, Repr

/-- Results of the modelled code compare by value, so that runs on fixed inputs can be
checked by evaluation. -/
instance instDecidableEqExcept {ε α : Type} [DecidableEq ε] [DecidableEq α] :
    DecidableEq (Except ε α)
  | .ok a, .ok b =>
      if h : a = b then isTrue (h ▸ rfl) else isFalse (fun e => h (by injection e))
  | .error a, .error b =>
      if h : a = b then isTrue (h ▸ rfl) else isFalse (fun e => h (by injection e))
  | .ok _, .error _ => isFalse (fun e => by injection e)
  | .error _, .ok _ => isFalse (fun e => by injection e)

@[simp] theorem ok_bind {ε α β : Type} (a : α) (f : α → Except ε β) :
    (Except.ok a >>= f) = f a := rfl

@[simp] theorem error_bind {ε α β : Type} (e : ε) (f : α → Except ε β) :
    (Except.error e >>= f) = .error e := rfl

@[simp] theorem pure_eq_ok {ε α : Type} (a : α) : (pure a : Except ε α) = .ok a := rfl

@[simp] theorem throw_eq_error {ε α : Type} (e : ε) : (throw e : Except ε α) = .error e := rfl

@[simp] theorem map_ok {ε α β : Type} (f : α → β) (a : α) :
    Except.map f (.ok a : Except ε α) = .ok (f a) := rfl

@[simp] theorem map_error {ε α β : Type} (f : α → β) (e : ε) :
    Except.map f (.error e : Except ε α) = .error e := rfl

/-- A bound computation that succeeds ran its first step successfully. -/
theorem bind_eq_ok {ε α β : Type} {x : Except ε α} {f : α → Except ε β} {b : β} :
    x >>= f = .ok b ↔ ∃ a, x = .ok a ∧ f a = .ok b := by
  cases x <;> simp

-----------------------------------------------------------------------------------------
-- Subscripts
-----------------------------------------------------------------------------------------

/-- The position that subscript `j` names in a sequence of length `n`: a negative subscript
counts from the end, and one outside `-n .. n-1` is an IndexError. -/
def resolveIndex (n : Nat) (j : Int) : Option Nat :=
  if 0 ≤ j ∧ j < n then some j.toNat
  else if -(n : Int) ≤ j ∧ j < 0 then some (j + n).toNat
  else none

/-- A resolved subscript lies inside the sequence. -/
theorem resolveIndex_lt {n k : Nat} {j : Int} (h : resolveIndex n j = some k) : k < n := by
  unfold resolveIndex at h
  split_ifs at h <;> simp only [Option.some.injEq] at h <;> omega

/-- `xs[j]` on a list or a tuple. -/
def getItem {α : Type} (xs : List α) (j : Int) : Except PyError α :=
  match (resolveIndex xs.length j).bind (xs[·]?) with
  | some x => .ok x
  | none => .error .indexError

/-- `xs[j] = v` on a list. -/
def setItem {α : Type} (xs : List α) (j : Int) (v : α) : Except PyError (List α) :=
  match resolveIndex xs.length j with
  | some k => .ok (xs.set k v)
  | none => .error .indexError

/-- A list assignment keeps the list's length, by the two outcomes of the subscript. -/
theorem setItem_length {α : Type} {xs ys : List α} {j : Int} {v : α}
    (h : setItem xs j v = .ok ys) : ys.length = xs.length := by
  unfold setItem at h
  split at h <;> simp only [Except.ok.injEq, reduceCtorEq] at h
  rw [← h, List.length_set]

-----------------------------------------------------------------------------------------
-- Dictionaries
-----------------------------------------------------------------------------------------

/-- A Python dictionary as its entries, the most recently written first. Writing a key
drops its older entry, so each key has one entry. -/
structure Dict (κ α : Type) where
  entries : List (κ × α)
  deriving DecidableEq, Repr

namespace Dict

variable {κ α : Type}

/-- The empty dictionary `{}`. -/
def empty : Dict κ α := ⟨[]⟩

/-- The keys of the dictionary. -/
def keys (d : Dict κ α) : List κ := d.entries.map (·.1)

@[simp] theorem keys_empty : (empty : Dict κ α).keys = [] := rfl

variable [DecidableEq κ]

/-- `d[k]`, with a missing key as none (KeyError where the code subscripts). -/
def get? (d : Dict κ α) (k : κ) : Option α :=
  (d.entries.find? (·.1 = k)).map (·.2)

/-- `d[k] = v`. -/
def insert (d : Dict κ α) (k : κ) (v : α) : Dict κ α :=
  ⟨(k, v) :: d.entries.filter (·.1 ≠ k)⟩

@[simp] theorem get?_empty (k : κ) : (empty : Dict κ α).get? k = none := rfl

/-- A written key reads back its value, by the head entry of the insertion. -/
@[simp] theorem get?_insert_self (d : Dict κ α) (k : κ) (v : α) :
    (d.insert k v).get? k = some v := by
  simp [insert, get?]

/-- A lookup reads the first entry of the key. -/
theorem get?_cons (e : κ × α) (es : List (κ × α)) (k : κ) :
    (⟨e :: es⟩ : Dict κ α).get? k = if e.1 = k then some e.2 else (⟨es⟩ : Dict κ α).get? k := by
  by_cases h : e.1 = k <;> simp [get?, h]

/-- A write leaves every other key's value as it was. -/
theorem get?_insert_ne (d : Dict κ α) {k k' : κ} (v : α) (h : k ≠ k') :
    (d.insert k v).get? k' = d.get? k' := by
  have kept : ∀ e : κ × α, (!decide (e.1 = k) && decide (e.1 = k')) = decide (e.1 = k') := by
    intro e; by_cases he : e.1 = k' <;> simp [he, h.symm]
  simp [insert, get?, h, List.find?_filter, kept]

/-- The keys after a write are the written key and older keys. -/
theorem mem_keys_insert {d : Dict κ α} {k k' : κ} {v : α} (h : k' ∈ (d.insert k v).keys) :
    k' = k ∨ k' ∈ d.keys := by
  simp only [keys, insert, List.map_cons, List.mem_cons, List.mem_map, List.mem_filter] at h
  rcases h with h | ⟨e, ⟨member, -⟩, rfl⟩
  · exact .inl h
  · exact .inr (List.mem_map_of_mem _ member)

/-- The keys after a write are exactly the written key and the older keys. -/
theorem mem_keys_insert_iff {d : Dict κ α} {k k' : κ} {v : α} :
    k' ∈ (d.insert k v).keys ↔ k' = k ∨ k' ∈ d.keys := by
  refine ⟨mem_keys_insert, ?_⟩
  rintro (rfl | member)
  · exact List.mem_cons_self _ _
  · by_cases same : k' = k
    · subst same; exact List.mem_cons_self _ _
    · obtain ⟨e, inside, rfl⟩ := List.mem_map.mp member
      exact List.mem_cons_of_mem _
        (List.mem_map_of_mem _ (List.mem_filter.mpr ⟨inside, by simpa using same⟩))

/-- The entries after a write are the written one and older ones. -/
theorem mem_entries_insert {d : Dict κ α} {k : κ} {v : α} {e : κ × α}
    (h : e ∈ (d.insert k v).entries) : e = (k, v) ∨ e ∈ d.entries := by
  simp only [insert, List.mem_cons, List.mem_filter] at h
  exact h.imp_right And.left

/-- `d.update(other)`: every key of `other` takes its value there, the others keep theirs. -/
def update (d other : Dict κ α) : Dict κ α :=
  other.entries.foldr (fun e d => d.insert e.1 e.2) d

/-- After `d.update(other)` a key reads its value in `other`, else its value in `d`. -/
theorem get?_update (d other : Dict κ α) (k : κ) :
    (d.update other).get? k = (other.get? k).or (d.get? k) := by
  obtain ⟨entries⟩ := other
  induction entries with
  | nil => rfl
  | cons e es ih =>
    show ((d.update ⟨es⟩).insert e.1 e.2).get? k = _
    by_cases written : e.1 = k
    · simp [written, get?_cons]
    · simp [get?_cons, written, get?_insert_ne _ _ written, ih]

/-- A key with a value is a key of the dictionary. -/
theorem mem_keys_of_get? {d : Dict κ α} {k : κ} {v : α} (h : d.get? k = some v) :
    k ∈ d.keys := by
  simp only [get?, Option.map_eq_some'] at h
  obtain ⟨e, found, -⟩ := h
  have hk : e.1 = k := by simpa using List.find?_some found
  exact hk ▸ List.mem_map_of_mem _ (List.mem_of_find?_eq_some found)

end Dict

-----------------------------------------------------------------------------------------
-- str methods, on the characters of the string
-----------------------------------------------------------------------------------------

/-- `c.isspace()`: the characters that `\s` matches and `str.strip()` removes. -/
def isSpace (c : Char) : Bool :=
  let n := c.toNat
  (9 ≤ n && n ≤ 13) || (28 ≤ n && n ≤ 32) || n == 0x85 || n == 0xA0 || n == 0x1680 ||
    (0x2000 ≤ n && n ≤ 0x200A) || n == 0x2028 || n == 0x2029 || n == 0x202F ||
    n == 0x205F || n == 0x3000

/-- Python's `a < b` on lists of ints: the first place they differ decides, and a proper
prefix is the lesser. -/
def listLt : List Int → List Int → Bool
  | [], [] => false
  | [], _ :: _ => true
  | _ :: _, [] => false
  | a :: as, b :: bs => decide (a < b) || (decide (a = b) && listLt as bs)

/-- `s.strip()`. -/
def strip (s : List Char) : List Char :=
  ((s.dropWhile isSpace).reverse.dropWhile isSpace).reverse

/-- `s.rfind(c)`: the position of the last `c`, or -1. -/
def rfind (s : List Char) (c : Char) : Int :=
  s.length - 1 - s.reverse.indexOf c

/-- The position of the first occurrence of `sub` in `s` at or after position `k`,
as `s.find(sub)` computes it; none where Python returns -1. -/
def findFrom (sub : List Char) : List Char → Nat → Option Nat
  | [], k => if sub = [] then some k else none
  | c :: cs, k => if sub.isPrefixOf (c :: cs) then some k else findFrom sub cs (k + 1)

/-- `s.find(sub)`, with -1 as none. -/
def find (s sub : List Char) : Option Nat := findFrom sub s 0

/-- `s.isdigit()` on ASCII digits: non-empty and all of `0` to `9`. Python also takes the
other characters whose Unicode numeric type is Digit or Decimal, such as `²` or `٣`; a label
suffix made of those is read here as a debug-op name. -/
def isDigits (s : List Char) : Bool := !s.isEmpty && s.all Char.isDigit

/-- `s.split(c)` for a one-character separator: the pieces between separators. -/
def split (c : Char) : List Char → List (List Char)
  | [] => [[]]
  | x :: xs =>
      match split c xs with
      | [] => [[x]]
      | piece :: pieces => if x = c then [] :: piece :: pieces else (x :: piece) :: pieces

/-- `str(n)` and `%d` for an integer. -/
def intStr (n : Int) : List Char := (toString n).toList

/-- One step of `Nat.toDigitsCore`: the last digit goes in front, then the other digits. -/
theorem toDigitsCore_succ (base fuel n : Nat) (ds : List Char) :
    Nat.toDigitsCore base (fuel + 1) n ds =
      if n / base = 0 then Nat.digitChar (n % base) :: ds
      else Nat.toDigitsCore base fuel (n / base) (Nat.digitChar (n % base) :: ds) := rfl

/-- The characters `Nat.toDigitsCore` adds are digit characters of the base, by induction on
the fuel. -/
theorem mem_toDigitsCore {base fuel n : Nat} {ds : List Char} {c : Char} (base_pos : 0 < base)
    (h : c ∈ Nat.toDigitsCore base fuel n ds) : c ∈ ds ∨ ∃ d < base, c = Nat.digitChar d := by
  induction fuel generalizing n ds with
  | zero => exact .inl h
  | succ fuel ih =>
      rw [toDigitsCore_succ] at h
      split at h
      · exact (List.mem_cons.mp h).symm.imp_right (⟨_, Nat.mod_lt n base_pos, ·⟩)
      · rcases ih h with h | h
        · exact (List.mem_cons.mp h).symm.imp_right (⟨_, Nat.mod_lt n base_pos, ·⟩)
        · exact .inr h

/-- `Nat.toDigitsCore` keeps the characters it started with, by induction on the fuel. -/
theorem toDigitsCore_ne_nil {base fuel n : Nat} {ds : List Char} (h : ds ≠ []) :
    Nat.toDigitsCore base fuel n ds ≠ [] := by
  induction fuel generalizing n ds with
  | zero => exact h
  | succ fuel ih =>
      rw [toDigitsCore_succ]
      split
      · exact List.cons_ne_nil _ _
      · exact ih (List.cons_ne_nil _ _)

/-- `str(n)` of a natural number is a non-empty string of digit characters. -/
theorem natStr_digits (n : Nat) :
    (toString n).toList ≠ [] ∧ ∀ c ∈ (toString n).toList, ∃ d < 10, c = Nat.digitChar d := by
  have digits : (toString n).toList = Nat.toDigitsCore 10 (n + 1) n [] := rfl
  refine ⟨?_, fun c member => ?_⟩
  · rw [digits, toDigitsCore_succ]
    split
    · exact List.cons_ne_nil _ _
    · exact toDigitsCore_ne_nil (List.cons_ne_nil _ _)
  · rw [digits] at member
    exact (mem_toDigitsCore (by decide) member).resolve_left (List.not_mem_nil c)

end TvmDebugger.Python
