import TvmDebugger.Python.Runtime

/-! The fragment of Python's `re` that `_NUMBER_REGEX` uses, with the backtracking order
made explicit, and `re.finditer` over it: its matches start left to right, and each lies
inside the text, a token of `_NUMBER_REGEX` with its delimiter being three characters or
more.
-/

namespace TvmDebugger.Python

/-- Regular expressions built from character classes, literals, concatenation,
alternation, and the greedy quantifiers `?` and `+` on a character class. -/
inductive Pattern
  | chars (p : Char → Bool)
  | literal (s : List Char)
  | seq (a b : Pattern)
  | alt (a b : Pattern)
  | optional (p : Char → Bool)
  | many1 (p : Char → Bool)

/-- The match of a character class at the head of `s`: one character or none. -/
def classEnds (p : Char → Bool) : List Char → List Nat
  | c :: _ => if p c then [1] else []
  | [] => []

/-- The lengths of the runs of `p` at the head of `s`, longest first: what a greedy
`[..]+` tries, giving back one character on each backtrack. -/
def runs (p : Char → Bool) : List Char → List Nat
  | [] => []
  | c :: cs => if p c then (runs p cs).map (· + 1) ++ [1] else []

/-- The lengths of the matches of a pattern at the head of `s`, in the order in which
Python's backtracking matcher tries them. -/
def Pattern.ends : Pattern → List Char → List Nat
  | .chars p, s => classEnds p s
  | .literal t, s => if t.isPrefixOf s then [t.length] else []
  | .seq a b, s => (a.ends s).flatMap (fun n => (b.ends (s.drop n)).map (n + ·))
  | .alt a b, s => a.ends s ++ b.ends s
  | .optional p, s => classEnds p s ++ [0]
  | .many1 p, s => runs p s

/-- `pattern.match(s)`: the length of the first match the backtracking order reaches. -/
def Pattern.matchLength (pat : Pattern) (s : List Char) : Option Nat := (pat.ends s).head?

/-- `re.finditer(pattern, s)` from position `pos`, with `skip` characters still inside the
previous match: the spans `(m.start(), m.end())` of the matches, left to right. -/
def Pattern.finditerFrom (pat : Pattern) : Nat → Nat → List Char → List (Nat × Nat)
  | _, _, [] => []
  | pos, skip + 1, _ :: cs => pat.finditerFrom (pos + 1) skip cs
  | pos, 0, c :: cs =>
      match pat.matchLength (c :: cs) with
      | some n => (pos, pos + n) :: pat.finditerFrom (pos + 1) (n - 1) cs
      | none => pat.finditerFrom (pos + 1) 0 cs

/-- `re.finditer(pattern, s)`. -/
def Pattern.finditer (pat : Pattern) (s : List Char) : List (Nat × Nat) :=
  pat.finditerFrom 0 0 s

/-- The matches found from position `pos` start there or later and strictly left to right,
by induction on the text. -/
theorem finditerFrom_starts (pat : Pattern) (pos skip : Nat) (s : List Char) :
    (∀ m ∈ pat.finditerFrom pos skip s, pos ≤ m.1) ∧
      (pat.finditerFrom pos skip s).Pairwise (fun a b => a.1 < b.1) := by
  induction s generalizing pos skip with
  | nil => simp [Pattern.finditerFrom]
  | cons c cs ih =>
      have shift := fun skip => (ih (pos + 1) skip).imp_left
        (fun later m member => Nat.le_of_succ_le (later m member))
      cases skip with
      | succ k => exact shift k
      | zero =>
          simp only [Pattern.finditerFrom]
          split
          · obtain ⟨later, ordered⟩ := ih (pos + 1) _
            exact ⟨List.forall_mem_cons.mpr ⟨le_refl _, (shift _).1⟩, .cons later ordered⟩
          · exact shift 0

/-- The matches of `re.finditer` start strictly left to right. -/
theorem finditer_ordered (pat : Pattern) (s : List Char) :
    (pat.finditer s).Pairwise (fun a b => a.1 < b.1) :=
  (finditerFrom_starts pat 0 0 s).2

@[simp] theorem finditer_nil (pat : Pattern) : pat.finditer [] = [] := rfl

/-- The characters of `[-+0-9eE\.]`. -/
def numberChar (c : Char) : Bool :=
  c = '-' || c = '+' || c.isDigit || c = 'e' || c = 'E' || c = '.'

/-- `_NUMBER_REGEX = re.compile(r"[-+]?([0-9][-+0-9eE\.]+|nan|inf)(\s|,|\])")`. -/
def numberRegex : Pattern :=
  .seq (.optional (fun c => c = '-' || c = '+'))
    (.seq
      (.alt (.seq (.chars Char.isDigit) (.many1 numberChar))
        (.alt (.literal "nan".toList) (.literal "inf".toList)))
      (.alt (.chars isSpace) (.alt (.chars (· = ',')) (.chars (· = ']')))))

-----------------------------------------------------------------------------------------
-- Where the matches are
-----------------------------------------------------------------------------------------

/-- The shortest match a pattern can have. -/
def Pattern.minLength : Pattern → Nat
  | .chars _ => 1
  | .literal t => t.length
  | .seq a b => a.minLength + b.minLength
  | .alt a b => min a.minLength b.minLength
  | .optional _ => 0
  | .many1 _ => 1

/-- A run has one character or more, all of them in the text, by induction on the text. -/
theorem runs_bounds (p : Char → Bool) :
    ∀ (s : List Char), ∀ n ∈ runs p s, 1 ≤ n ∧ n ≤ s.length
  | [] => by simp [runs]
  | c :: cs => by
      intro n member
      simp only [runs] at member
      split at member
      · rcases List.mem_append.mp member with member | member
        · obtain ⟨k, inside, rfl⟩ := List.mem_map.mp member
          have := runs_bounds p cs k inside
          simp only [List.length_cons]
          omega
        · simp [List.mem_singleton.mp member]
      · simp at member

/-- A character class matches exactly one character of the text. -/
theorem classEnds_bounds (p : Char → Bool) (s : List Char) :
    ∀ n ∈ classEnds p s, n = 1 ∧ n ≤ s.length := by
  intro n member
  cases s with
  | nil => simp [classEnds] at member
  | cons c cs =>
    simp only [classEnds] at member
    split at member <;> simp_all

/-- Every match of a pattern at the head of `s` is at least as long as the pattern's
shortest match and fits in `s`, by induction on the pattern. -/
theorem Pattern.ends_bounds : ∀ (pat : Pattern) (s : List Char), ∀ n ∈ pat.ends s,
    pat.minLength ≤ n ∧ n ≤ s.length
  | .chars p, s, n, member => by
      have := classEnds_bounds p s n member
      simp only [Pattern.minLength]
      omega
  | .literal t, s, n, member => by
      simp only [Pattern.ends] at member
      split at member
      · next pre =>
        obtain rfl := List.mem_singleton.mp member
        exact ⟨le_refl _, (List.isPrefixOf_iff_prefix.mp pre).length_le⟩
      · simp at member
  | .seq a b, s, n, member => by
      simp only [Pattern.ends, List.mem_flatMap, List.mem_map] at member
      obtain ⟨m, first, k, second, rfl⟩ := member
      have := Pattern.ends_bounds a s m first
      have := Pattern.ends_bounds b (s.drop m) k second
      simp only [Pattern.minLength, List.length_drop] at this ⊢
      omega
  | .alt a b, s, n, member => by
      simp only [Pattern.ends, List.mem_append] at member
      simp only [Pattern.minLength]
      rcases member with member | member
      · have := Pattern.ends_bounds a s n member
        omega
      · have := Pattern.ends_bounds b s n member
        omega
  | .optional p, s, n, member => by
      simp only [Pattern.ends, List.mem_append, List.mem_singleton] at member
      rcases member with member | rfl
      · exact ⟨Nat.zero_le _, (classEnds_bounds p s n member).2⟩
      · exact ⟨le_refl _, Nat.zero_le _⟩
  | .many1 p, s, n, member => runs_bounds p s n member

/-- Each match found from position `pos` is a match of the pattern at the head of the
text after some `k` characters, spanning `pos + k` to `pos + k + n`, by induction on the
text. -/
theorem finditerFrom_spans (pat : Pattern) (pos skip : Nat) (s : List Char) :
    ∀ m ∈ pat.finditerFrom pos skip s,
      ∃ k n, m.1 = pos + k ∧ m.2 = pos + k + n ∧ n ∈ pat.ends (s.drop k) := by
  induction s generalizing pos skip with
  | nil => simp [Pattern.finditerFrom]
  | cons c cs ih =>
      have shift : ∀ skip, ∀ m ∈ pat.finditerFrom (pos + 1) skip cs,
          ∃ k n, m.1 = pos + k ∧ m.2 = pos + k + n ∧ n ∈ pat.ends ((c :: cs).drop k) := by
        intro skip m member
        obtain ⟨k, n, first, last, found⟩ := ih (pos + 1) skip m member
        exact ⟨k + 1, n, by omega, by omega, found⟩
      cases skip with
      | succ skip => exact shift skip
      | zero =>
          simp only [Pattern.finditerFrom]
          split
          · next n found =>
            refine List.forall_mem_cons.mpr ⟨⟨0, n, rfl, rfl, ?_⟩, shift _⟩
            exact List.mem_of_mem_head? found
          · exact shift 0

/-- The spans of the number tokens: at least three characters, the delimiter included,
inside the line. -/
theorem numberRegex_finditer_span {s : List Char} {m : Nat × Nat}
    (h : m ∈ numberRegex.finditer s) :
    m.1 + 3 ≤ m.2 ∧ m.2 ≤ s.length := by
  obtain ⟨k, n, first, last, found⟩ := finditerFrom_spans numberRegex 0 0 s m h
  have := numberRegex.ends_bounds _ n found
  simp only [List.length_drop] at this
  have : numberRegex.minLength = 3 := rfl
  omega

end TvmDebugger.Python
