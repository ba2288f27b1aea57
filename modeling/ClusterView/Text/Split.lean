/-!
# Cutting and joining text

Text is cut at the first or at the last occurrence of a character. `splitFirst?_eq_some_iff` and
`splitLast?_eq_some_iff` say where: the part before the cut, or the part after it, does not hold
the character, and the parts give the text back.
-/

namespace ClusterView.Text

/-! ## Cutting lists of characters -/

/-- The characters before and after the first occurrence of `c`. -/
def cutFirst (c : Char) : List Char → Option (List Char × List Char)
  | [] => none
  | x :: rest => if x = c then some ([], rest) else (cutFirst c rest).map fun p => (x :: p.1, p.2)

/-- The characters before and after the last occurrence of `c`. -/
def cutLast (c : Char) : List Char → Option (List Char × List Char)
  | [] => none
  | x :: rest =>
    match cutLast c rest with
    | some p => some (x :: p.1, p.2)
    | none => if x = c then some ([], rest) else none

theorem cutFirst_eq_none_iff {c : Char} {s : List Char} : cutFirst c s = none ↔ c ∉ s := by
  induction s with
  | nil => simp [cutFirst]
  | cons x rest ih =>
    by_cases h : x = c
    · simp [cutFirst, h]
    · simp [cutFirst, h, ih, Ne.symm h]

theorem cutFirst_eq_some_iff {c : Char} {s a b : List Char} :
    cutFirst c s = some (a, b) ↔ s = a ++ c :: b ∧ c ∉ a := by
  induction s generalizing a with
  | nil => simp [cutFirst]
  | cons x rest ih =>
    by_cases h : x = c
    · subst h
      cases a with
      | nil => simp [cutFirst, eq_comm]
      | cons y a => simp [cutFirst]; grind
    · cases a with
      | nil => simp [cutFirst, h]
      | cons y a =>
        simp only [cutFirst, h, if_false, Option.map_eq_some_iff, Prod.exists, Prod.mk.injEq,
          List.cons.injEq, List.cons_append, List.mem_cons, not_or]
        constructor
        · rintro ⟨a', b', hr, ⟨rfl, rfl⟩, rfl⟩
          obtain ⟨hs, hc⟩ := ih.1 hr
          exact ⟨⟨rfl, hs⟩, Ne.symm h, hc⟩
        · rintro ⟨⟨rfl, hs⟩, -, hc⟩
          exact ⟨a, b, ih.2 ⟨hs, hc⟩, ⟨rfl, rfl⟩, rfl⟩

theorem cutLast_eq_none_iff {c : Char} {s : List Char} : cutLast c s = none ↔ c ∉ s := by
  induction s with
  | nil => simp [cutLast]
  | cons x rest ih =>
    simp only [cutLast, List.mem_cons, not_or]
    cases h : cutLast c rest with
    | some p => simp [h] at ih; simp [ih]
    | none =>
      simp only [h, true_iff] at ih
      by_cases hx : x = c
      · simp [hx]
      · simp [hx, ih, Ne.symm hx]

theorem cutLast_eq_some_iff {c : Char} {s a b : List Char} :
    cutLast c s = some (a, b) ↔ s = a ++ c :: b ∧ c ∉ b := by
  induction s generalizing a with
  | nil => simp [cutLast]
  | cons x rest ih =>
    simp only [cutLast]
    cases h : cutLast c rest with
    | none =>
      have hn := cutLast_eq_none_iff.1 h
      cases a with
      | nil =>
        by_cases hx : x = c <;> simp [hx]
        grind
      | cons y a => by_cases hx : x = c <;> simp [hx] <;> grind
    | some p =>
      cases a with
      | nil =>
        have hm : c ∈ rest := by
          rw [← Decidable.not_not (p := c ∈ rest), ← cutLast_eq_none_iff, h]; simp
        simp only [Option.some.injEq, Prod.mk.injEq, reduceCtorEq, false_and, List.nil_append,
          List.cons.injEq, false_iff, not_and]
        rintro ⟨-, rfl⟩ hb
        exact hb hm
      | cons y a =>
        rw [List.cons_append, List.cons.injEq, and_assoc, ← ih, h]
        simp [Prod.ext_iff, and_assoc]

/-- The pieces between the occurrences of `c`. -/
def pieces (c : Char) : List Char → List (List Char)
  | [] => [[]]
  | x :: rest =>
    if x = c then [] :: pieces c rest
    else
      match pieces c rest with
      | [] => [[x]]
      | p :: ps => (x :: p) :: ps

/-- Drops every `c` at the end. -/
def dropTrailing (c : Char) (s : List Char) : List Char :=
  (s.reverse.dropWhile (· = c)).reverse

/-! ## Cutting text -/

/-- The text before and after the first occurrence of a character. -/
def splitFirst? (c : Char) (s : String) : Option (String × String) :=
  (cutFirst c s.toList).map fun p => (String.ofList p.1, String.ofList p.2)

/-- The text before and after the last occurrence of a character. -/
def splitLast? (c : Char) (s : String) : Option (String × String) :=
  (cutLast c s.toList).map fun p => (String.ofList p.1, String.ofList p.2)

/-- The texts between the occurrences of a character. -/
def splitAll (c : Char) (s : String) : List String := (pieces c s.toList).map String.ofList

/-- The text without the occurrences of a character at its end. -/
def trimEnd (c : Char) (s : String) : String := String.ofList (dropTrailing c s.toList)

/-- The cut at the first `c` leaves no `c` before it. -/
theorem splitFirst?_eq_some_iff {c : Char} {s a b : String} :
    splitFirst? c s = some (a, b) ↔ s.toList = a.toList ++ c :: b.toList ∧ c ∉ a.toList := by
  simp only [splitFirst?, Option.map_eq_some_iff, Prod.exists, Prod.mk.injEq]
  constructor
  · rintro ⟨x, y, h, rfl, rfl⟩
    simpa using cutFirst_eq_some_iff.1 h
  · intro h
    exact ⟨a.toList, b.toList, cutFirst_eq_some_iff.2 h, by simp, by simp⟩

theorem splitFirst?_eq_none_iff {c : Char} {s : String} :
    splitFirst? c s = none ↔ c ∉ s.toList := by
  simp [splitFirst?, cutFirst_eq_none_iff]

/-- The cut at the last `c` leaves no `c` after it. -/
theorem splitLast?_eq_some_iff {c : Char} {s a b : String} :
    splitLast? c s = some (a, b) ↔ s.toList = a.toList ++ c :: b.toList ∧ c ∉ b.toList := by
  simp only [splitLast?, Option.map_eq_some_iff, Prod.exists, Prod.mk.injEq]
  constructor
  · rintro ⟨x, y, h, rfl, rfl⟩
    simpa using cutLast_eq_some_iff.1 h
  · intro h
    exact ⟨a.toList, b.toList, cutLast_eq_some_iff.2 h, by simp, by simp⟩

theorem splitLast?_eq_none_iff {c : Char} {s : String} : splitLast? c s = none ↔ c ∉ s.toList := by
  simp [splitLast?, cutLast_eq_none_iff]

/-- The parts of a text at its first slash. -/
theorem splitFirst?_slash_iff {s a b : String} :
    splitFirst? '/' s = some (a, b) ↔ s = a ++ "/" ++ b ∧ '/' ∉ a.toList := by
  rw [splitFirst?_eq_some_iff, ← String.toList_inj]
  simp

/-- The parts of a text at its last slash. -/
theorem splitLast?_slash_iff {s a b : String} :
    splitLast? '/' s = some (a, b) ↔ s = a ++ "/" ++ b ∧ '/' ∉ b.toList := by
  rw [splitLast?_eq_some_iff, ← String.toList_inj]
  simp

/-- A text is cut at the slash that has no other before it. -/
theorem splitFirst?_slash {a b : String} (h : '/' ∉ a.toList) :
    splitFirst? '/' (a ++ "/" ++ b) = some (a, b) :=
  splitFirst?_slash_iff.2 ⟨rfl, h⟩

/-- A text is cut at the slash that has no other after it. -/
theorem splitLast?_slash {a b : String} (h : '/' ∉ b.toList) :
    splitLast? '/' (a ++ "/" ++ b) = some (a, b) :=
  splitLast?_slash_iff.2 ⟨rfl, h⟩

/-- Texts with one slash marked are equal if their parts are, where no slash stands before it. -/
theorem append_slash_inj_first {a a' b b' : String} (ha : '/' ∉ a.toList) (ha' : '/' ∉ a'.toList) :
    a ++ "/" ++ b = a' ++ "/" ++ b' ↔ a = a' ∧ b = b' := by
  constructor
  · intro h
    have hcut := congrArg (splitFirst? '/') h
    rw [splitFirst?_slash ha, splitFirst?_slash ha'] at hcut
    exact Prod.mk.inj (Option.some.inj hcut)
  · rintro ⟨rfl, rfl⟩
    rfl

/-- Texts with one slash marked are equal if their parts are, where no slash stands behind it. -/
theorem append_slash_inj_last {a a' b b' : String} (hb : '/' ∉ b.toList) (hb' : '/' ∉ b'.toList) :
    a ++ "/" ++ b = a' ++ "/" ++ b' ↔ a = a' ∧ b = b' := by
  constructor
  · intro h
    have hcut := congrArg (splitLast? '/') h
    rw [splitLast?_slash hb, splitLast?_slash hb'] at hcut
    exact Prod.mk.inj (Option.some.inj hcut)
  · rintro ⟨rfl, rfl⟩
    rfl

/-! ## Joining and comparing text -/

/-- The texts one after the other, with a separator between neighbours. -/
def join (separator : String) : List String → String
  | [] => ""
  | [s] => s
  | s :: rest => s ++ separator ++ join separator rest

/-- Whether a text begins with another one. -/
def startsWith (s start : String) : Bool := start.toList.isPrefixOf s.toList

/-- Whether a text ends with another one. -/
def endsWith (s ending : String) : Bool := ending.toList.isSuffixOf s.toList

theorem startsWith_iff {s start : String} :
    startsWith s start = true ↔ ∃ ending, s = start ++ ending := by
  rw [startsWith, List.isPrefixOf_iff_prefix]
  constructor
  · rintro ⟨ending, h⟩
    refine ⟨String.ofList ending, String.toList_inj.1 ?_⟩
    rw [String.toList_append, String.toList_ofList, h]
  · rintro ⟨ending, rfl⟩
    rw [String.toList_append]
    exact List.prefix_append _ _

theorem startsWith_eq_false_iff {s start : String} :
    startsWith s start = false ↔ ∀ ending, s ≠ start ++ ending := by
  rw [← Bool.not_eq_true, startsWith_iff, not_exists]

theorem endsWith_iff {s ending : String} :
    endsWith s ending = true ↔ ∃ start, s = start ++ ending := by
  rw [endsWith, List.isSuffixOf_iff_suffix]
  constructor
  · rintro ⟨start, h⟩
    refine ⟨String.ofList start, String.toList_inj.1 ?_⟩
    rw [String.toList_append, String.toList_ofList, h]
  · rintro ⟨start, rfl⟩
    rw [String.toList_append]
    exact List.suffix_append _ _

/-- The decimal digits of a number, with a minus sign in front of a negative one. -/
def ofInt : Int → String
  | .ofNat n => n.repr
  | .negSucc n => "-" ++ (n + 1).repr

end ClusterView.Text
