import ClusterView.Proofs.Yaml.Characters
import ClusterView.Yaml.Lexer

/-!
# Lexers between tokens

`Lexer.Reads` says which tokens a lexer ends with, and `Lexer.Reads.run_eq` that it does so within
as many steps as there are characters. Outside of brackets a lexer is given by the `Blocks` around
it, by the key that may have begun, and by the text that is left. What stands on the next line tells
which blocks end before it: `ReadsLine` says what is read from the begin of a line on, and
`ReadsLine.inside` ends a block before it.
-/

namespace ClusterView.Yaml

namespace Lexer

/-! ## Runs -/

/-- Whether a lexer reads its text to the end, and with which tokens in all. -/
inductive Reads : Lexer → List Token → Prop
  | last {l l' : Lexer} (hstep : l.step = some l') (hdone : l'.isDone = true) :
    Reads l l'.tokens.toList
  | next {l l' : Lexer} {ts : List Token} (hstep : l.step = some l') (hdone : l'.isDone = false)
    (hless : l'.rest.length < l.rest.length) (hreads : Reads l' ts) : Reads l ts

/-- The steps of a run are as many as the characters at most. -/
theorem Reads.run_eq {l : Lexer} {ts : List Token} (h : l.Reads ts) {n : Nat}
    (hn : l.rest.length < n) : (run n l).toList = ts := by
  induction h generalizing n with
  | last hstep hdone =>
    obtain ⟨n, rfl⟩ := Nat.exists_eq_add_of_lt hn
    simp [run, hstep, hdone]
  | @next l l' ts hstep hdone hless _ ih =>
    obtain ⟨m, rfl⟩ : ∃ m, n = m + 1 := ⟨n - 1, by omega⟩
    rw [run, hstep]
    simp only [hdone, Bool.false_eq_true, if_false]
    exact ih (by omega)

/-- A lexer that goes on like another one reads the same tokens. -/
theorem Reads.of_step_eq {l l' : Lexer} {ts : List Token} (h : l'.Reads ts)
    (hstep : l.step = l'.step) (hle : l'.rest.length ≤ l.rest.length) : l.Reads ts := by
  cases h with
  | last hlast hdone => exact .last (hstep.trans hlast) hdone
  | next hnext hdone hless hreads => exact .next (hstep.trans hnext) hdone (by omega) hreads

theorem step_congr {l l' : Lexer}
    (h : l.skipSpaces.dropStaleKeys = l'.skipSpaces.dropStaleKeys) : l.step = l'.step := by
  rw [step, step, h]

/-! ## Spaces -/

theorem line_le_skipSpacesFrom (inFlow allowed comment : Bool) (p : Position) (cs : List Char) :
    p.line ≤ (skipSpacesFrom inFlow allowed comment p cs).2.1.line := by
  induction cs generalizing allowed comment p with
  | nil => exact Nat.le_refl _
  | cons c rest ih =>
    rw [skipSpacesFrom]
    split
    · exact Nat.le_trans (p.line_le_step c) (ih ..)
    · split
      · exact Nat.le_trans (p.line_le_step c) (ih ..)
      · split
        · exact Nat.le_trans (p.line_le_step c) (ih ..)
        · exact Nat.le_refl _

theorem skipSpacesFrom_atToken {inFlow allowed : Bool} {p : Position} {cs : List Char}
    (h : AtToken cs) : skipSpacesFrom inFlow allowed false p cs = (allowed, p, cs) := by
  cases cs with
  | nil => rfl
  | cons c rest =>
    obtain ⟨hspace, hsign, hmark⟩ := h
    simp only [isSpace, isBlank, Bool.or_eq_false_iff, decide_eq_false_iff_not] at hspace
    obtain ⟨⟨hblank, htab⟩, hbreak⟩ := hspace
    simp [skipSpacesFrom, hbreak, hblank, htab, hsign, hmark]

end Lexer

/-! ## Blocks -/

/-- The tokens so far, and the columns of the blocks that have not ended. -/
structure Blocks where
  tokens : List Token
  /-- The column of the innermost block. -/
  indent : Int
  outer : List Int

namespace Blocks

/-- A lexer outside of brackets. -/
def lexer (b : Blocks) (allowed : Bool) (key : Option PossibleKey) (p : Position)
    (rest : List Char) : Lexer :=
  { position := p, rest, tokens := b.tokens.toArray, indent := b.indent, outerIndents := b.outer,
    keyAllowed := allowed, possibleKey := key }

/-- More tokens. -/
def add (b : Blocks) (ts : List Token) : Blocks := { b with tokens := b.tokens ++ ts }

/-- The begin of a block in a column, with tokens of it. -/
def inside (b : Blocks) (column : Nat) (ts : List Token) : Blocks :=
  { tokens := b.tokens ++ ts, indent := column, outer := b.indent :: b.outer }

variable {b : Blocks} {c : Nat} {ts us : List Token}

@[simp] theorem indent_add : (b.add ts).indent = b.indent := rfl

@[simp] theorem indent_inside : (b.inside c ts).indent = c := rfl

theorem add_add : (b.add ts).add us = b.add (ts ++ us) := by simp [add]

theorem inside_add : (b.inside c ts).add us = b.inside c (ts ++ us) := by simp [add, inside]

/-- The blocks after the begin of an item or a key in a column. -/
def enter (b : Blocks) (column : Nat) (t : Token) : Blocks :=
  if b.indent < column then b.inside column [t] else b

theorem enter_of_lt {t : Token} (h : b.indent < c) : b.enter c t = b.inside c [t] := if_pos h

theorem enter_self {t : Token} (h : b.indent = c) : b.enter c t = b := if_neg (by omega)

end Blocks

/-! ## Steps -/

section

variable {b : Blocks} {allowed : Bool} {key : Option PossibleKey} {p : Position} {cs : List Char}
  {all : List Token}

theorem skipSpaces_lexer : (b.lexer allowed key p cs).skipSpaces =
    b.lexer (Lexer.skipSpacesFrom false allowed false p cs).1 key
      (Lexer.skipSpacesFrom false allowed false p cs).2.1
      (Lexer.skipSpacesFrom false allowed false p cs).2.2 := rfl

theorem dropStaleKeys_lexer : (b.lexer allowed key p cs).dropStaleKeys =
    (Lexer.keepFresh p key).map fun key => b.lexer allowed key p cs := by
  simp only [Lexer.dropStaleKeys, Blocks.lexer, List.mapM_nil]
  cases Lexer.keepFresh p key <;> rfl

/-- A key that may have begun on a line before is none any more. -/
theorem Lexer.Reads.of_stale (h : (b.lexer allowed none p cs).Reads all)
    (hkey : ∀ k ∈ key, k.required = false ∧ k.position.line < p.line) :
    (b.lexer allowed key p cs).Reads all := by
  refine h.of_step_eq (Lexer.step_congr ?_) (Nat.le_refl _)
  rw [skipSpaces_lexer, skipSpaces_lexer, dropStaleKeys_lexer, dropStaleKeys_lexer]
  cases key with
  | none => rfl
  | some k =>
    obtain ⟨hrequired, hline⟩ := hkey k rfl
    have hstale : k.isStale (Lexer.skipSpacesFrom false allowed false p cs).2.1 = true := by
      have := Lexer.line_le_skipSpacesFrom false allowed false p cs
      simp only [PossibleKey.isStale, Bool.or_eq_true, decide_eq_true_eq]
      omega
    simp [Lexer.keepFresh, hstale, hrequired]

/-- A line end is skipped, and a key may begin behind it. -/
theorem Lexer.Reads.of_feed (h : (b.lexer true none (p.step '\n') cs).Reads all)
    (hkey : ∀ k ∈ key, k.required = false ∧ k.position.line ≤ p.line) :
    (b.lexer allowed key p ('\n' :: cs)).Reads all := by
  have hline : (p.step '\n').line = p.line + 1 := by rw [p.step_of_break rfl]
  have hstale : (b.lexer true key (p.step '\n') cs).Reads all := h.of_stale fun k hk => by
    obtain ⟨hrequired, hle⟩ := hkey k hk
    exact ⟨hrequired, by omega⟩
  refine hstale.of_step_eq (Lexer.step_congr ?_) (Nat.le_succ _)
  have hskip : Lexer.skipSpacesFrom false allowed false p ('\n' :: cs) =
      Lexer.skipSpacesFrom false true false (p.step '\n') cs := by
    rw [Lexer.skipSpacesFrom]
    simp [isBreak]
  rw [skipSpaces_lexer, skipSpaces_lexer, hskip]

/-- A blank is skipped. -/
theorem Lexer.Reads.of_blank (h : (b.lexer allowed none (p.step ' ') cs).Reads all) :
    (b.lexer allowed none p (' ' :: cs)).Reads all := by
  refine h.of_step_eq (Lexer.step_congr ?_) (Nat.le_succ _)
  have hskip : Lexer.skipSpacesFrom false allowed false p (' ' :: cs) =
      Lexer.skipSpacesFrom false allowed false (p.step ' ') cs := by
    rw [Lexer.skipSpacesFrom]
    simp [isBreak]
  rw [skipSpaces_lexer, skipSpaces_lexer, hskip]

theorem Lexer.Reads.of_blanks {k : Nat}
    (h : (b.lexer allowed none (p.along (blanks k)) cs).Reads all) :
    (b.lexer allowed none p (blanks k ++ cs)).Reads all := by
  induction k generalizing p with
  | zero => exact h
  | succ k ih => exact (ih h).of_blank

end

/-! ## Ends of blocks -/

namespace Lexer

/-- Blocks that end before something further to the left have ended before that. -/
theorem endBlocks_endBlocks {a column : Int} (h : a ≤ column) (tokens : Array Token) (indent : Int)
    (outer : List Int) :
    endBlocks a (endBlocks column tokens indent outer).1 (endBlocks column tokens indent outer).2.1
        (endBlocks column tokens indent outer).2.2 = endBlocks a tokens indent outer := by
  induction outer generalizing tokens indent with
  | nil => rfl
  | cons next more ih =>
    by_cases hcolumn : column < indent
    · have ha : a < indent := by omega
      rw [endBlocks, if_pos hcolumn, ih, endBlocks, if_pos ha]
    · rw [endBlocks, if_neg hcolumn]

end Lexer

namespace Blocks

/-- The blocks after those to the right of a column have ended. -/
def close (b : Blocks) (column : Int) : Blocks :=
  let (tokens, indent, outer) := Lexer.endBlocks column b.tokens.toArray b.indent b.outer
  ⟨tokens.toList, indent, outer⟩

variable {b : Blocks} {column : Int}

theorem close_of_le (h : b.indent ≤ column) : b.close column = b := by
  obtain ⟨tokens, indent, outer⟩ := b
  cases outer with
  | nil => rfl
  | cons next more =>
    have hle : ¬ column < indent := by simpa using h
    simp [close, Lexer.endBlocks, hle]

theorem close_inside {c : Nat} (h : column < c) (ts : List Token) :
    (b.inside c ts).close column = (b.add (ts ++ [.blockEnd])).close column := by
  simp [close, inside, add, Lexer.endBlocks, h]

theorem close_close {a : Int} (h : a ≤ column) : (b.close column).close a = b.close a := by
  unfold close
  simp only [Array.toArray_toList, Lexer.endBlocks_endBlocks h]

end Blocks

section

variable {b : Blocks} {allowed : Bool} {key : Option PossibleKey} {p : Position} {cs : List Char}
  {all : List Token}

theorem step_token {c : Char} {rest : List Char} (h : AtToken (c :: rest))
    (hkey : Lexer.keepFresh p key = some key) : (b.lexer allowed key p (c :: rest)).step =
      ((b.close p.column).lexer allowed key p (c :: rest)).readToken c rest := by
  rw [Lexer.step, skipSpaces_lexer, Lexer.skipSpacesFrom_atToken h, dropStaleKeys_lexer, hkey]
  rfl

theorem step_end : (b.lexer allowed none p []).step =
    some (((b.close (-1)).lexer false none p []).push .streamEnd) := by
  have hclose : (b.close p.column).close (-1) = b.close (-1) := Blocks.close_close (by omega)
  have hskip : Lexer.skipSpacesFrom false allowed false p [] = (allowed, p, []) := rfl
  rw [Lexer.step, skipSpaces_lexer, hskip, dropStaleKeys_lexer, ← hclose]
  rfl

/-! ## Lines -/

/-- Whether a text is read to its end from the begin of a line on, behind what stands in a block:
its first token is not to the right of the column of the block. -/
def ReadsLine (b : Blocks) (text : List Char) (all : List Token) : Prop :=
  ∃ (k : Nat) (more : List Char), text = blanks k ++ more ∧ AtToken more ∧
    (more = [] ∧ k = 0 ∨ (k : Int) ≤ b.indent) ∧
    ∀ p : Position, p.column = k → (b.lexer true none p more).Reads all

theorem ReadsLine.reads (h : ReadsLine b cs all) (hp : p.column = 0) :
    (b.lexer true none p cs).Reads all := by
  obtain ⟨k, more, rfl, -, -, hreads⟩ := h
  refine Lexer.Reads.of_blanks (hreads _ ?_)
  rw [p.along_of_not_break fun _ => isBreak_of_mem_blanks, hp, length_blanks, Nat.zero_add]

/-- The end of the text ends all blocks. -/
theorem readsLine_end : ReadsLine b [] ((b.close (-1)).tokens ++ [.streamEnd]) := by
  refine ⟨0, [], rfl, trivial, .inl ⟨rfl, rfl⟩, fun p _ => ?_⟩
  have hlast := Lexer.Reads.last (l := b.lexer true none p []) step_end ?_
  · simpa [Lexer.push, Blocks.lexer] using hlast
  · simp [Lexer.isDone, Lexer.push, Blocks.lexer]

/-- A block ends before a line that begins to the left of it. -/
theorem ReadsLine.inside {ts : List Token} {c : Nat}
    (h : ReadsLine (b.add (ts ++ [.blockEnd])) cs all) (hc : b.indent < c) :
    ReadsLine (b.inside c ts) cs all := by
  obtain ⟨k, more, htext, hmore, hk, hreads⟩ := h
  refine ⟨k, more, htext, hmore, ?_, fun p hp => (hreads p hp).of_step_eq ?_ (Nat.le_refl _)⟩
  · refine hk.imp_right fun hle => ?_
    simp only [Blocks.indent_add, Blocks.indent_inside] at hle ⊢
    omega
  · cases more with
    | nil => rw [step_end, step_end, Blocks.close_inside (by omega)]
    | cons d rest =>
      have hleft : (p.column : Int) < c := by
        rcases hk with ⟨hnil, -⟩ | hle
        · cases hnil
        · rw [Blocks.indent_add] at hle
          omega
      rw [step_token hmore rfl, step_token hmore rfl, Blocks.close_inside hleft]

end

end ClusterView.Yaml
