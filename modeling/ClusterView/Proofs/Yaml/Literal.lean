import ClusterView.Proofs.Yaml.Characters
import ClusterView.Yaml.Block
import Mathlib.Tactic.SplitIfs

/-!
# Literal blocks

A text of several lines is read back from the literal block that it is written as
(`literal_text`). Reading its lines adds one character of the text after the other
(`blockLines_literal`), and the header says how many of the line ends at the end belong to the
text.
-/

namespace ClusterView.Yaml

/-! ## Characters of a block -/

namespace BlockLines

/-- A block with one more character of its text, where lines are indented by `n`. -/
def add (n : Nat) (b : BlockLines) (c : Char) : BlockLines :=
  if isBreak c then
    if b.inLine then { b with lineEnd := [c], inLine := false }
    else { b with empty := c :: b.empty }
  else if b.inLine then { b with out := c :: b.out }
  else { b with widest := max b.widest n, indent := some n }.beginLine false c

/-- The text so far with all line ends, the last character first. -/
def full (b : BlockLines) : List Char := b.empty ++ b.lineEnd ++ b.out

/-- A block whose last line has its end. -/
def ended (n : Nat) (b : BlockLines) : BlockLines := if b.inLine then b.add n '\n' else b

/-- Whether no line ends are held back inside a line. -/
def Tidy (b : BlockLines) : Prop := b.inLine = true → b.empty = [] ∧ b.lineEnd = []

theorem beginLine_literal (b : BlockLines) (c : Char) :
    b.beginLine false c =
      { b with out := c :: b.full, lineEnd := [], empty := [], blankStart := isBlank c,
               inLine := true } := by
  simp [beginLine, full]

variable {n : Nat} {b : BlockLines} {c : Char}

theorem inLine_add : (b.add n c).inLine = !isBreak c := by
  unfold add
  rw [beginLine_literal]
  split_ifs with hbreak hline hline <;> simp [hbreak, hline]

theorem indent_add (h : b.indent = some n ∨ isBreak c = false ∧ b.inLine = false) :
    (b.add n c).indent = some n := by
  unfold add
  rw [beginLine_literal]
  split_ifs with hbreak hline hline
  · simpa [hbreak] using h
  · simpa [hbreak] using h
  · simpa [hline] using h
  · rfl

theorem Tidy.add (h : b.Tidy) : (b.add n c).Tidy := by
  unfold Tidy BlockLines.add
  rw [beginLine_literal]
  split_ifs with hbreak hline hline
  · simp
  · simp [hline]
  · exact fun _ => h hline
  · exact fun _ => ⟨rfl, rfl⟩

theorem full_add (h : b.Tidy) : (b.add n c).full = c :: b.full := by
  unfold BlockLines.add
  rw [beginLine_literal]
  unfold full
  split_ifs with hbreak hline hline
  · simp [h hline]
  · rfl
  · simp [h hline]
  · rfl

/-- The line end after a character of a line is not that of an empty line. -/
theorem empty_add (h : b.Tidy) (hline : b.inLine = true) : (b.add n c).empty = [] := by
  unfold BlockLines.add
  rw [if_pos hline, if_pos hline]
  split_ifs
  · exact (h hline).1
  · exact (h hline).1

end BlockLines

/-! ## Lines -/

section

variable {chomp : Chomp} {parent : Int} {n : Nat} {p : Position} {b : BlockLines}

/-- The blanks of a margin are passed over. -/
theorem blockLines_margin (hline : b.inLine = false) {k : Nat}
    (hindent : b.indent = some n ∧ p.column + k ≤ n ∨ b.indent = none) (rest : List Char) :
    blockLines false chomp parent p b (blanks k ++ rest) =
      blockLines false chomp parent (p.along (blanks k)) b rest := by
  induction k generalizing p with
  | zero => rfl
  | succ k ih =>
    have hmargin : b.inMargin p.column = true := by
      rcases hindent with ⟨hsome, hle⟩ | hnone
      · simp only [BlockLines.inMargin, hsome, Option.all_some, decide_eq_true_eq]
        omega
      · simp [BlockLines.inMargin, hnone]
    have hstep : p.step ' ' = ⟨p.index + 1, p.line, p.column + 1⟩ := p.step_of_not_break rfl
    have hindent' : b.indent = some n ∧ (p.step ' ').column + k ≤ n ∨ b.indent = none := by
      rw [hstep]
      refine hindent.imp_left fun h => ⟨h.1, ?_⟩
      have := h.2
      dsimp only
      omega
    rw [blanks_succ, List.cons_append, blockLines]
    simp only [hline, Bool.false_eq_true, if_false, hmargin, decide_true, Bool.and_self, if_true]
    exact ih hindent'

theorem blockLines_inLine (hline : b.inLine = true) (c : Char) (rest : List Char) :
    blockLines false chomp parent p b (c :: rest) =
      blockLines false chomp parent (p.step c) (b.add n c) rest := by
  rw [blockLines]
  simp only [hline, if_true, BlockLines.add]

theorem blockLines_empty (hline : b.inLine = false) (hp : p.column = 0) {c : Char}
    (hbreak : isBreak c = true) (rest : List Char) :
    blockLines false chomp parent p b (c :: rest) =
      blockLines false chomp parent (p.step c) (b.add n c) rest := by
  have hblank : c ≠ ' ' := by
    rintro rfl
    cases hbreak
  have htab : c ≠ '\t' := by
    rintro rfl
    cases hbreak
  rw [blockLines]
  simp only [hline, hblank, htab, hbreak, hp, decide_false, Bool.false_and, Bool.false_eq_true,
    if_false, if_true, BlockLines.add, Nat.max_zero]

/-- What is known of the indentation before a character of the text: either it was given, or the
first line begins with the character. -/
def BlockLines.Indented (n : Nat) (b : BlockLines) (c : Char) : Prop :=
  b.indent = some n ∨
    (b.indent = none ∧ b.widest = 0) ∧ (isBreak c = false ∧ b.inLine = false) ∧ c ≠ ' '

/-- The first character of a line tells the indentation where it is not known. -/
theorem blockLines_begin (hline : b.inLine = false) (hp : p.column = n) {c : Char}
    (hbreak : isBreak c = false) (htab : c ≠ '\t') (hn : parent < n)
    (hindent : b.Indented n c) (hpos : 0 < n) (rest : List Char) :
    blockLines false chomp parent p b (c :: rest) =
      blockLines false chomp parent (p.step c) (b.add n c) rest := by
  have hmargin : (decide (c = ' ') && b.inMargin n) = false := by
    rcases hindent with hsome | ⟨-, -, hblank⟩
    · simp [BlockLines.inMargin, hsome]
    · simp [hblank]
  have hindentation : { b with widest := max b.widest n }.indentation parent = n := by
    rcases hindent with hsome | ⟨⟨hnone, hwidest⟩, -⟩
    · simp [BlockLines.indentation, hsome]
    · simp only [BlockLines.indentation, hnone, hwidest, Option.getD_none]
      omega
  simp only [hline] at hindentation
  rw [blockLines]
  simp only [hline, hmargin, htab, hbreak, hp, decide_false, Bool.false_and, Bool.false_eq_true,
    if_false, if_true, BlockLines.add, hindentation]

variable (chomp parent)

/-- A character of the text is added, after the margin of its line if it is the first one there. -/
theorem blockLines_add (hn : parent < n) (hpos : 0 < n) {c : Char} (htab : c ≠ '\t')
    (hp : b.inLine = false → p.column = 0) (hindent : b.Indented n c) (cs rest : List Char) :
    ∃ q : Position, ((b.add n c).inLine = false → q.column = 0) ∧
      blockLines false chomp parent p b (literalLines n (!b.inLine) (c :: cs) ++ rest) =
        blockLines false chomp parent q (b.add n c)
          (literalLines n (!(b.add n c).inLine) cs ++ rest) := by
  have hcolumn : (b.add n c).inLine = false → (p.step c).column = 0 := by
    intro h
    rw [p.step_of_break (by simpa [BlockLines.inLine_add] using h)]
  rw [BlockLines.inLine_add, Bool.not_not] at *
  cases hline : b.inLine with
  | true =>
    refine ⟨p.step c, hcolumn, ?_⟩
    rw [← blockLines_inLine hline, literalLines]
    cases isBreak c <;> simp
  | false =>
    cases hbreak : isBreak c with
    | true =>
      refine ⟨p.step c, hbreak ▸ hcolumn, ?_⟩
      rw [← blockLines_empty hline (hp hline) hbreak, literalLines, if_pos hbreak]
      rfl
    | false =>
      have hmargin : (p.along (blanks n)).column = n := by
        rw [p.along_of_not_break fun _ => isBreak_of_mem_blanks, hp hline]
        simp
      have hunread : b.indent = some n ∧ p.column + n ≤ n ∨ b.indent = none := by
        rcases hindent with hsome | ⟨⟨hnone, -⟩, -⟩
        · exact .inl ⟨hsome, by simp [hp hline]⟩
        · exact .inr hnone
      refine ⟨(p.along (blanks n)).step c, fun h => by simp at h, ?_⟩
      rw [← blockLines_begin hline hmargin hbreak htab hn hindent hpos, literalLines, hbreak,
        ← blockLines_margin hline hunread]
      simp

/-- The characters of the text are added one after the other. -/
theorem blockLines_literal (hn : parent < n) (hpos : 0 < n) {cs : List Char}
    (htab : ∀ c ∈ cs, c ≠ '\t') (hp : b.inLine = false → p.column = 0)
    (hindent : ∀ c ∈ cs.head?, b.Indented n c) (rest : List Char) :
    ∃ q : Position, ((cs.foldl (·.add n) b).inLine = false → q.column = 0) ∧
      blockLines false chomp parent p b (literalLines n (!b.inLine) cs ++ rest) =
        blockLines false chomp parent q (cs.foldl (·.add n) b)
          (literalLines n (!(cs.foldl (·.add n) b).inLine) [] ++ rest) := by
  induction cs generalizing p b with
  | nil => exact ⟨p, hp, rfl⟩
  | cons c more ih =>
    rw [List.forall_mem_cons] at htab
    have hindented := hindent c rfl
    have hindent' : (b.add n c).indent = some n :=
      BlockLines.indent_add (hindented.imp_right fun h => h.2.1)
    obtain ⟨q, hq, hread⟩ := blockLines_add chomp parent hn hpos htab.1 hp hindented more rest
    obtain ⟨r, hr, hmore⟩ := ih htab.2 hq fun _ _ => .inl hindent'
    exact ⟨r, hr, hread.trans hmore⟩

/-- A block ends before a line that is further to the left. -/
theorem blockLines_end (hline : b.inLine = false) (hp : p.column = 0) (hindent : b.indent = some n)
    {k : Nat} (hk : k < n) {more : List Char} (hmore : AtToken more) :
    ∃ q : Position, q.column = k ∧
      blockLines false chomp parent p b (blanks k ++ more) = some ⟨b.text chomp, q, more⟩ := by
  have hcolumn : (p.along (blanks k)).column = k := by
    rw [p.along_of_not_break fun _ => isBreak_of_mem_blanks, hp]
    simp
  refine ⟨p.along (blanks k), hcolumn, ?_⟩
  rw [blockLines_margin hline (.inl ⟨hindent, by omega⟩)]
  cases more with
  | nil => rfl
  | cons c rest =>
    obtain ⟨hspace, -, -⟩ := hmore
    have hblank : c ≠ ' ' := by
      rintro rfl
      cases hspace
    have htab : c ≠ '\t' := by
      rintro rfl
      cases hspace
    have hleft : k ≠ n := Nat.ne_of_lt hk
    rw [blockLines]
    simp only [hline, hblank, htab, isBreak_eq_false hspace, hcolumn, hindent, hleft, decide_false,
      Bool.false_and, Bool.false_eq_true, if_false, BlockLines.indentation, Option.getD_some]
    rfl

/-- After the text comes the end of its last line, if it has none. -/
theorem blockLines_last (hp : b.inLine = false → p.column = 0) (hindent : b.indent = some n)
    {k : Nat} (hk : k < n) {more : List Char} (hmore : AtToken more) :
    ∃ q : Position, q.column = k ∧
      blockLines false chomp parent p b (literalLines n (!b.inLine) [] ++ (blanks k ++ more)) =
        some ⟨(b.ended n).text chomp, q, more⟩ := by
  cases hline : b.inLine with
  | true =>
    have hend : b.ended n = b.add n '\n' := if_pos hline
    obtain ⟨q, hq, hread⟩ := blockLines_end chomp parent (p := p.step '\n')
      (b := b.add n '\n') BlockLines.inLine_add rfl
      (BlockLines.indent_add (.inl hindent)) hk hmore
    refine ⟨q, hq, ?_⟩
    rw [hend, ← hread, ← blockLines_inLine hline]
    rfl
  | false =>
    have hend : b.ended n = b := if_neg (by simp [hline])
    obtain ⟨q, hq, hread⟩ := blockLines_end chomp parent hline (hp hline)
      hindent hk hmore
    exact ⟨q, hq, hend.symm ▸ hread⟩

end

/-! ## Headers -/

/-- What becomes of the line ends of a text that is written as a literal block. -/
def Chomp.ofText (cs : List Char) : Chomp :=
  match cs.reverse with
  | [] => .strip
  | [c] => if isBreak c then .keep else .strip
  | c :: d :: _ => if !isBreak c then .strip else if isBreak d then .keep else .clip

/-- The sign for what becomes of the line ends. -/
def Chomp.mark : Chomp → List Char
  | .strip => ['-']
  | .clip => []
  | .keep => ['+']

theorem chompMark_eq (cs : List Char) : chompMark cs = (Chomp.ofText cs).mark := by
  unfold chompMark Chomp.ofText
  rcases cs.reverse with _ | ⟨c, _ | ⟨d, more⟩⟩
  · rfl
  · dsimp only
    split_ifs <;> rfl
  · dsimp only
    split_ifs <;> rfl

/-- Whether the header of a text gives the indentation. -/
def givesIndent (cs : List Char) : Bool := cs.head?.any fun c => c = ' ' || isBreak c

theorem blockHeader_mark (cs : List Char) (chomp : Chomp) (rest : List Char) :
    blockHeader (indentationMark cs ++ chomp.mark ++ '\n' :: rest) =
      (⟨chomp, if givesIndent cs then some 2 else none⟩,
        (indentationMark cs ++ chomp.mark).length) := by
  unfold indentationMark givesIndent
  split_ifs <;> cases chomp <;> rfl

/-- The lines of a block are read from behind its header. -/
theorem blockScalar?_mark (parent : Nat) (p : Position) (cs rest : List Char) :
    blockScalar? false parent p (indentationMark cs ++ chompMark cs ++ '\n' :: rest) =
      blockLines false (.ofText cs) parent
        ((p.along (indentationMark cs ++ chompMark cs)).step '\n')
        { indent := if givesIndent cs then some (parent + 2) else none } rest := by
  rw [chompMark_eq, blockScalar?, blockHeader_mark]
  simp only [List.take_left, List.drop_left]
  cases givesIndent cs
  · rfl
  · simp only [if_true, Option.map_some, Int.toNat_natCast, Nat.add_comm 2 parent]
    rfl

/-! ## Texts -/

section

variable {n : Nat} {b : BlockLines}

namespace BlockLines

theorem tidy_foldl (h : b.Tidy) (cs : List Char) : (cs.foldl (·.add n) b).Tidy := by
  induction cs generalizing b with
  | nil => exact h
  | cons c rest ih => exact ih h.add

theorem indent_foldl (h : b.indent = some n) (cs : List Char) :
    (cs.foldl (·.add n) b).indent = some n := by
  induction cs generalizing b with
  | nil => exact h
  | cons c rest ih => exact ih (indent_add (.inl h))

theorem full_foldl (h : b.Tidy) (cs : List Char) :
    (cs.foldl (·.add n) b).full = cs.reverse ++ b.full := by
  induction cs generalizing b with
  | nil => rfl
  | cons c rest ih =>
    rw [List.foldl_cons, ih h.add, full_add h]
    simp

theorem text_strip (h : b.Tidy) (hline : b.inLine = true) :
    (b.ended n).text .strip = b.full.reverse := by
  obtain ⟨hempty, hend⟩ := h hline
  simp [ended, hline, add, isBreak, text, full, hempty, hend]

theorem text_clip (hline : b.inLine = false) (hempty : b.empty = []) :
    (b.ended n).text .clip = b.full.reverse := by
  simp [ended, hline, text, full, hempty]

theorem text_keep (hline : b.inLine = false) : (b.ended n).text .keep = b.full.reverse := by
  simp [ended, hline, text, full]

/-- The header says how many line ends belong to the text. -/
theorem text_ended {cs : List Char} (hne : cs ≠ []) (hb : b.Tidy) (hfull : b.full = []) :
    ((cs.foldl (·.add n) b).ended n).text (.ofText cs) = cs := by
  suffices hkept : ((cs.foldl (·.add n) b).ended n).text (.ofText cs) =
      (cs.foldl (·.add n) b).full.reverse by
    rw [hkept, full_foldl hb, hfull, List.append_nil, List.reverse_reverse]
  rcases hcs : cs.reverse with _ | ⟨c, more⟩
  · exact absurd (List.reverse_eq_nil_iff.1 hcs) hne
  · have hsplit : cs = more.reverse ++ [c] := by
      rw [← List.reverse_reverse cs, hcs, List.reverse_cons]
    have hlast : cs.foldl (·.add n) b = (more.reverse.foldl (·.add n) b).add n c := by
      rw [hsplit, List.foldl_append]
      rfl
    have hinLine : (cs.foldl (·.add n) b).inLine = !isBreak c := by rw [hlast, inLine_add]
    have htidy := tidy_foldl (n := n) hb cs
    cases hbreak : isBreak c with
    | false =>
      have hchomp : Chomp.ofText cs = .strip := by
        cases more <;> simp [Chomp.ofText, hcs, hbreak]
      rw [hbreak] at hinLine
      rw [hchomp, text_strip htidy hinLine]
    | true =>
      rw [hbreak] at hinLine
      rcases more with _ | ⟨d, more⟩
      · have hchomp : Chomp.ofText cs = .keep := by simp [Chomp.ofText, hcs, hbreak]
        rw [hchomp, text_keep hinLine]
      · cases hbefore : isBreak d with
        | true =>
          have hchomp : Chomp.ofText cs = .keep := by simp [Chomp.ofText, hcs, hbreak, hbefore]
          rw [hchomp, text_keep hinLine]
        | false =>
          have hchomp : Chomp.ofText cs = .clip := by simp [Chomp.ofText, hcs, hbreak, hbefore]
          have hempty : (cs.foldl (·.add n) b).empty = [] := by
            rw [hlast]
            refine empty_add (tidy_foldl hb _) ?_
            rw [List.reverse_cons, List.foldl_append, List.foldl_cons, List.foldl_nil, inLine_add,
              hbefore]
            rfl
          rw [hchomp, text_clip hinLine hempty]

end BlockLines

/-- A text is read back from its literal block, up to the next line. -/
theorem literal_text {parent : Nat} {cs : List Char} (hne : cs ≠ [])
    (hprintable : ∀ c ∈ cs, isPrintable c = true) {k : Nat} (hk : k ≤ parent) {more : List Char}
    (hmore : AtToken more) (p : Position) :
    ∃ q : Position, q.column = k ∧
      blockScalar? false parent p
          (indentationMark cs ++ chompMark cs ++
            '\n' :: (literalLines (parent + 2) true cs ++ (blanks k ++ more))) =
        some ⟨cs, q, more⟩ := by
  have htab : ∀ c ∈ cs, c ≠ '\t' := by
    rintro c hc rfl
    exact absurd (hprintable _ hc) (by decide)
  let b : BlockLines := { indent := if givesIndent cs then some (parent + 2) else none }
  have htidy : b.Tidy := fun h => nomatch h
  have hindented : ∀ c ∈ cs.head?, b.Indented (parent + 2) c := by
    intro c hc
    cases hgiven : givesIndent cs with
    | true => exact .inl (if_pos hgiven)
    | false =>
      have hplain : c ≠ ' ' ∧ isBreak c = false := by
        rw [givesIndent, Option.mem_def.1 hc] at hgiven
        simpa using hgiven
      exact .inr ⟨⟨if_neg (by simp [hgiven]), rfl⟩, ⟨hplain.2, rfl⟩, hplain.1⟩
  obtain ⟨q, hq, hread⟩ := blockLines_literal (.ofText cs) parent
    (p := (p.along (indentationMark cs ++ chompMark cs)).step '\n') (b := b) (by omega)
    (Nat.succ_pos _) htab (fun _ => rfl) hindented (blanks k ++ more)
  have hindent : (cs.foldl (·.add (parent + 2)) b).indent = some (parent + 2) := by
    obtain ⟨c, rest, rfl⟩ := List.exists_cons_of_ne_nil hne
    exact BlockLines.indent_foldl
      (BlockLines.indent_add ((hindented c rfl).imp_right fun h => h.2.1)) rest
  obtain ⟨r, hr, hlast⟩ := blockLines_last (.ofText cs) parent hq hindent
    (Nat.lt_of_le_of_lt hk (by omega)) hmore
  refine ⟨r, hr, ?_⟩
  rw [blockScalar?_mark]
  refine hread.trans (hlast.trans ?_)
  rw [BlockLines.text_ended hne htidy rfl]

end

end ClusterView.Yaml
