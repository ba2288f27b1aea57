import ClusterView.Proofs.Yaml.Characters
import ClusterView.Yaml.Flow
import Mathlib.Data.List.Chain

/-!
# Scalars between single quotes

A text is read back from between single quotes (`singleQuoted_text`). The blanks of a margin are
dropped after a line end; no blank of the text is dropped with them, as none is next to a line end.
-/

namespace ClusterView.Yaml

/-! ## Neighbours -/

/-- Whether no line end is next to a blank. -/
def KeepsBlanks (a c : Char) : Prop :=
  (a = ' ' → isBreak c = false) ∧ (isBreak a = true → c ≠ ' ')

theorem hasPair_eq_false_iff {p q : Char → Bool} {cs : List Char} :
    hasPair p q cs = false ↔ cs.IsChain fun a c => p a = true → q c = false := by
  induction cs with
  | nil => simp [hasPair]
  | cons a rest ih =>
    cases rest with
    | nil => simp [hasPair]
    | cons c rest =>
      rw [List.isChain_cons_cons, ← ih]
      simp [hasPair]

theorem isChain_keepsBlanks {cs : List Char}
    (hbefore : cs.IsChain fun a c => decide (a = ' ') = true → isBreak c = false)
    (hafter : cs.IsChain fun a c => isBreak a = true → decide (c = ' ') = false) :
    cs.IsChain KeepsBlanks := by
  induction cs with
  | nil => exact .nil
  | cons a rest ih =>
    cases rest with
    | nil => exact .singleton a
    | cons c rest =>
      rw [List.isChain_cons_cons] at hbefore hafter ⊢
      refine ⟨⟨?_, ?_⟩, ih hbefore.2 hafter.2⟩
      · simpa using hbefore.1
      · simpa using hafter.1

theorem isChain_keepsBlanks_of_isQuotable {cs : List Char} (h : isQuotable cs = true) :
    cs.IsChain KeepsBlanks := by
  simp only [isQuotable, isBlockText, Bool.and_eq_true, Bool.not_eq_true', hasPair_eq_false_iff]
    at h
  exact isChain_keepsBlanks h.1.2 h.2

/-! ## Gaps -/

/-- What is known of the gap after a character: it holds blanks, or line ends that are kept. -/
inductive Gap.After (a : Char) : Gap → Prop
  | blanks {bs : List Char} (hline : isBreak a = false) (h : bs ≠ [] → a = ' ') :
    After a ⟨bs, [], false⟩
  | breaks {bs : List Char} (hline : isBreak a = true) (hne : bs ≠ []) (h : '\n' ∉ bs) :
    After a ⟨[], bs, false⟩

theorem Gap.text_breaks {bs : List Char} (hne : bs ≠ []) (h : '\n' ∉ bs) :
    Gap.text ⟨[], bs, false⟩ = bs.reverse := by
  have hmem : '\n' ∉ bs.reverse := by simpa using h
  simp only [text, Bool.false_eq_true, if_false]
  split
  next heq => exact absurd (List.reverse_eq_nil_iff.1 heq) hne
  next heq => simp [heq] at hmem
  next heq => simp [heq] at hmem
  next => rfl

/-- A blank of the text is added to the gap, and so is a line end that is kept. -/
theorem Gap.After.push {a c : Char} {g : Gap} (h : g.After a) (hac : KeepsBlanks a c)
    (hspace : isSpace c = true) (htab : c ≠ '\t') (hfeed : c ≠ '\n') :
    (g.push c).After c ∧ (g.push c).text = g.text ++ [c] := by
  cases hbreak : isBreak c with
  | false =>
    obtain rfl : c = ' ' := by simpa [isSpace, isBlank, hbreak, htab] using hspace
    cases h with
    | breaks hline => exact absurd rfl (hac.2 hline)
    | @blanks bs hline _ =>
      exact ⟨.blanks rfl fun _ => rfl, by simp [Gap.push, Gap.text, Gap.hasBreak, isBreak]⟩
  | true =>
    have hbreaks : ∀ bs : List Char, '\n' ∉ bs →
        (Gap.mk [] (c :: bs) false).After c ∧ '\n' ∉ c :: bs := by
      intro bs hbs
      have hmem : '\n' ∉ c :: bs := by simp [hbs, hfeed.symm]
      exact ⟨.breaks hbreak (List.cons_ne_nil _ _) hmem, hmem⟩
    cases h with
    | @breaks bs hline hne hbs =>
      have hpush : (Gap.mk [] bs false).push c = ⟨[], c :: bs, false⟩ := by
        simp [Gap.push, hbreak]
      obtain ⟨hafter, hmem⟩ := hbreaks bs hbs
      rw [hpush, Gap.text_breaks (List.cons_ne_nil _ _) hmem, Gap.text_breaks hne hbs]
      exact ⟨hafter, List.reverse_cons⟩
    | @blanks bs hline hbs =>
      -- A blank before a line end would be lost.
      obtain rfl : bs = [] := by
        by_contra hne
        rw [hac.1 (hbs hne)] at hbreak
        cases hbreak
      have hpush : (Gap.mk [] [] false).push c = ⟨[], [c], false⟩ := by
        simp [Gap.push, hbreak]
      obtain ⟨hafter, hmem⟩ := hbreaks [] List.not_mem_nil
      rw [hpush, Gap.text_breaks (List.cons_ne_nil _ _) hmem]
      exact ⟨hafter, rfl⟩

/-! ## Single quotes -/

section

variable {p : Position} {g : Gap} {out rest : List Char}

theorem singleQuoted_space {c : Char} (h : isSpace c = true) :
    singleQuoted p g out (c :: rest) = singleQuoted (p.step c) (g.push c) out rest := by
  rw [singleQuoted, if_pos h]

/-- The blanks of a margin are dropped. -/
theorem singleQuoted_margin {bs : List Char} (hne : bs ≠ []) (n : Nat) :
    singleQuoted p ⟨[], bs, false⟩ out (blanks n ++ rest) =
      singleQuoted (p.along (blanks n)) ⟨[], bs, false⟩ out rest := by
  induction n generalizing p with
  | zero => rfl
  | succ n ih =>
    have hpush : (⟨[], bs, false⟩ : Gap).push ' ' = ⟨[], bs, false⟩ := by
      simp [Gap.push, Gap.hasBreak, isBreak, hne]
    rw [blanks_succ, List.cons_append, singleQuoted_space rfl, hpush]
    exact ih

theorem singleQuoted_char {c : Char} (hcolumn : 0 < p.column) (hspace : isSpace c = false)
    (hquote : c ≠ '\'') : singleQuoted p g out (c :: rest) =
      singleQuoted (p.step c) {} (c :: (g.text.reverse ++ out)) rest := by
  have hmark : (p.column = 0 && atDocumentMark (c :: rest)) = false := by
    simp [Nat.ne_of_gt hcolumn]
  rw [singleQuoted]
  simp only [hspace, hmark, hquote, Bool.false_eq_true, if_false]

theorem singleQuoted_quote (hcolumn : 0 < p.column) :
    singleQuoted p g out ('\'' :: '\'' :: rest) =
      singleQuoted (p.along ['\'', '\'']) {} ('\'' :: (g.text.reverse ++ out)) rest := by
  have hmark : (p.column = 0 && atDocumentMark ('\'' :: '\'' :: rest)) = false := by
    simp [Nat.ne_of_gt hcolumn]
  rw [singleQuoted]
  simp only [hmark, Bool.false_eq_true, if_false]
  rfl

theorem singleQuoted_close (hcolumn : 0 < p.column) (hrest : rest.head? ≠ some '\'') :
    singleQuoted p g out ('\'' :: rest) =
      some ⟨(g.text.reverse ++ out).reverse, p.step '\'', rest⟩ := by
  have hmark : (p.column = 0 && atDocumentMark ('\'' :: rest)) = false := by
    simp [Nat.ne_of_gt hcolumn]
  rw [singleQuoted]
  simp only [hmark, Bool.false_eq_true, if_false, if_true]
  have hspace : isSpace '\'' = false := rfl
  rw [hspace]
  simp only [Bool.false_eq_true, if_false]
  split
  next rest' => exact absurd rfl hrest
  next => rfl

/-- A character that is no space is read back, and a quote from two quotes. -/
theorem singleQuoted_letter {c : Char} (hcolumn : 0 < p.column) (hspace : isSpace c = false)
    (out rest : List Char) :
    ∃ q : Position, p.line ≤ q.line ∧ 0 < q.column ∧
      singleQuoted p g out ((if c = '\'' then ['\'', '\''] else [c]) ++ rest) =
        singleQuoted q {} (c :: (g.text.reverse ++ out)) rest := by
  by_cases hquote : c = '\''
  · subst hquote
    refine ⟨p.along ['\'', '\''], p.line_le_along _, ?_, singleQuoted_quote hcolumn⟩
    rw [p.along_of_not_break (List.forall_mem_cons.2 ⟨rfl, List.forall_mem_singleton.2 rfl⟩)]
    exact Nat.succ_pos _
  · refine ⟨p.step c, p.line_le_step c, ?_, ?_⟩
    · rw [p.step_of_not_break (isBreak_eq_false hspace)]
      exact Nat.succ_pos _
    · rw [if_neg hquote, List.singleton_append, singleQuoted_char hcolumn hspace hquote]

end

/-- The margin before a word is dropped, and the word does not stand in the first column. -/
theorem singleQuoted_word {n : Nat} (hn : 0 < n) {a : Char} {p : Position} {g : Gap}
    (hg : g.After a) (hcolumn : isBreak a = false → 0 < p.column) (out rest : List Char) :
    ∃ q : Position, p.line ≤ q.line ∧ 0 < q.column ∧
      singleQuoted p g out ((if isBreak a then blanks n else []) ++ rest) =
        singleQuoted q g out rest := by
  cases hg with
  | blanks hline => exact ⟨p, Nat.le_refl _, hcolumn hline, by simp [hline]⟩
  | @breaks bs hline hne _ =>
    refine ⟨p.along (blanks n), p.line_le_along _, ?_, ?_⟩
    · rw [p.along_of_not_break fun _ => isBreak_of_mem_blanks]
      simp only [length_blanks]
      omega
    · rw [if_pos hline, singleQuoted_margin hne]

/-- A text between single quotes is read back, after a character and the spaces that follow it. -/
theorem singleQuoted_text {n : Nat} (hn : 0 < n) {cs tail : List Char}
    (htail : tail.head? ≠ some '\'') (hprintable : ∀ c ∈ cs, isPrintable c = true)
    (hfeed : '\n' ∉ cs) {a : Char} (hchain : (a :: cs).IsChain KeepsBlanks) {p : Position}
    {g : Gap} (out : List Char) (hg : g.After a) (hcolumn : isBreak a = false → 0 < p.column) :
    ∃ q : Position, p.line ≤ q.line ∧
      singleQuoted p g out (singleQuotedText n (isBreak a) cs ++ tail) =
        some ⟨out.reverse ++ (g.text ++ cs), q, tail⟩ := by
  induction cs generalizing a p g out with
  | nil =>
    obtain ⟨q, hle, hq, hread⟩ := singleQuoted_word hn hg hcolumn out ('\'' :: tail)
    refine ⟨q.step '\'', hle.trans (q.line_le_step _), ?_⟩
    rw [singleQuotedText, List.append_assoc, List.singleton_append, hread,
      singleQuoted_close hq htail]
    simp
  | cons c rest ih =>
    obtain ⟨hc, hrest⟩ := List.forall_mem_cons.1 hprintable
    rw [List.isChain_cons_cons] at hchain
    simp only [List.mem_cons, not_or] at hfeed
    have hspaceCase : isSpace c = true → singleQuotedText n (isBreak a) (c :: rest) =
        c :: singleQuotedText n (isBreak c) rest →
        ∃ q : Position, p.line ≤ q.line ∧
          singleQuoted p g out (singleQuotedText n (isBreak a) (c :: rest) ++ tail) =
            some ⟨out.reverse ++ (g.text ++ c :: rest), q, tail⟩ := by
      intro hspace htext
      have htab : c ≠ '\t' := by
        rintro rfl
        exact absurd hc (by decide)
      obtain ⟨hpush, hpushText⟩ := hg.push hchain.1 hspace htab (Ne.symm hfeed.1)
      have hcolumn' : isBreak c = false → 0 < (p.step c).column := by
        intro hline
        rw [p.step_of_not_break hline]
        exact Nat.succ_pos _
      obtain ⟨q, hle, hread⟩ := ih hrest hfeed.2 hchain.2 out hpush hcolumn'
      refine ⟨q, (p.line_le_step c).trans hle, ?_⟩
      rw [htext, List.cons_append, singleQuoted_space hspace, hread, hpushText]
      simp
    cases hbreak : isBreak c with
    | true =>
      refine hspaceCase (isSpace_of_isBreak hbreak) ?_
      rw [singleQuotedText, if_pos hbreak, hbreak]
    | false =>
      rcases isSpace_of_isPrintable hc hbreak with hspace | rfl
      · obtain ⟨q, hle, hq, hword⟩ := singleQuoted_word hn hg hcolumn out
          ((if c = '\'' then ['\'', '\''] else [c]) ++ (singleQuotedText n false rest ++ tail))
        obtain ⟨q', hle', hq', hletter⟩ := singleQuoted_letter (g := g) hq hspace out
          (singleQuotedText n false rest ++ tail)
        have hafter : Gap.After c {} := .blanks hbreak fun h => absurd rfl h
        obtain ⟨r, hrle, hread⟩ := ih hrest hfeed.2 hchain.2 (c :: (g.text.reverse ++ out))
          hafter fun _ => hq'
        refine ⟨r, hle.trans (hle'.trans hrle), ?_⟩
        rw [hbreak] at hread
        rw [singleQuotedText, hbreak, if_neg Bool.false_ne_true, List.append_assoc,
          List.append_assoc, hword, hletter, hread]
        simp [Gap.text]
      · refine hspaceCase rfl ?_
        have ha : isBreak a = false := by
          by_contra ha
          exact hchain.1.2 (by simpa using ha) rfl
        rw [singleQuotedText, ha]
        rfl

end ClusterView.Yaml
