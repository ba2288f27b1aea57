import ClusterView.Proofs.Yaml.Blocks
import ClusterView.Proofs.Yaml.Escaped
import ClusterView.Proofs.Yaml.Literal
import ClusterView.Proofs.Yaml.Plain
import ClusterView.Proofs.Yaml.Quoted

/-!
# The tokens of what is written

What the printer puts between two line ends is read back as tokens: a text in each of its styles
(`reads_scalarText`), an empty list or record (`reads_brackets`), the dash of an item
(`reads_item`), and a key with its colon (`reads_key`). Each lemma goes back from the lexer behind
the tokens to the one before them.
-/

namespace ClusterView.Yaml

variable {b : Blocks} {allowed : Bool} {p : Position} {next : List Char} {all : List Token}

/-! ## Begins of tokens -/

/-- The key that may begin before a token. -/
def Blocks.possibleKey (b : Blocks) (allowed : Bool) (p : Position) : Option PossibleKey :=
  if allowed then some ⟨b.tokens.length, p, b.indent == p.column⟩ else none

theorem noteKey_lexer (cs : List Char) : (b.lexer allowed none p cs).noteKey =
    some (b.lexer allowed (b.possibleKey allowed p) p cs) := by
  cases allowed <;> rfl

/-- To the right of its block a key is not required. -/
theorem Blocks.possibleKey_right (h : b.indent < p.column) :
    ∀ k ∈ b.possibleKey allowed p, k.required = false ∧ k.position = p := by
  intro k hk
  cases allowed with
  | false => cases hk
  | true =>
    cases hk
    have hne : b.indent ≠ p.column := by omega
    exact ⟨by simpa using hne, rfl⟩

theorem isDone_lexer (ts : List Token) {t : Token} (h : t ≠ .streamEnd) {key : Option PossibleKey}
    {cs : List Char} : ((b.add (ts ++ [t])).lexer allowed key p cs).isDone = false := by
  simp [Lexer.isDone, Blocks.lexer, Blocks.add, h]

/-- To the right of its block a token ends none. -/
theorem step_right {c : Char} {rest : List Char} (h : AtToken (c :: rest))
    (hcolumn : b.indent ≤ p.column) : (b.lexer allowed none p (c :: rest)).step =
      (b.lexer allowed none p (c :: rest)).readToken c rest := by
  rw [step_token h rfl, Blocks.close_of_le hcolumn]

/-! ## Scalars without quotes -/

theorem readToken_plain {l : Lexer} {c : Char} {rest : List Char} (h : BeginsPlain c rest)
    (hstart : l.position.column = 0 → c ≠ '-' ∧ c ≠ '.') (hflow : l.inFlow = false) :
    l.readToken c rest = l.plainScalar := by
  obtain ⟨hspace, hindicator, -, hat⟩ := h
  simp only [String.reduceToList, List.mem_cons, List.not_mem_nil, or_false, not_or] at hindicator
  have hbefore : ∀ d : Char, d = '?' ∨ d = ':' ∨ d = '-' →
      (decide (c = d) && atSpace rest) = false := by
    intro d hd
    by_cases hc : c = d
    · simp [hat (hc ▸ hd)]
    · simp [hc]
  have hmark : ∀ mark : Char, mark = '-' ∨ mark = '.' →
      (decide (l.position.column = 0) && atMark mark (c :: rest)) = false := by
    intro mark hmark
    by_cases hcolumn : l.position.column = 0
    · have hne : c ≠ mark := by
        rcases hmark with rfl | rfl
        · exact (hstart hcolumn).1
        · exact (hstart hcolumn).2
      rw [atMark_cons_of_ne hne, Bool.and_false]
    · simp [hcolumn]
  have hbegins : Lexer.beginsPlain false c rest = true := by
    unfold Lexer.beginsPlain
    split_ifs with hdash hother
    · cases rest with
      | nil => rfl
      | cons d more =>
        have hd : isSpace d = false := hat (.inr (.inr hdash))
        simp only [isSpace, Bool.or_eq_false_iff] at hd
        simp [hd.1]
    · have hcolon : c = '?' ∨ c = ':' ∨ c = '-' := by
        simp only [Bool.or_eq_true, decide_eq_true_eq] at hother
        exact hother.imp_right .inl
      simp [hat hcolon]
    · simp [hspace, isFlowIndicator, hindicator]
  unfold Lexer.readToken
  simp [hindicator, hbefore, hmark, hflow, hbegins]

theorem plainScalar_lexer (allowed : Bool) {cs : List Char} {s : ScannedPlain}
    (h : plain false (b.indent + 1) p {} [] cs = some s) :
    (b.lexer allowed none p cs).plainScalar =
      some ((b.add [.scalar (String.ofList s.scanned.text) true]).lexer s.endsLine
        (b.possibleKey allowed p) s.scanned.position s.scanned.rest) := by
  rw [Lexer.plainScalar, noteKey_lexer]
  simp only [Blocks.lexer, Lexer.inFlow, List.isEmpty_nil, Bool.not_true, Option.bind_eq_bind,
    Option.bind_some, h, Lexer.allowKey, Lexer.pushScalar, Lexer.push, List.push_toArray,
    Blocks.add]

/-- A text without quotes is a scalar up to the end of its line. -/
theorem reads_plain {cs : List Char} (h : IsLine cs) (hright : b.indent < p.column)
    (hcolumn : 0 < p.column)
    (hnext : ReadsLine (b.add [.scalar (String.ofList cs) true]) next all) :
    (b.lexer allowed none p (cs ++ '\n' :: next)).Reads all := by
  obtain ⟨k, more, rfl, hmore, hk, hreads⟩ := hnext
  have hread := plain_line (b.indent + 1) (p := p) (n := k) h (by omega) hcolumn hmore
    fun hne => by
      rw [Blocks.indent_add] at hk
      have := hk.resolve_left fun hnil => hne hnil.1
      omega
  obtain ⟨q, hq⟩ : ∃ q, ((p.along cs).step '\n').along (blanks k) = q := ⟨_, rfl⟩
  rw [hq] at hread
  have hline : p.line < q.line := by
    have hstep : ((p.along cs).step '\n').line = (p.along cs).line + 1 := by
      rw [Position.step_of_break _ rfl]
    have hbefore := p.line_le_along cs
    have hafter := ((p.along cs).step '\n').line_le_along (blanks k)
    rw [hq] at hafter
    omega
  have hqcolumn : q.column = k := by rw [← hq, column_along_margin _ rfl]
  obtain ⟨c, rest, rfl⟩ := List.exists_cons_of_ne_nil h.ne_nil
  rw [List.cons_append] at hread
  have hbegins := (h.begins c rest rfl).append ('\n' :: (blanks k ++ more))
  have htoken : AtToken (c :: (rest ++ '\n' :: (blanks k ++ more))) :=
    ⟨hbegins.isSpace, fun hc => hbegins.indicator (by simp [hc]), hbegins.mark⟩
  have hstep : (b.lexer allowed none p (c :: rest ++ '\n' :: (blanks k ++ more))).step =
      some ((b.add [.scalar (String.ofList (c :: rest)) true]).lexer true
        (b.possibleKey allowed p) q more) := by
    rw [List.cons_append, step_right htoken (Int.le_of_lt hright),
      readToken_plain hbegins (fun hzero => absurd hzero (Nat.ne_of_gt hcolumn)) rfl,
      plainScalar_lexer allowed hread]
  refine .next hstep (isDone_lexer [] (by simp)) ?_ ((hreads q hqcolumn).of_stale ?_)
  · simp [Blocks.lexer]
    omega
  · intro key hkey
    obtain ⟨hrequired, hposition⟩ := Blocks.possibleKey_right hright key hkey
    exact ⟨hrequired, hposition ▸ hline⟩

/-! ## Scalars between quotes and literal blocks -/

/-- Behind a scalar that ends inside of its line comes the end of the line. -/
theorem reads_inline {t : Token} (ht : t ≠ .streamEnd) {cs : List Char} {q : Position}
    (hstep : (b.lexer allowed none p cs).step =
      some ((b.add [t]).lexer false (b.possibleKey allowed p) q ('\n' :: next)))
    (hright : b.indent < p.column) (hline : p.line ≤ q.line) (hless : next.length + 1 < cs.length)
    (hnext : ReadsLine (b.add [t]) next all) : (b.lexer allowed none p cs).Reads all := by
  have hfeed : (q.step '\n').column = 0 := by rw [q.step_of_break rfl]
  refine .next hstep (isDone_lexer [] ht) hless ((hnext.reads hfeed).of_feed ?_)
  intro key hkey
  obtain ⟨hrequired, hposition⟩ := Blocks.possibleKey_right hright key hkey
  exact ⟨hrequired, hposition ▸ hline⟩

theorem quoted_lexer (single allowed : Bool) {quote : Char} {cs : List Char} {s : Scanned}
    (h : (if single then singleQuoted (p.step quote) {} [] cs
      else doubleQuoted (p.step quote) {} .outside [] cs) = some s) :
    (b.lexer allowed none p (quote :: cs)).quoted single =
      some ((b.add [.scalar (String.ofList s.text) false]).lexer false (b.possibleKey allowed p)
        s.position s.rest) := by
  rw [Lexer.quoted, noteKey_lexer]
  cases single <;> simp only [Bool.false_eq_true, if_false, if_true] at h <;>
    simp [Blocks.lexer, Lexer.skip, Lexer.allowKey, Lexer.pushScalar, Lexer.push, Blocks.add, h]

theorem block_lexer {cs : List Char} {s : Scanned}
    (h : blockScalar? false b.indent (p.step '|') cs = some s) :
    (b.lexer allowed none p ('|' :: cs)).block false =
      some ((b.add [.scalar (String.ofList s.text) false]).lexer true none s.position s.rest) := by
  rw [Lexer.block]
  simp [Blocks.lexer, Lexer.dropKey, Lexer.skip, Lexer.allowKey, Lexer.pushScalar, Lexer.push,
    Blocks.add, h]

theorem printable_of_isQuotable {cs : List Char} (h : isQuotable cs = true) :
    ∀ c ∈ cs, isPrintable c = true := by
  simp only [isQuotable, isBlockText, Bool.and_eq_true, List.all_eq_true] at h
  exact h.1.1

theorem reads_singleQuoted {cs : List Char} (h : isQuotable cs = true) (hfeed : '\n' ∉ cs)
    {n : Nat} (hn : 0 < n) (hright : b.indent < p.column)
    (hnext : ReadsLine (b.add [.scalar (String.ofList cs) false]) next all) :
    (b.lexer allowed none p ('\'' :: (singleQuotedText n false cs ++ '\n' :: next))).Reads all := by
  have hopen : p.step '\'' = ⟨p.index + 1, p.line, p.column + 1⟩ := p.step_of_not_break rfl
  have hchain : ('\'' :: cs).IsChain KeepsBlanks := by
    rw [List.isChain_cons]
    exact ⟨fun c _ => ⟨nofun, nofun⟩, isChain_keepsBlanks_of_isQuotable h⟩
  have htail : ('\n' :: next).head? ≠ some '\'' := by simp
  obtain ⟨q, hline, hread⟩ := singleQuoted_text hn htail (printable_of_isQuotable h) hfeed hchain
    (p := p.step '\'') (g := {}) [] (.blanks rfl fun hne => absurd rfl hne) fun _ => by
      rw [hopen]
      exact Nat.succ_pos _
  have hstep : (b.lexer allowed none p
      ('\'' :: (singleQuotedText n false cs ++ '\n' :: next))).step =
        some ((b.add [.scalar (String.ofList cs) false]).lexer false (b.possibleKey allowed p) q
          ('\n' :: next)) := by
    have htoken : ∀ l rest, Lexer.readToken l '\'' rest = l.quoted true := by
      intro l rest
      simp [Lexer.readToken, atMark_cons_of_ne]
    have hquoted := quoted_lexer true allowed (b := b) hread
    rw [step_right ⟨rfl, by decide, by decide⟩ (Int.le_of_lt hright), htoken]
    exact hquoted
  refine reads_inline (by simp) hstep hright ?_ ?_ hnext
  · rw [hopen] at hline
    exact hline
  · simp only [List.length_cons, List.length_append]
    omega

theorem reads_doubleQuoted (cs : List Char) (hright : b.indent < p.column)
    (hnext : ReadsLine (b.add [.scalar (String.ofList cs) false]) next all) :
    (b.lexer allowed none p ('"' :: (cs.flatMap escaped ++ '"' :: '\n' :: next))).Reads all := by
  have hopen : p.step '"' = ⟨p.index + 1, p.line, p.column + 1⟩ := p.step_of_not_break rfl
  have hread := doubleQuoted_text cs ('\n' :: next) (p := p.step '"') [] []
    (by rw [hopen]; exact Nat.succ_pos _)
  have hstep : (b.lexer allowed none p
      ('"' :: (cs.flatMap escaped ++ '"' :: '\n' :: next))).step =
        some ((b.add [.scalar (String.ofList cs) false]).lexer false (b.possibleKey allowed p)
          ((p.step '"').along (cs.flatMap escaped ++ ['"'])) ('\n' :: next)) := by
    have htoken : ∀ l rest, Lexer.readToken l '"' rest = l.quoted false := by
      intro l rest
      simp [Lexer.readToken, atMark_cons_of_ne]
    have hquoted := quoted_lexer false allowed (b := b) hread
    rw [step_right ⟨rfl, by decide, by decide⟩ (Int.le_of_lt hright), htoken]
    exact hquoted
  refine reads_inline (by simp) hstep hright ?_ ?_ hnext
  · exact Nat.le_trans (p.line_le_step '"') (Position.line_le_along _ _)
  · simp only [List.length_cons, List.length_append]
    omega

theorem reads_literal {cs : List Char} {c : Nat} (hne : cs ≠ [])
    (hprintable : ∀ d ∈ cs, isPrintable d = true) (hindent : b.indent = c) (hright : c < p.column)
    (hnext : ReadsLine (b.add [.scalar (String.ofList cs) false]) next all) :
    (b.lexer allowed none p ('|' :: (indentationMark cs ++ chompMark cs ++
      '\n' :: (literalLines (c + 2) true cs ++ next)))).Reads all := by
  obtain ⟨k, more, rfl, hmore, hk, hreads⟩ := hnext
  have hle : k ≤ c := by
    rw [Blocks.indent_add] at hk
    omega
  obtain ⟨q, hq, hread⟩ := literal_text hne hprintable hle hmore (p.step '|')
  rw [← hindent] at hread
  have hstep : (b.lexer allowed none p ('|' :: (indentationMark cs ++ chompMark cs ++
      '\n' :: (literalLines (c + 2) true cs ++ (blanks k ++ more))))).step =
        some ((b.add [.scalar (String.ofList cs) false]).lexer true none q more) := by
    have htoken : ∀ (l : Lexer) (rest : List Char), l.inFlow = false →
        l.readToken '|' rest = l.block false := by
      intro l rest hflow
      simp [Lexer.readToken, atMark_cons_of_ne, hflow]
    rw [step_right ⟨rfl, by decide, by decide⟩ (by omega), htoken _ _ rfl, block_lexer hread]
  refine .next hstep (isDone_lexer [] (by simp)) ?_ (hreads q hq)
  simp only [Blocks.lexer, List.length_cons, List.length_append]
  omega

/-! ## Scalars -/

/-- Whether a text is written without quotes. -/
def isPlainStyle (s : String) : Bool := Style.ofText s = .plain

/-- What is known of a text by its style. -/
def Style.Suits (s : String) : Style → Prop
  | .plain => isPlainText s.toList = true
  | .singleQuoted => isQuotable s.toList = true ∧ '\n' ∉ s.toList
  | .doubleQuoted => True
  | .literal => isLiteral s.toList = true ∧ '\n' ∈ s.toList

theorem Style.suits_ofText (s : String) : (Style.ofText s).Suits s := by
  unfold Style.ofText
  dsimp only
  split_ifs with hfeed hliteral hplain hquotable
  · exact ⟨hliteral, by simpa using hfeed⟩
  · trivial
  · simp only [Bool.and_eq_true] at hplain
    exact hplain.2
  · exact ⟨hquotable, by simpa using hfeed⟩
  · trivial

/-- A text is read back as a scalar that is plain only if it is written without quotes. -/
theorem reads_scalarText (allowed : Bool) {s : String} {c : Nat} (hindent : b.indent = c)
    (hright : c < p.column) (hnext : ReadsLine (b.add [.scalar s (isPlainStyle s)]) next all) :
    (b.lexer allowed none p ((scalarText (c + 2) s).toList ++ next)).Reads all := by
  have hright' : b.indent < p.column := by omega
  have hsuits := Style.suits_ofText s
  have hscalar : s = String.ofList s.toList := String.ofList_toList.symm
  unfold isPlainStyle at hnext
  unfold scalarText
  rw [String.toList_ofList]
  cases hstyle : Style.ofText s with
  | plain =>
    rw [hstyle] at hsuits hnext
    rw [hscalar] at hnext
    simpa using reads_plain (isLine_of_isPlainText hsuits) hright' (by omega) hnext
  | singleQuoted =>
    rw [hstyle] at hsuits hnext
    rw [hscalar] at hnext
    simpa using reads_singleQuoted hsuits.1 hsuits.2 (Nat.succ_pos (c + 1)) hright' hnext
  | doubleQuoted =>
    rw [hstyle] at hnext
    rw [hscalar] at hnext
    simpa using reads_doubleQuoted s.toList hright' hnext
  | literal =>
    rw [hstyle] at hsuits hnext
    rw [hscalar] at hnext
    obtain ⟨hliteral, hfeed⟩ := hsuits
    simp only [isLiteral, isBlockText, Bool.and_eq_true, List.all_eq_true] at hliteral
    simpa using reads_literal (List.ne_nil_of_mem hfeed) hliteral.1.1 hindent hright hnext

/-! ## Keys -/

theorem insertIdx_behind (ts us : List Token) (t : Token) :
    (ts ++ us).insertIdx ts.length t = ts ++ t :: us := by
  induction ts with
  | nil => rfl
  | cons a ts ih =>
    rw [List.cons_append, List.length_cons, List.insertIdx_succ_cons, ih]
    rfl

/-- The colon of a key: the key is put before what was read since its begin. -/
theorem value_lexer {c : Nat} (hp : p.column = c) {required : Bool} {t : Token} {q : Position}
    {rest : List Char} :
    ((b.add [t]).lexer false (some ⟨b.tokens.length, p, required⟩) q (':' :: rest)).value =
      some (((b.enter c .blockMapping).add [.key, t, .value]).lexer false none (q.step ':')
        rest) := by
  unfold Lexer.value Blocks.enter
  by_cases hlt : b.indent < c
  · simp [Blocks.lexer, Blocks.add, Blocks.inside, Lexer.openBlock, Lexer.inFlow, Lexer.allowKey,
      Lexer.take, Lexer.skip, Lexer.push, hp, hlt, insertIdx_behind]
  · simp [Blocks.lexer, Blocks.add, Lexer.openBlock, Lexer.inFlow, Lexer.allowKey, Lexer.take,
      Lexer.skip, Lexer.push, hp, hlt, insertIdx_behind]

/-- A key is read with its colon; the first one of a record begins a block. -/
theorem reads_key {name : String} (h : isKeyText name.toList = true) {c : Nat}
    (hp : p.column = c) (hle : b.indent ≤ c) {rest : List Char} (hrest : atSpace rest = true)
    (hnext : ∀ q : Position, c < q.column →
      (((b.enter c .blockMapping).add [.key, .scalar name true, .value]).lexer false none q
        rest).Reads all) :
    (b.lexer true none p (name.toList ++ ':' :: rest)).Reads all := by
  obtain ⟨hne, hreach, hall⟩ := isKeyText_iff.1 h
  have hread := plain_key (b.indent + 1) (p := p) h (by omega) hrest
  have hbreak : ∀ d ∈ name.toList, isBreak d = false := fun d hd =>
    isBreak_eq_false (isSpace_of_isAlpha (hall d hd))
  have hend := p.along_of_not_break hbreak
  have hlength : 0 < name.toList.length := List.length_pos_iff.2 hne
  obtain ⟨q, hq⟩ : ∃ q, p.along name.toList = q := ⟨_, rfl⟩
  rw [hq] at hend hread
  have hcolumn : c < q.column := by
    rw [hend]
    dsimp only
    omega
  -- The name is read first, as a scalar that may be a key.
  have hname : (b.lexer true none p (name.toList ++ ':' :: rest)).step =
      some ((b.add [.scalar name true]).lexer false
        (some ⟨b.tokens.length, p, b.indent == p.column⟩) q (':' :: rest)) := by
    obtain ⟨d, more, hcons⟩ := List.exists_cons_of_ne_nil hne
    have hd := hall d (by simp [hcons])
    have hbegins := beginsPlain_of_isAlpha hd (more ++ ':' :: rest)
    have htoken : AtToken (d :: (more ++ ':' :: rest)) :=
      ⟨hbegins.isSpace, ne_of_isAlpha hd (by decide), hbegins.mark⟩
    have hscalar := plainScalar_lexer true hread
    rw [String.ofList_toList, hcons] at hscalar
    rw [hcons, List.cons_append, step_right htoken (by omega),
      readToken_plain hbegins
        (fun _ => ⟨ne_of_isAlpha hd (by decide), ne_of_isAlpha hd (by decide)⟩) rfl]
    exact hscalar
  have hcolon : ((b.add [.scalar name true]).lexer false
        (some ⟨b.tokens.length, p, b.indent == p.column⟩) q (':' :: rest)).step =
      some (((b.enter c .blockMapping).add [.key, .scalar name true, .value]).lexer false none
        (q.step ':') rest) := by
    have hfresh : PossibleKey.isStale ⟨b.tokens.length, p, b.indent == p.column⟩ q = false := by
      simp only [PossibleKey.isStale, hend, Bool.or_eq_false_iff, decide_eq_false_iff_not]
      omega
    have hkeep : Lexer.keepFresh q (some ⟨b.tokens.length, p, b.indent == p.column⟩) =
        some (some ⟨b.tokens.length, p, b.indent == p.column⟩) := by
      simp [Lexer.keepFresh, hfresh]
    have htoken : ∀ l : Lexer, l.readToken ':' rest = l.value := by
      intro l
      simp [Lexer.readToken, atMark_cons_of_ne, hrest]
    have hclose : (b.add [.scalar name true]).close q.column = b.add [.scalar name true] :=
      Blocks.close_of_le (by rw [Blocks.indent_add]; omega)
    rw [step_token ⟨rfl, by decide, by decide⟩ hkeep, hclose, htoken, value_lexer hp]
  have hless : rest.length + 1 < (name.toList ++ ':' :: rest).length := by
    simp only [List.length_append, List.length_cons]
    omega
  have hbehind : c < (q.step ':').column := by
    rw [q.step_of_not_break rfl]
    exact Nat.lt_succ_of_lt hcolumn
  exact .next hname (isDone_lexer [] (by simp)) hless
    (.next hcolon (isDone_lexer [.key, .scalar name true] (by simp))
      (Nat.lt_succ_self rest.length) (hnext _ hbehind))

/-! ## Items -/

theorem item_lexer {c : Nat} (hp : p.column = c) {rest : List Char} :
    (b.lexer true none p ('-' :: rest)).item =
      some (((b.enter c .blockSequence).add [.item]).lexer true none (p.step '-') rest) := by
  unfold Lexer.item Lexer.beginAt Blocks.enter
  by_cases hlt : b.indent < c
  · simp [Blocks.lexer, Blocks.add, Blocks.inside, Lexer.openBlock, Lexer.inFlow, Lexer.dropKey,
      Lexer.allowKey, Lexer.take, Lexer.skip, Lexer.push, hp, hlt]
  · simp [Blocks.lexer, Blocks.add, Lexer.openBlock, Lexer.inFlow, Lexer.dropKey, Lexer.allowKey,
      Lexer.take, Lexer.skip, Lexer.push, hp, hlt]

/-- The dash of an item is read; the first one of a list begins a block, unless the list stands in
the column of its key. -/
theorem reads_item {c : Nat} (hp : p.column = c) (hle : b.indent ≤ c) {rest : List Char}
    (hnext : ∀ q : Position, q.column = c + 2 →
      (((b.enter c .blockSequence).add [.item]).lexer true none q rest).Reads all) :
    (b.lexer true none p ('-' :: ' ' :: rest)).Reads all := by
  have hmark : atMark '-' ('-' :: ' ' :: rest) = false := by
    unfold atMark
    split
    next heq =>
      obtain ⟨-, rfl, -⟩ : '-' = _ ∧ ' ' = _ ∧ _ := by simpa using heq
      simp
    next => rfl
  have hstep : (b.lexer true none p ('-' :: ' ' :: rest)).step =
      some (((b.enter c .blockSequence).add [.item]).lexer true none (p.step '-')
        (' ' :: rest)) := by
    have htoken : ∀ l : Lexer, l.readToken '-' (' ' :: rest) = l.item := by
      intro l
      simp [Lexer.readToken, hmark, atMark_cons_of_ne, atSpace]
    rw [step_right ⟨rfl, by decide, by decide⟩ (by omega), htoken, item_lexer hp]
  have hcolumn : ((p.step '-').step ' ').column = c + 2 := by
    rw [p.step_of_not_break rfl, Position.step_of_not_break _ rfl, ← hp]
  exact .next hstep (isDone_lexer [] (by simp)) (Nat.lt_succ_self _)
    (hnext _ hcolumn).of_blank

/-! ## Empty collections -/

/-- A lexer between brackets. -/
def Blocks.bracketed (b : Blocks) (key : Option PossibleKey) (p : Position) (cs : List Char) :
    Lexer :=
  { b.lexer true none p cs with outerKeys := [key] }

/-- Between brackets no block ends. -/
theorem step_bracketed {key : Option PossibleKey} {c : Char} {rest : List Char}
    (h : AtToken (c :: rest)) (hkey : Lexer.keepFresh p key = some key) :
    (b.bracketed key p (c :: rest)).step =
      (b.bracketed key p (c :: rest)).readToken c rest := by
  have hskip : (b.bracketed key p (c :: rest)).skipSpaces = b.bracketed key p (c :: rest) := by
    simp only [Lexer.skipSpaces, Blocks.bracketed, Blocks.lexer, Lexer.skipSpacesFrom_atToken h]
  have hdrop : (b.bracketed key p (c :: rest)).dropStaleKeys =
      some (b.bracketed key p (c :: rest)) := by
    have hnone : Lexer.keepFresh p none = some none := rfl
    simp [Lexer.dropStaleKeys, Blocks.bracketed, Blocks.lexer, hkey, hnone]
  rw [Lexer.step, hskip, hdrop]
  rfl

/-- Two brackets with nothing between them; `t` and `t'` are their tokens. -/
theorem reads_brackets {opening closing : Char} {t t' : Token}
    (hopening : ∀ rest, AtToken (opening :: rest)) (hclosing : ∀ rest, AtToken (closing :: rest))
    (hopen : ∀ l rest, Lexer.readToken l opening rest = l.openBracket t)
    (hclose : ∀ l rest, Lexer.readToken l closing rest = l.closeBracket t')
    (ht : t ≠ .streamEnd) (ht' : t' ≠ .streamEnd) (hright : b.indent < p.column)
    (hnext : ReadsLine (b.add [t, t']) next all) :
    (b.lexer allowed none p (opening :: closing :: '\n' :: next)).Reads all := by
  have hstep : p.step opening = ⟨p.index + 1, p.line, p.column + 1⟩ :=
    p.step_of_not_break (isBreak_eq_false (hopening []).1)
  have hfirst : (b.lexer allowed none p (opening :: closing :: '\n' :: next)).step =
      some ((b.add [t]).bracketed (b.possibleKey allowed p) (p.step opening)
        (closing :: '\n' :: next)) := by
    rw [step_right (hopening _) (by omega), hopen, Lexer.openBracket, noteKey_lexer]
    simp [Blocks.bracketed, Blocks.lexer, Lexer.allowKey, Lexer.take, Lexer.skip, Lexer.push,
      Blocks.add]
  have hfresh : Lexer.keepFresh (p.step opening) (b.possibleKey allowed p) =
      some (b.possibleKey allowed p) := by
    cases allowed with
    | false => rfl
    | true => simp [Blocks.possibleKey, Lexer.keepFresh, PossibleKey.isStale, hstep, keyReach]
  have hsecond : ((b.add [t]).bracketed (b.possibleKey allowed p) (p.step opening)
        (closing :: '\n' :: next)).step =
      some ((b.add [t, t']).lexer false (b.possibleKey allowed p)
        ((p.step opening).step closing) ('\n' :: next)) := by
    rw [step_bracketed (hclosing _) hfresh, hclose, Lexer.closeBracket]
    simp [Blocks.bracketed, Blocks.lexer, Lexer.dropKey, Lexer.allowKey, Lexer.take, Lexer.skip,
      Lexer.push, Blocks.add]
  have hfeed : (((p.step opening).step closing).step '\n').column = 0 := by
    rw [Position.step_of_break _ rfl]
  refine .next hfirst (by simp [Lexer.isDone, Blocks.bracketed, Blocks.lexer, Blocks.add, ht])
    (Nat.lt_succ_self _) (.next hsecond (isDone_lexer [t] ht') (Nat.lt_succ_self _)
      ((hnext.reads hfeed).of_feed fun key hkey => ?_))
  obtain ⟨hrequired, hposition⟩ := Blocks.possibleKey_right hright key hkey
  rw [hposition]
  exact ⟨hrequired, Nat.le_trans (p.line_le_step opening) (Position.line_le_step _ closing)⟩

/-- An empty list is read back. -/
theorem reads_noItems (allowed : Bool) (hright : b.indent < p.column)
    (hnext : ReadsLine (b.add [.flowSequence, .flowSequenceEnd]) next all) :
    (b.lexer allowed none p ('[' :: ']' :: '\n' :: next)).Reads all := by
  refine reads_brackets (fun _ => ⟨rfl, by decide, by decide⟩)
    (fun _ => ⟨rfl, by decide, by decide⟩) (fun l rest => ?_) (fun l rest => ?_) (by simp)
    (by simp) hright hnext
  · simp [Lexer.readToken, atMark_cons_of_ne]
  · simp [Lexer.readToken, atMark_cons_of_ne]

/-- An empty record is read back. -/
theorem reads_noFields (allowed : Bool) (hright : b.indent < p.column)
    (hnext : ReadsLine (b.add [.flowMapping, .flowMappingEnd]) next all) :
    (b.lexer allowed none p ('\x7b' :: '\x7d' :: '\n' :: next)).Reads all := by
  refine reads_brackets (fun _ => ⟨rfl, by decide, by decide⟩)
    (fun _ => ⟨rfl, by decide, by decide⟩) (fun l rest => ?_) (fun l rest => ?_) (by simp)
    (by simp) hright hnext
  · simp [Lexer.readToken, atMark_cons_of_ne]
  · simp [Lexer.readToken, atMark_cons_of_ne]

end ClusterView.Yaml
