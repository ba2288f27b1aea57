import ClusterView.Proofs.Yaml.Printable

/-!
# The tokens of a tree

A tree is written as the tokens that `Tree.tokens` says, and these are read back from its text
(`Token.ofText_toText`). The induction is on the tree, for all columns and all blocks around it:
`Tree.ReadsBack` says that the text of a tree is passed by as its tokens, given that the text after
it is read.
-/

namespace ClusterView.Yaml

namespace Tree

/-! ## Tokens -/

/-- The tokens of a value, as those of a part of a document: a list begins a block. -/
def asPart (t : Tree) (ts : List Token) : List Token :=
  match t with
  | .list (_ :: _) => .blockSequence :: ts ++ [.blockEnd]
  | _ => ts

mutual

/-- The tokens of a tree behind a key: a list stands in the column of its key and begins no
block. -/
def valueTokens : Tree → List Token
  | .text s => [.scalar s (isPlainStyle s)]
  | .flag value => [.scalar (if value then "true" else "false") true]
  | .list items => if items.isEmpty then [.flowSequence, .flowSequenceEnd] else itemTokens items
  | .record fields =>
    if fields.isEmpty then [.flowMapping, .flowMappingEnd]
    else .blockMapping :: fieldTokens fields ++ [.blockEnd]

/-- The tokens of some items. -/
def itemTokens : List Tree → List Token
  | [] => []
  | item :: rest => .item :: asPart item (valueTokens item) ++ itemTokens rest

/-- The tokens of some fields. -/
def fieldTokens : List (String × Tree) → List Token
  | [] => []
  | (name, value) :: rest =>
    .key :: .scalar name true :: .value :: valueTokens value ++ fieldTokens rest

end

/-- The tokens of a tree. -/
def tokens (t : Tree) : List Token := asPart t (valueTokens t)

/-! ## Trees that are read back -/

/-- Whether a tree is a list or a record. -/
def IsCollection : Tree → Prop
  | .list _ | .record _ => True
  | .text _ | .flag _ => False

/-- The text of a tree is passed by as its tokens, both where a part of a document begins in a
column and behind a key. A text that is not behind a key is an item of the block around it. -/
structure ReadsBack (t : Tree) : Prop where
  block {b : Blocks} {c : Nat} {p : Position} {next : List Char} {all : List Token}
    (hindent : b.indent < c) (hscalar : t.IsCollection ∨ ∃ n : Nat, b.indent = n ∧ c = n + 2)
    (hp : p.column = c) (hnext : ReadsLine (b.add t.tokens) next all) :
    (b.lexer true none p ((block c t).toList ++ next)).Reads all
  field {b : Blocks} {c : Nat} {p : Position} {next : List Char} {all : List Token}
    (hindent : b.indent = c) (hright : c < p.column)
    (hnext : ReadsLine (b.add t.valueTokens) next all) :
    (b.lexer false none p ((field c t).toList ++ next)).Reads all

variable {b : Blocks} {c : Nat} {p : Position} {next : List Char} {all : List Token}

/-! ## Lists -/

/-- The lines of items, in the column of the block around them. -/
theorem reads_itemLines {items : List Tree} (h : ∀ t ∈ items, t.ReadsBack) (hb : b.indent = c)
    (hnext : ReadsLine (b.add (itemTokens items)) next all) :
    ReadsLine b ((itemLines c items).toList ++ next) all := by
  induction items generalizing b with
  | nil => simpa [itemLines, itemTokens, Blocks.add] using hnext
  | cons item rest ih =>
    obtain ⟨hitem, hrest⟩ := List.forall_mem_cons.1 h
    refine ⟨c, '-' :: ' ' :: ((block (c + 2) item).toList ++ ((itemLines c rest).toList ++ next)),
      ?_, ⟨rfl, by decide, by decide⟩, .inr (by omega), fun p hp => ?_⟩
    · simp [itemLines]
    · refine reads_item hp (by omega) fun q hq => ?_
      rw [Blocks.enter_self hb]
      refine hitem.block ?_ (.inr ⟨c, hb, rfl⟩) hq (ih hrest hb ?_)
      · rw [Blocks.indent_add]
        omega
      · rw [Blocks.add_add, Blocks.add_add]
        simpa [itemTokens, tokens] using hnext

/-- A list with its first item. -/
theorem reads_list {item : Tree} {rest : List Tree} (h : ∀ t ∈ item :: rest, t.ReadsBack)
    (hindent : b.indent < c) (hp : p.column = c)
    (hnext : ReadsLine (b.add (tokens (.list (item :: rest)))) next all) :
    (b.lexer true none p ((block c (.list (item :: rest))).toList ++ next)).Reads all := by
  obtain ⟨hitem, hrest⟩ := List.forall_mem_cons.1 h
  have htext : (block c (.list (item :: rest))).toList ++ next =
      '-' :: ' ' :: ((block (c + 2) item).toList ++ ((itemLines c rest).toList ++ next)) := by
    simp [block]
  rw [htext]
  refine reads_item hp (Int.le_of_lt hindent) fun q hq => ?_
  rw [Blocks.enter_of_lt hindent, Blocks.inside_add]
  refine hitem.block ?_ (.inr ⟨c, rfl, rfl⟩) hq (reads_itemLines hrest rfl ?_)
  · rw [Blocks.indent_inside]
    omega
  · rw [Blocks.inside_add, Blocks.inside_add]
    refine ReadsLine.inside ?_ hindent
    simpa [tokens, asPart, valueTokens, itemTokens] using hnext

/-! ## Records -/

theorem atToken_key {name : String} (h : isKeyText name.toList = true) (rest : List Char) :
    AtToken (name.toList ++ rest) := by
  obtain ⟨hne, -, hall⟩ := isKeyText_iff.1 h
  obtain ⟨c, more, hcons⟩ := List.exists_cons_of_ne_nil hne
  have hc := hall c (by simp [hcons])
  rw [hcons]
  exact ⟨isSpace_of_isAlpha hc, ne_of_isAlpha hc (by decide), ne_of_isAlpha hc (by decide)⟩

theorem atSpace_field (c : Nat) (value : Tree) (rest : List Char) :
    atSpace ((field c value).toList ++ rest) = true := by
  cases value with
  | text s => simp [field, atSpace, isSpace, isBlank]
  | flag value => cases value <;> simp [field, atSpace, isSpace, isBlank]
  | list items => cases items <;> simp [field, atSpace, isSpace, isBlank, isBreak]
  | record fields => cases fields <;> simp [field, atSpace, isSpace, isBlank, isBreak]

/-- The lines of fields, in the column of the block around them. -/
theorem reads_fieldLines {fields : List (String × Tree)}
    (hnames : ∀ f ∈ fields, isKeyText f.1.toList = true) (h : ∀ f ∈ fields, f.2.ReadsBack)
    (hb : b.indent = c) (hnext : ReadsLine (b.add (fieldTokens fields)) next all) :
    ReadsLine b ((fieldLines c fields).toList ++ next) all := by
  induction fields generalizing b with
  | nil => simpa [fieldLines, fieldTokens, Blocks.add] using hnext
  | cons f rest ih =>
    obtain ⟨name, value⟩ := f
    obtain ⟨hname, hnames⟩ := List.forall_mem_cons.1 hnames
    obtain ⟨hvalue, hrest⟩ := List.forall_mem_cons.1 h
    refine ⟨c, name.toList ++ ':' :: ((field c value).toList ++
      ((fieldLines c rest).toList ++ next)), ?_, atToken_key hname _, .inr (by omega),
      fun p hp => ?_⟩
    · simp [fieldLines]
    · refine reads_key hname hp (by omega) (atSpace_field ..) fun q hq => ?_
      rw [Blocks.enter_self hb]
      refine hvalue.field hb hq (ih hnames hrest hb ?_)
      rw [Blocks.add_add, Blocks.add_add]
      simpa [fieldTokens] using hnext

/-- A record with its first field. -/
theorem reads_record {name : String} {value : Tree} {rest : List (String × Tree)}
    (hnames : ∀ f ∈ (name, value) :: rest, isKeyText f.1.toList = true)
    (h : ∀ f ∈ (name, value) :: rest, f.2.ReadsBack) (hindent : b.indent < c) (hp : p.column = c)
    (hnext : ReadsLine (b.add (tokens (.record ((name, value) :: rest)))) next all) :
    (b.lexer true none p ((block c (.record ((name, value) :: rest))).toList ++ next)).Reads
      all := by
  obtain ⟨hname, hnames⟩ := List.forall_mem_cons.1 hnames
  obtain ⟨hvalue, hrest⟩ := List.forall_mem_cons.1 h
  have htext : (block c (.record ((name, value) :: rest))).toList ++ next =
      name.toList ++ ':' :: ((field c value).toList ++ ((fieldLines c rest).toList ++ next)) := by
    simp [block]
  rw [htext]
  refine reads_key hname hp (Int.le_of_lt hindent) (atSpace_field ..) fun q hq => ?_
  rw [Blocks.enter_of_lt hindent, Blocks.inside_add]
  refine hvalue.field rfl hq (reads_fieldLines hnames hrest rfl ?_)
  rw [Blocks.inside_add, Blocks.inside_add]
  refine ReadsLine.inside ?_ hindent
  simpa [tokens, asPart, valueTokens, fieldTokens] using hnext

/-! ## Trees -/

/-- A truth value is a plain scalar. -/
theorem reads_flag (allowed : Bool) {value : Bool} (hright : b.indent < p.column)
    (hcolumn : 0 < p.column)
    (hnext : ReadsLine (b.add [.scalar (if value then "true" else "false") true]) next all) :
    (b.lexer allowed none p ((if value then "true" else "false").toList ++ '\n' :: next)).Reads
      all := by
  have hkey : isKeyText (if value then "true" else "false").toList = true := by
    cases value <;> decide
  refine reads_plain (isLine_of_isKeyText hkey) hright hcolumn ?_
  rwa [String.ofList_toList]

theorem readsBack_text (s : String) : ReadsBack (.text s) where
  block hindent hscalar hp hnext := by
    obtain ⟨n, hn, rfl⟩ := hscalar.resolve_left id
    exact reads_scalarText true hn (by omega) hnext
  field {b c p next all} hindent hright hnext := by
    have hp : c < (p.step ' ').column := by
      rw [p.step_of_not_break rfl]
      exact Nat.lt_succ_of_lt hright
    have hblank := (reads_scalarText false hindent hp hnext).of_blank
    simpa [field] using hblank

theorem readsBack_flag (value : Bool) : ReadsBack (.flag value) where
  block {b c p next all} hindent hscalar hp hnext := by
    obtain ⟨n, hn, rfl⟩ := hscalar.resolve_left id
    have hread := reads_flag true (p := p) (by omega) (by omega) hnext
    cases value <;> simpa [block] using hread
  field {b c p next all} hindent hright hnext := by
    have hp : (p.step ' ').column = p.column + 1 := by rw [p.step_of_not_break rfl]
    have hblank := (reads_flag false (p := p.step ' ') (by omega) (by omega)
      hnext).of_blank
    cases value <;> simpa [field] using hblank

theorem readsBack_list {items : List Tree} (h : ∀ t ∈ items, t.ReadsBack) :
    ReadsBack (.list items) where
  block {b c p next all} hindent _ hp hnext := by
    cases items with
    | nil =>
      have hread := reads_noItems true (p := p) (by omega) hnext
      simpa [block] using hread
    | cons item rest => exact reads_list h hindent hp hnext
  field {b c p next all} hindent hright hnext := by
    cases items with
    | nil =>
      have hp : (p.step ' ').column = p.column + 1 := by rw [p.step_of_not_break rfl]
      have hblank := (reads_noItems false (p := p.step ' ') (by omega) hnext).of_blank
      simpa [field] using hblank
    | cons item rest =>
      have hp : (p.step '\n').column = 0 := by rw [p.step_of_break rfl]
      have htext : (field c (.list (item :: rest))).toList ++ next =
          '\n' :: ((itemLines c (item :: rest)).toList ++ next) := by
        simp [field, itemLines]
      rw [htext]
      exact ((reads_itemLines h hindent hnext).reads hp).of_feed (by simp)

theorem readsBack_record {fields : List (String × Tree)}
    (hnames : ∀ f ∈ fields, isKeyText f.1.toList = true) (h : ∀ f ∈ fields, f.2.ReadsBack) :
    ReadsBack (.record fields) where
  block {b c p next all} hindent _ hp hnext := by
    cases fields with
    | nil =>
      have hread := reads_noFields true (p := p) (by omega) hnext
      simpa [block] using hread
    | cons f rest => exact reads_record hnames h hindent hp hnext
  field {b c p next all} hindent hright hnext := by
    cases fields with
    | nil =>
      have hp : (p.step ' ').column = p.column + 1 := by rw [p.step_of_not_break rfl]
      have hblank :=
        (reads_noFields false (p := p.step ' ') (by omega) hnext).of_blank
      simpa [field] using hblank
    | cons f rest =>
      obtain ⟨name, value⟩ := f
      -- The record begins on the next line, two columns to the right of its key.
      have hp := column_along_margin p (c := '\n') rfl (c + 2)
      have htext : (field c (.record ((name, value) :: rest))).toList ++ next =
          '\n' :: (blanks (c + 2) ++
            ((block (c + 2) (.record ((name, value) :: rest))).toList ++ next)) := by
        simp [field, block]
      rw [htext]
      exact (reads_record hnames h (by omega) hp hnext).of_blanks.of_feed (by simp)

theorem Keyed.readsBack {t : Tree} (h : t.Keyed) : t.ReadsBack := by
  induction h with
  | text s => exact readsBack_text s
  | flag value => exact readsBack_flag value
  | list _ ih => exact readsBack_list ih
  | record hnames _ ih => exact readsBack_record hnames ih

/-- The text of a list or record is read as its tokens, from the begin of the text to its end. -/
theorem run_toText {t : Tree} (h : t.Keyed) (hcollection : t.IsCollection) {n : Nat}
    (hn : t.toText.toList.length < n) :
    (Lexer.run n { rest := t.toText.toList }).toList = t.tokens ++ [.streamEnd] := by
  let b : Blocks := ⟨[], -1, []⟩
  have hclose : ((b.add t.tokens).close (-1)) = b.add t.tokens :=
    Blocks.close_of_le (Int.le_refl _)
  have hend := readsLine_end (b := b.add t.tokens)
  rw [hclose] at hend
  have hreads := h.readsBack.block (b := b) (c := 0) (p := {}) (by decide) (.inl hcollection) rfl
    hend
  rw [List.append_nil] at hreads
  exact hreads.run_eq hn

end Tree

/-- The text of a list or record has the tokens of the tree. -/
theorem Token.ofText_toText {t : Tree} (h : t.Keyed) (hcollection : t.IsCollection) :
    Token.ofText t.toText = t.tokens ++ [.streamEnd] := by
  have hwritten : ∀ c ∈ t.toText.toList, isWritten c = true := fun c hc =>
    isWritten_of_isPrintable (List.all_eq_true.1 (h.isPrintable.block 0) c hc)
  have hallowed : t.toText.toList.all isAllowed = true :=
    List.all_eq_true.2 fun c hc => (isWritten_iff.1 (hwritten c hc)).1
  rw [Token.ofText]
  simp only [hallowed, if_true, normalize_eq hwritten]
  exact Tree.run_toText h hcollection (Nat.lt_succ_self _)

end ClusterView.Yaml
