import ClusterView.Proofs.Yaml.Lexing

/-!
# Characters of the printer

All characters that the printer writes are printable (`all_scalarText`, `Tree.Keyed.isPrintable`),
so none of them is refused or changed before a text is read.
-/

namespace ClusterView.Yaml

/-! ## Scalars -/

theorem all_blanks (n : Nat) : (blanks n).all isPrintable = true := by
  simp only [blanks, List.all_eq_true]
  intro c hc
  rw [List.eq_of_mem_replicate hc]
  rfl

theorem all_singleQuotedText {cs : List Char} (h : cs.all isPrintable = true) (n : Nat)
    (afterBreak : Bool) : (singleQuotedText n afterBreak cs).all isPrintable = true := by
  have hquote : isPrintable '\'' = true := rfl
  induction cs generalizing afterBreak with
  | nil => cases afterBreak <;> simp [singleQuotedText, all_blanks, hquote]
  | cons c rest ih =>
    rw [List.all_cons, Bool.and_eq_true] at h
    rw [singleQuotedText]
    split_ifs <;> simp [ih h.2, h.1, all_blanks, hquote]

theorem all_literalLines {cs : List Char} (h : cs.all isPrintable = true) (n : Nat)
    (afterBreak : Bool) : (literalLines n afterBreak cs).all isPrintable = true := by
  have hfeed : isPrintable '\n' = true := rfl
  induction cs generalizing afterBreak with
  | nil => cases afterBreak <;> simp [literalLines, hfeed]
  | cons c rest ih =>
    rw [List.all_cons, Bool.and_eq_true] at h
    rw [literalLines]
    split_ifs <;> simp [ih h.2, h.1, all_blanks]

theorem all_marks (cs : List Char) :
    (indentationMark cs ++ chompMark cs).all isPrintable = true := by
  rw [chompMark_eq, indentationMark]
  split_ifs <;> cases Chomp.ofText cs <;> rfl

theorem isQuotable_of_isPlainText {cs : List Char} (h : isPlainText cs = true) :
    isQuotable cs = true := by
  simp only [isPlainText, Bool.and_eq_true] at h
  exact h.1.1.1.1.1.1

/-- A text is written with printable characters in each style. -/
theorem all_scalarText (n : Nat) (s : String) :
    (scalarText n s).toList.all isPrintable = true := by
  have hfeed : isPrintable '\n' = true := rfl
  have hquotable : ∀ {cs : List Char}, isQuotable cs = true → cs.all isPrintable = true :=
    fun h => List.all_eq_true.2 (printable_of_isQuotable h)
  have hsuits := Style.suits_ofText s
  unfold scalarText
  rw [String.toList_ofList]
  cases hstyle : Style.ofText s with
  | plain =>
    rw [hstyle] at hsuits
    simp [hquotable (isQuotable_of_isPlainText hsuits), hfeed]
  | singleQuoted =>
    rw [hstyle] at hsuits
    have hquote : isPrintable '\'' = true := rfl
    simp [all_singleQuotedText (hquotable hsuits.1), hfeed, hquote]
  | doubleQuoted =>
    have hquote : isPrintable '"' = true := rfl
    simpa [hfeed, hquote] using fun c _ d hd => (escaped_inline c d hd).1
  | literal =>
    rw [hstyle] at hsuits
    simp only [Style.Suits, isLiteral, isBlockText, Bool.and_eq_true] at hsuits
    have hbar : isPrintable '|' = true := rfl
    have hmarks := all_marks s.toList
    simp only [List.all_append, Bool.and_eq_true] at hmarks
    simp [all_literalLines hsuits.1.1.1, hmarks.1, hmarks.2, hfeed, hbar]

/-! ## Trees -/

namespace Tree

/-- Whether all names of fields can be written as keys. -/
inductive Keyed : Tree → Prop
  | text (s : String) : Keyed (.text s)
  | flag (value : Bool) : Keyed (.flag value)
  | list {items : List Tree} (h : ∀ t ∈ items, Keyed t) : Keyed (.list items)
  | record {fields : List (String × Tree)} (hnames : ∀ f ∈ fields, isKeyText f.1.toList = true)
    (h : ∀ f ∈ fields, Keyed f.2) : Keyed (.record fields)

@[simp] theorem toList_margin (column : Nat) : (margin column).toList = blanks column :=
  String.toList_ofList

/-- Whether a tree is written with printable characters, in any column. -/
structure IsPrintable (t : Tree) : Prop where
  block (column : Nat) : (block column t).toList.all isPrintable = true
  field (column : Nat) : (field column t).toList.all isPrintable = true

theorem all_name {name : String} (h : isKeyText name.toList = true) :
    name.toList.all isPrintable = true := by
  refine List.all_eq_true.2 fun c hc => ?_
  rcases (isKeyText_iff.1 h).2.2 c hc with halpha | rfl
  · rcases (Bool.or_eq_true _ _).mp halpha with hupper | hlower
    · have hrange : 'A' ≤ c ∧ c ≤ 'Z' := of_decide_eq_true hupper
      exact (inline_of_between (by decide) (by decide) hrange).1
    · obtain ⟨hfrom, hto⟩ := (Bool.and_eq_true _ _).mp hlower
      have hrange : 'a' ≤ c ∧ c ≤ 'z' := ⟨of_decide_eq_true hfrom, of_decide_eq_true hto⟩
      exact (inline_of_between (by decide) (by decide) hrange).1
  · rfl

theorem all_itemLines {items : List Tree} (h : ∀ t ∈ items, t.IsPrintable) (column : Nat) :
    (itemLines column items).toList.all isPrintable = true := by
  induction items with
  | nil => simp [itemLines]
  | cons item rest ih =>
    obtain ⟨hitem, hrest⟩ := List.forall_mem_cons.1 h
    simp only [itemLines, String.toList_append, List.all_append, ih hrest, hitem.block,
      toList_margin, all_blanks]
    decide

theorem all_fieldLines {fields : List (String × Tree)}
    (hnames : ∀ f ∈ fields, isKeyText f.1.toList = true) (h : ∀ f ∈ fields, f.2.IsPrintable)
    (column : Nat) : (fieldLines column fields).toList.all isPrintable = true := by
  induction fields with
  | nil => simp [fieldLines]
  | cons f rest ih =>
    obtain ⟨name, value⟩ := f
    obtain ⟨hname, hnames⟩ := List.forall_mem_cons.1 hnames
    obtain ⟨hvalue, hrest⟩ := List.forall_mem_cons.1 h
    simp only [fieldLines, String.toList_append, List.all_append, ih hnames hrest, hvalue.field,
      toList_margin, all_blanks, all_name hname]
    decide

/-- A tree is written with printable characters. -/
theorem Keyed.isPrintable {t : Tree} (h : t.Keyed) : t.IsPrintable := by
  induction h with
  | text s =>
    refine ⟨fun column => all_scalarText _ s, fun column => ?_⟩
    simp only [field, String.toList_append, List.all_append, all_scalarText]
    decide
  | flag value =>
    refine ⟨fun _ => ?_, fun _ => ?_⟩
    · cases value <;> simp [block] <;> decide
    · cases value <;> simp [field] <;> decide
  | @list items _ ih =>
    cases items with
    | nil => exact ⟨fun _ => by simp [block]; decide, fun _ => by simp [field]; decide⟩
    | cons item rest =>
      obtain ⟨hitem, hrest⟩ := List.forall_mem_cons.1 ih
      refine ⟨fun column => ?_, fun column => ?_⟩
      · simp only [block, String.toList_append, List.all_append, hitem.block, all_itemLines hrest]
        decide
      · simp only [field, String.toList_append, List.all_append, hitem.block, all_itemLines hrest,
          toList_margin, all_blanks]
        decide
  | @record fields hnames _ ih =>
    cases fields with
    | nil => exact ⟨fun _ => by simp [block]; decide, fun _ => by simp [field]; decide⟩
    | cons f rest =>
      obtain ⟨name, value⟩ := f
      obtain ⟨hname, hnames⟩ := List.forall_mem_cons.1 hnames
      obtain ⟨hvalue, hrest⟩ := List.forall_mem_cons.1 ih
      refine ⟨fun column => ?_, fun column => ?_⟩
      · simp only [block, String.toList_append, List.all_append, hvalue.field, all_name hname,
          all_fieldLines hnames hrest]
        decide
      · simp only [field, String.toList_append, List.all_append, hvalue.field, all_name hname,
          all_fieldLines hnames hrest, toList_margin, all_blanks]
        decide

end Tree

end ClusterView.Yaml
