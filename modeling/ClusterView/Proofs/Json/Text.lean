import ClusterView.Proofs.Json.Token

/-!
# Values by their texts

No two values without fractions have the same text, neither without blanks (`compact_inj`) nor with
one item a line (`pretty_inj`). Both texts are of one form (`chars`), and in it no text of a value
is the beginning of another's: if two of them are followed by something that continues no integer,
and all in all they are equal, then so are the values and what follows (`delimits_chars`).
-/

namespace ClusterView

namespace Json

/-! ## Texts of a style -/

/-- How a text is laid out: what stands before the items of a level, and what stands between a name
and its value. -/
structure Style where
  gap : Nat → List Char
  colon : List Char

namespace Style

/-- The style without blanks. -/
def compact : Style := ⟨fun _ => [], [':']⟩

/-- The style with one item a line. -/
def pretty : Style := ⟨fun level => (newline level).toList, [':', ' ']⟩

/-- The texts of some items after the first, and the end of what they are in. -/
def more (st : Style) (level : Nat) (close : Char) : List (List Char) → List Char
  | [] => st.gap level ++ [close]
  | text :: rest => ',' :: st.gap (level + 1) ++ text ++ more st level close rest

/-- The texts of items, and the end of what they are in. -/
def listed (st : Style) (level : Nat) (close : Char) : List (List Char) → List Char
  | [] => [close]
  | text :: rest => st.gap (level + 1) ++ text ++ more st level close rest

end Style

mutual

/-- The text of a value in a style, inside containers that are `level` deep. -/
def chars (st : Style) (level : Nat) : Json → List Char
  | .null => ['n', 'u', 'l', 'l']
  | .bool true => ['t', 'r', 'u', 'e']
  | .bool false => ['f', 'a', 'l', 's', 'e']
  | .number n => n.text.toList
  | .string s => (quoted s).toList
  | .array items => '[' :: st.listed level ']' (itemTexts st (level + 1) items)
  | .object fields => '\x7b' :: st.listed level '\x7d' (fieldTexts st (level + 1) fields)

/-- The texts of the items of an array. -/
def itemTexts (st : Style) (level : Nat) : List Json → List (List Char)
  | [] => []
  | item :: rest => chars st level item :: itemTexts st level rest

/-- The texts of the fields of an object. -/
def fieldTexts (st : Style) (level : Nat) : List (String × Json) → List (List Char)
  | [] => []
  | (name, value) :: rest =>
    ((quoted name).toList ++ st.colon ++ chars st level value) :: fieldTexts st level rest

end

/-- The text of a field. -/
def fieldChars (st : Style) (level : Nat) (field : String × Json) : List Char :=
  (quoted field.1).toList ++ st.colon ++ chars st level field.2

theorem chars_array (st : Style) (level : Nat) (items : List Json) : chars st level (.array items) =
    '[' :: st.listed level ']' (items.map (chars st (level + 1))) := by
  have htexts : itemTexts st (level + 1) items = items.map (chars st (level + 1)) := by
    induction items with
    | nil => rfl
    | cons item rest ih => rw [itemTexts, ih, List.map_cons]
  rw [chars, htexts]

theorem chars_object (st : Style) (level : Nat) (fields : List (String × Json)) :
    chars st level (.object fields) =
      '\x7b' :: st.listed level '\x7d' (fields.map (fieldChars st (level + 1))) := by
  have htexts : fieldTexts st (level + 1) fields = fields.map (fieldChars st (level + 1)) := by
    induction fields with
    | nil => rfl
    | cons field rest ih => rw [fieldTexts, ih, List.map_cons, fieldChars]
  rw [chars, htexts]

/-! ## Values without fractions -/

/-- Values whose numbers are integers. -/
inductive IsWhole : Json → Prop
  | null : IsWhole .null
  | bool (value : Bool) : IsWhole (.bool value)
  | integer (n : Int) : IsWhole (.number (.integer n))
  | string (s : String) : IsWhole (.string s)
  | array {items : List Json} (h : ∀ j ∈ items, IsWhole j) : IsWhole (.array items)
  | object {fields : List (String × Json)} (h : ∀ f ∈ fields, IsWhole f.2) :
    IsWhole (.object fields)

@[simp] theorem isWhole_ofInt (n : Int) : (ofInt n).IsWhole := .integer n

@[simp] theorem isWhole_string (s : String) : (string s).IsWhole := .string s

@[simp] theorem isWhole_array_iff {items : List Json} :
    (array items).IsWhole ↔ ∀ j ∈ items, j.IsWhole :=
  ⟨fun | .array h => h, .array⟩

/-- Whether the values of some fields are without fractions. -/
def FieldsWhole (fields : List (String × Json)) : Prop := ∀ f ∈ fields, f.2.IsWhole

@[simp] theorem fieldsWhole_nil : FieldsWhole [] := by simp [FieldsWhole]

@[simp] theorem fieldsWhole_cons {f : String × Json} {rest : List (String × Json)} :
    FieldsWhole (f :: rest) ↔ f.2.IsWhole ∧ FieldsWhole rest := by
  simp only [FieldsWhole, List.forall_mem_cons]

@[simp] theorem isWhole_object_iff {fields : List (String × Json)} :
    (object fields).IsWhole ↔ FieldsWhole fields :=
  ⟨fun | .object h => h, .object⟩

/-! ## The two styles -/

theorem toList_compactItems (level : Nat) (items : List Json) :
    (compactItems items).toList ++ [']'] =
      Style.compact.listed level ']' (items.map fun j => (compact j).toList) := by
  induction items with
  | nil => rfl
  | cons item rest ih =>
    cases rest with
    | nil => simp [compactItems, Style.listed, Style.more, Style.compact]
    | cons next rest => simp_all [compactItems, Style.listed, Style.more, Style.compact]

theorem toList_compactFields (level : Nat) (fields : List (String × Json)) :
    (compactFields fields).toList ++ ['\x7d'] =
      Style.compact.listed level '\x7d' (fields.map fun f =>
        (quoted f.1).toList ++ [':'] ++ (compact f.2).toList) := by
  induction fields with
  | nil => rfl
  | cons field rest ih =>
    cases rest with
    | nil => simp [compactFields, Style.listed, Style.more, Style.compact]
    | cons next rest => simp_all [compactFields, Style.listed, Style.more, Style.compact]

theorem toList_compact {j : Json} (h : j.IsWhole) (level : Nat) :
    (compact j).toList = chars .compact level j := by
  induction h generalizing level with
  | null => rfl
  | bool value => cases value <;> rfl
  | integer n => simp only [compact, chars]
  | string s => simp only [compact, chars]
  | @array items _ ih =>
    have htexts : (items.map fun j => (compact j).toList) =
        items.map (chars .compact (level + 1)) :=
      List.map_congr_left fun j hj => ih j hj (level + 1)
    rw [chars_array, ← htexts, ← toList_compactItems]
    simp [compact]
  | @object fields _ ih =>
    have htexts : (fields.map fun f => (quoted f.1).toList ++ [':'] ++ (compact f.2).toList) =
        fields.map (fieldChars .compact (level + 1)) :=
      List.map_congr_left fun f hf => by rw [ih f hf (level + 1)]; rfl
    rw [chars_object, ← htexts, ← toList_compactFields]
    simp [compact]

theorem toList_prettyItems (level : Nat) {items : List Json} (hne : items ≠ []) :
    (prettyItems (level + 1) items).toList ++ (newline level).toList ++ [']'] =
      Style.pretty.listed level ']' (items.map fun j => (prettyAt (level + 1) j).toList) := by
  induction items with
  | nil => exact absurd rfl hne
  | cons item rest ih =>
    cases rest with
    | nil => simp [prettyItems, Style.listed, Style.more, Style.pretty]
    | cons next rest => simp_all [prettyItems, Style.listed, Style.more, Style.pretty]

theorem toList_prettyFields (level : Nat) {fields : List (String × Json)} (hne : fields ≠ []) :
    (prettyFields (level + 1) fields).toList ++ (newline level).toList ++ ['\x7d'] =
      Style.pretty.listed level '\x7d' (fields.map fun f =>
        (quoted f.1).toList ++ [':', ' '] ++ (prettyAt (level + 1) f.2).toList) := by
  induction fields with
  | nil => exact absurd rfl hne
  | cons field rest ih =>
    cases rest with
    | nil => simp [prettyFields, Style.listed, Style.more, Style.pretty]
    | cons next rest => simp_all [prettyFields, Style.listed, Style.more, Style.pretty]

theorem toList_prettyAt {j : Json} (h : j.IsWhole) (level : Nat) :
    (prettyAt level j).toList = chars .pretty level j := by
  induction h generalizing level with
  | null => simp [prettyAt, chars]
  | bool value => cases value <;> simp [prettyAt, chars]
  | integer n => simp only [prettyAt, chars]
  | string s => simp only [prettyAt, chars]
  | @array items _ ih =>
    have htexts : (items.map fun j => (prettyAt (level + 1) j).toList) =
        items.map (chars .pretty (level + 1)) :=
      List.map_congr_left fun j hj => ih j hj (level + 1)
    rw [chars_array, ← htexts]
    cases items with
    | nil => simp [prettyAt, Style.listed]
    | cons item rest =>
      rw [← toList_prettyItems level (List.cons_ne_nil item rest)]
      simp [prettyAt]
  | @object fields _ ih =>
    have htexts : (fields.map fun f =>
        (quoted f.1).toList ++ [':', ' '] ++ (prettyAt (level + 1) f.2).toList) =
          fields.map (fieldChars .pretty (level + 1)) :=
      List.map_congr_left fun f hf => by rw [ih f hf (level + 1)]; rfl
    rw [chars_object, ← htexts]
    cases fields with
    | nil => simp [prettyAt, Style.listed]
    | cons field rest =>
      rw [← toList_prettyFields level (List.cons_ne_nil field rest)]
      simp [prettyAt]

/-! ## Shapes -/

/-- What the first character of its text says of a value. -/
inductive Shape where
  | null
  | bool (value : Bool)
  | number
  | string
  | array
  | object

/-- The shape of a value. -/
def shape : Json → Shape
  | .null => .null
  | .bool b => .bool b
  | .number _ => .number
  | .string _ => .string
  | .array _ => .array
  | .object _ => .object

/-- The shape of the values whose text begins with a character. -/
def shape? (c : Char) : Option Shape :=
  if c = 'n' then some .null
  else if c = 't' then some (.bool true)
  else if c = 'f' then some (.bool false)
  else if c = '"' then some .string
  else if c = '[' then some .array
  else if c = '\x7b' then some .object
  else if isOfInteger c then some .number
  else none

theorem shape?_of_isOfInteger {c : Char} (h : isOfInteger c = true) : shape? c = some .number := by
  unfold shape?
  split_ifs <;> simp_all [isOfInteger]

theorem exists_toList_ofInt_eq_cons (n : Int) :
    ∃ c rest, (Text.ofInt n).toList = c :: rest ∧ isOfInteger c = true := by
  cases htext : (Text.ofInt n).toList with
  | nil =>
    rw [toList_ofInt] at htext
    split_ifs at htext
    · exact absurd htext Nat.toDigits_ne_nil
  | cons c rest =>
    exact ⟨c, rest, rfl, isOfInteger_of_mem (n := n) (htext ▸ List.mem_cons_self)⟩

variable {st : Style} {level : Nat}

variable (st level) in
theorem exists_chars_eq_cons {j : Json} (h : j.IsWhole) :
    ∃ c rest, chars st level j = c :: rest ∧ shape? c = some j.shape := by
  cases h with
  | null => exact ⟨_, _, chars.eq_1 st level, rfl⟩
  | bool value => cases value <;> exact ⟨_, _, by rw [chars], rfl⟩
  | integer n =>
    obtain ⟨c, rest, htext, hc⟩ := exists_toList_ofInt_eq_cons n
    exact ⟨c, rest, by rw [chars, ← htext]; rfl, shape?_of_isOfInteger hc⟩
  | string s => exact ⟨_, _, by rw [chars, toList_quoted]; rfl, rfl⟩
  | array h => exact ⟨_, _, chars_array .., rfl⟩
  | object h => exact ⟨_, _, chars_object .., rfl⟩

theorem shape_eq {v w : Json} (hv : v.IsWhole) (hw : w.IsWhole) {r r' : List Char}
    (h : chars st level v ++ r = chars st level w ++ r') : v.shape = w.shape := by
  obtain ⟨c, rest, hc, hshape⟩ := exists_chars_eq_cons st level hv
  obtain ⟨c', rest', hc', hshape'⟩ := exists_chars_eq_cons st level hw
  rw [hc, hc'] at h
  obtain rfl : c = c' := (List.cons.inj h).1
  exact Option.some.inj (hshape.symm.trans hshape')

/-! ## Lists of texts -/

/-- A style whose values are set apart by blanks only. -/
def Style.IsBlank (st : Style) : Prop := ∀ level, ∀ c ∈ st.gap level, c = '\n' ∨ c = ' '

theorem Style.isBlank_compact : Style.compact.IsBlank := fun _ _ h => nomatch h

theorem Style.isBlank_pretty : Style.pretty.IsBlank := by
  intro level c hc
  simp only [pretty, newline, String.toList_append, String.toList_ofList, List.mem_append] at hc
  rcases hc with hc | hc
  · exact .inl (List.mem_singleton.1 hc)
  · exact .inr (List.eq_of_mem_replicate hc)

/-- Whether a text is told from others by itself, wherever no integer goes on behind it. -/
def Delimits {α : Type} (text : α → List Char) (a b : α) : Prop :=
  ∀ ⦃r r' : List Char⦄, EndsInteger r → EndsInteger r' → text a ++ r = text b ++ r' →
    a = b ∧ r = r'

section Lists

variable {close : Char} (hst : st.IsBlank) (hclose : close = ']' ∨ close = '\x7d')
include hst

/-- After blanks the text goes on where there are none. -/
theorem gap_append_eq_cons {c d : Char} {r r' : List Char} (h : st.gap level ++ c :: r = d :: r') :
    d = '\n' ∨ d = ' ' ∨ d = c := by
  cases hgap : st.gap level with
  | nil =>
    rw [hgap] at h
    exact .inr (.inr (List.cons.inj h).1.symm)
  | cons e rest =>
    rw [hgap] at h
    obtain rfl : e = d := (List.cons.inj h).1
    exact (hst level e (hgap ▸ List.mem_cons_self)).imp_right .inl

include hclose

theorem endsInteger_more (texts : List (List Char)) (r : List Char) :
    EndsInteger (st.more level close texts ++ r) := by
  intro d hd
  obtain ⟨r', hr⟩ := List.head?_eq_some_iff.1 hd
  cases texts with
  | nil =>
    rw [Style.more, List.append_assoc] at hr
    obtain rfl | rfl | rfl := gap_append_eq_cons hst hr
    · decide
    · decide
    · obtain rfl | rfl := hclose <;> decide
  | cons text rest =>
    rw [Style.more] at hr
    obtain rfl := (List.cons.inj hr).1
    decide

/-- Where the list ends, no comma follows. -/
theorem more_nil_append_ne (text : List Char) (rest : List (List Char)) (r r' : List Char) :
    st.more level close [] ++ r ≠ st.more level close (text :: rest) ++ r' := by
  intro h
  rw [Style.more, Style.more, List.append_assoc] at h
  obtain h | h | h := gap_append_eq_cons hst h
  · exact absurd h (by decide)
  · exact absurd h (by decide)
  · obtain rfl | rfl := hclose <;> exact absurd h (by decide)

variable {α : Type} {text : α → List Char}

theorem more_append_inj {as bs : List α} (h : ∀ a ∈ as, ∀ b ∈ bs, Delimits text a b)
    {r r' : List Char}
    (heq : st.more level close (as.map text) ++ r = st.more level close (bs.map text) ++ r') :
    as = bs ∧ r = r' := by
  induction as generalizing bs with
  | nil =>
    cases bs with
    | nil => exact ⟨rfl, List.append_cancel_left heq⟩
    | cons b bs => exact absurd heq (more_nil_append_ne hst hclose (text b) (bs.map text) r r')
  | cons a as ih =>
    cases bs with
    | nil => exact absurd heq.symm (more_nil_append_ne hst hclose (text a) (as.map text) r' r)
    | cons b bs =>
      simp only [List.map_cons, Style.more, List.cons_append, List.append_assoc] at heq
      have htexts := List.append_cancel_left (List.cons.inj heq).2
      obtain ⟨rfl, hrest⟩ := h a List.mem_cons_self b List.mem_cons_self
        (endsInteger_more hst hclose _ r) (endsInteger_more hst hclose _ r') htexts
      obtain ⟨rfl, hend⟩ := ih (fun a ha b hb =>
        h a (List.mem_cons_of_mem _ ha) b (List.mem_cons_of_mem _ hb)) hrest
      exact ⟨rfl, hend⟩

/-- An item does not begin as the end does. -/
theorem listed_nil_append_ne {c : Char} {rest : List Char} (hc : c ≠ close)
    (texts : List (List Char)) (r r' : List Char) :
    st.listed level close [] ++ r ≠ st.listed level close ((c :: rest) :: texts) ++ r' := by
  intro h
  simp only [Style.listed, List.cons_append, List.nil_append, List.append_assoc] at h
  obtain h | h | h := gap_append_eq_cons hst h.symm
  · obtain rfl | rfl := hclose <;> exact absurd h (by decide)
  · obtain rfl | rfl := hclose <;> exact absurd h (by decide)
  · exact hc h.symm

/-- Lists of texts that are told from others by themselves, none of which begins as their end. -/
theorem listed_append_inj {as bs : List α} (h : ∀ a ∈ as, ∀ b ∈ bs, Delimits text a b)
    (has : ∀ a ∈ as, ∃ c rest, text a = c :: rest ∧ c ≠ close)
    (hbs : ∀ b ∈ bs, ∃ c rest, text b = c :: rest ∧ c ≠ close) {r r' : List Char}
    (heq : st.listed level close (as.map text) ++ r = st.listed level close (bs.map text) ++ r') :
    as = bs ∧ r = r' := by
  cases as with
  | nil =>
    cases bs with
    | nil => exact ⟨rfl, List.append_cancel_left heq⟩
    | cons b bs =>
      obtain ⟨c, rest, hb, hc⟩ := hbs b List.mem_cons_self
      rw [List.map_cons, hb] at heq
      exact absurd heq (listed_nil_append_ne hst hclose hc (bs.map text) r r')
  | cons a as =>
    cases bs with
    | nil =>
      obtain ⟨c, rest, ha, hc⟩ := has a List.mem_cons_self
      rw [List.map_cons, ha] at heq
      exact absurd heq.symm (listed_nil_append_ne hst hclose hc (as.map text) r' r)
    | cons b bs =>
      -- Behind a comma the lists would be the rest of longer ones.
      exact more_append_inj hst hclose h (congrArg (',' :: ·) heq)

end Lists

/-! ## Values by their texts -/

theorem chars_ne_bracket {j : Json} (h : j.IsWhole) :
    ∃ c rest, chars st level j = c :: rest ∧ c ≠ ']' := by
  obtain ⟨c, rest, hchars, hshape⟩ := exists_chars_eq_cons st level h
  refine ⟨c, rest, hchars, ?_⟩
  rintro rfl
  exact nomatch hshape

theorem fieldChars_ne_brace (f : String × Json) :
    ∃ c rest, fieldChars st level f = c :: rest ∧ c ≠ '\x7d' :=
  ⟨'"', _, by rw [fieldChars, toList_quoted]; rfl, by decide⟩

theorem delimits_fieldChars {f g : String × Json} (h : Delimits (chars st level) f.2 g.2) :
    Delimits (fieldChars st level) f g := by
  intro r r' hr hr' heq
  simp only [fieldChars, List.append_assoc] at heq
  obtain ⟨hname, hvalue⟩ := quoted_append_inj heq
  obtain ⟨hvalue, hrest⟩ := h hr hr' (List.append_cancel_left hvalue)
  exact ⟨Prod.ext hname hvalue, hrest⟩

/-- **The text of a value without fractions is told from others by itself.** -/
theorem delimits_chars (hst : st.IsBlank) {v w : Json} (hv : v.IsWhole) (hw : w.IsWhole) :
    Delimits (chars st level) v w := by
  induction hv generalizing w level with
  | null =>
    intro r r' hr hr' h
    have hshape := shape_eq .null hw h
    cases hw with
    | null => exact ⟨rfl, List.append_cancel_left h⟩
    | _ => cases hshape
  | bool value =>
    intro r r' hr hr' h
    have hshape := shape_eq (.bool value) hw h
    cases hw with
    | bool value' =>
      obtain rfl : value = value' := Shape.bool.inj hshape
      exact ⟨rfl, List.append_cancel_left h⟩
    | _ => cases hshape
  | integer n =>
    intro r r' hr hr' h
    have hshape := shape_eq (.integer n) hw h
    cases hw with
    | integer n' =>
      rw [chars, chars] at h
      obtain ⟨rfl, hrest⟩ := ofInt_append_inj hr hr' h
      exact ⟨rfl, hrest⟩
    | _ => cases hshape
  | string s =>
    intro r r' hr hr' h
    have hshape := shape_eq (.string s) hw h
    cases hw with
    | string s' =>
      rw [chars, chars] at h
      obtain ⟨rfl, hrest⟩ := quoted_append_inj h
      exact ⟨rfl, hrest⟩
    | _ => cases hshape
  | @array items hitems ih =>
    intro r r' hr hr' h
    have hshape := shape_eq (.array hitems) hw h
    cases hw with
    | @array items' hitems' =>
      rw [chars_array, chars_array] at h
      obtain ⟨rfl, hrest⟩ := listed_append_inj hst (.inl rfl)
        (fun x hx y hy => ih x hx (hitems' y hy)) (fun x hx => chars_ne_bracket (hitems x hx))
        (fun y hy => chars_ne_bracket (hitems' y hy)) (List.cons.inj h).2
      exact ⟨rfl, hrest⟩
    | _ => cases hshape
  | @object fields hfields ih =>
    intro r r' hr hr' h
    have hshape := shape_eq (.object hfields) hw h
    cases hw with
    | @object fields' hfields' =>
      rw [chars_object, chars_object] at h
      obtain ⟨rfl, hrest⟩ := listed_append_inj hst (.inr rfl)
        (fun f hf g hg => delimits_fieldChars (ih f hf (hfields' g hg)))
        (fun f _ => fieldChars_ne_brace f) (fun g _ => fieldChars_ne_brace g) (List.cons.inj h).2
      exact ⟨rfl, hrest⟩
    | _ => cases hshape

theorem endsInteger_nil : EndsInteger [] := fun _ h => nomatch h

/-- **Values without fractions that have the same text without blanks are the same.** -/
theorem compact_inj {v w : Json} (hv : v.IsWhole) (hw : w.IsWhole) (h : v.compact = w.compact) :
    v = w := by
  have hchars : chars .compact 0 v ++ [] = chars .compact 0 w ++ [] := by
    rw [← toList_compact hv, ← toList_compact hw, h]
  exact (delimits_chars Style.isBlank_compact hv hw endsInteger_nil endsInteger_nil hchars).1

/-- **Values without fractions that have the same text with one item a line are the same.** -/
theorem pretty_inj {v w : Json} (hv : v.IsWhole) (hw : w.IsWhole) (h : v.pretty = w.pretty) :
    v = w := by
  have htext : prettyAt 0 v = prettyAt 0 w := h
  have hchars : chars .pretty 0 v ++ [] = chars .pretty 0 w ++ [] := by
    rw [← toList_prettyAt hv, ← toList_prettyAt hw, htext]
  exact (delimits_chars Style.isBlank_pretty hv hw endsInteger_nil endsInteger_nil hchars).1

end Json

end ClusterView
