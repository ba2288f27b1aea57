import ClusterView.Proofs.Yaml.Tokens
import ClusterView.Yaml.Node

/-!
# The document of a tree

The tokens of a tree are read as its node (`Tree.Keyed.nodeRead`), and its text as a single document
without anchors (`Document.ofText_toText`).
-/

namespace ClusterView.Yaml

/-! ## Nodes -/

namespace Tree

mutual

/-- The node that a tree is read as. -/
def node : Tree → Node
  | .text s => .scalar s (isPlainStyle s)
  | .flag value => .scalar (if value then "true" else "false") true
  | .list items => .sequence (itemNodes items)
  | .record fields => .mapping (fieldNodes fields)

/-- The nodes of some items. -/
def itemNodes : List Tree → List Node
  | [] => []
  | item :: rest => node item :: itemNodes rest

/-- The nodes of some fields with those of their names. -/
def fieldNodes : List (String × Tree) → List (Node × Node)
  | [] => []
  | (name, value) :: rest => (.scalar name true, node value) :: fieldNodes rest

end

end Tree

/-! ## Steps -/

namespace Reader

variable {n : Nat} {inBlock atKey : Bool} {r : Reading}

@[simp] theorem run_peek : peek.run r = some (r.tokens.headD .malformed, r) := rfl

@[simp] theorem run_skip : skip.run r = some ((), { r with tokens := r.tokens.tail }) := rfl

@[simp] theorem run_next :
    next.run r = some (r.tokens.headD .malformed, { r with tokens := r.tokens.tail }) := rfl

variable {a : Anchors} {ts rest : List Token} {t : Token}

/-- A scalar is a node. -/
theorem node_scalar (hn : 2 ≤ n) (text : String) (isPlain : Bool) :
    (node n inBlock atKey).run ⟨.scalar text isPlain :: rest, a⟩ =
      some (.scalar text isPlain, ⟨rest, a⟩) := by
  obtain ⟨n, rfl⟩ := Nat.exists_eq_add_of_le' hn
  simp [node, content]

theorem node_noItems (hn : 3 ≤ n) :
    (node n inBlock atKey).run ⟨.flowSequence :: .flowSequenceEnd :: rest, a⟩ =
      some (.sequence [], ⟨rest, a⟩) := by
  obtain ⟨n, rfl⟩ := Nat.exists_eq_add_of_le' hn
  simp [node, content, flowItems]

theorem node_noFields (hn : 3 ≤ n) :
    (node n inBlock atKey).run ⟨.flowMapping :: .flowMappingEnd :: rest, a⟩ =
      some (.mapping [], ⟨rest, a⟩) := by
  obtain ⟨n, rfl⟩ := Nat.exists_eq_add_of_le' hn
  simp [node, content, flowEntries]

theorem nodeBefore_of_notMem {stops : List Token} (h : t ∉ stops) :
    (nodeBefore (n + 1) inBlock atKey stops).run ⟨t :: ts, a⟩ =
      (node n inBlock atKey).run ⟨t :: ts, a⟩ := by
  simp [nodeBefore, h]

theorem blockItems_cons {us : List Token} {first : Node} {more : List Node}
    (hfirst : (nodeBefore n true false [.item, .blockEnd]).run ⟨ts, a⟩ = some (first, ⟨us, a⟩))
    (hmore : (blockItems n).run ⟨us, a⟩ = some (more, ⟨rest, a⟩)) :
    (blockItems (n + 1)).run ⟨.item :: ts, a⟩ = some (first :: more, ⟨rest, a⟩) := by
  simp [blockItems, hfirst, hmore]

theorem keyItems_cons {us : List Token} {first : Node} {more : List Node}
    (hfirst : (nodeBefore n true false [.item, .key, .value, .blockEnd]).run ⟨ts, a⟩ =
      some (first, ⟨us, a⟩))
    (hmore : (keyItems n).run ⟨us, a⟩ = some (more, ⟨rest, a⟩)) :
    (keyItems (n + 1)).run ⟨.item :: ts, a⟩ = some (first :: more, ⟨rest, a⟩) := by
  simp [keyItems, hfirst, hmore]

theorem keyItems_end (h : rest.head? ≠ some .item) :
    (keyItems (n + 1)).run ⟨rest, a⟩ = some ([], ⟨rest, a⟩) := by
  rw [keyItems, StateT.run_bind, run_peek]
  simp only [Option.bind_eq_bind, Option.bind_some]
  split
  next heq =>
    cases rest with
    | nil => cases heq
    | cons t rest => exact absurd (congrArg some heq) h
  next => rfl

theorem blockEntries_cons {us : List Token} {name : String} {value : Node}
    {more : List (Node × Node)} (hn : 3 ≤ n)
    (hvalue : (nodeBefore (n - 1) true true [.key, .value, .blockEnd]).run ⟨ts, a⟩ =
      some (value, ⟨us, a⟩))
    (hmore : (blockEntries n).run ⟨us, a⟩ = some (more, ⟨rest, a⟩)) :
    (blockEntries (n + 1)).run ⟨.key :: .scalar name true :: .value :: ts, a⟩ =
      some ((.scalar name true, value) :: more, ⟨rest, a⟩) := by
  obtain ⟨m, rfl⟩ : ∃ m, n = m + 1 := ⟨n - 1, by omega⟩
  have hkey : (nodeBefore (m + 1) true true [.key, .value, .blockEnd]).run
      ⟨.scalar name true :: .value :: ts, a⟩ = some (.scalar name true, ⟨.value :: ts, a⟩) := by
    rw [nodeBefore_of_notMem (by simp), node_scalar (by omega)]
  rw [Nat.add_sub_cancel] at hvalue
  have hbefore : (valueBefore (m + 1) true true [.key, .value, .blockEnd]).run
      ⟨.value :: ts, a⟩ = some (value, ⟨us, a⟩) := by
    simp [valueBefore, hvalue]
  rw [blockEntries]
  simp [hkey, hbefore, hmore]

end Reader

/-! ## Trees -/

namespace Tree

/-- What a tree's tokens begin with belongs to the tree. -/
theorem tokens_eq_cons (t : Tree) : ∃ first more, t.tokens = first :: more ∧
    first ∉ [.item, .key, .value, .blockEnd] ∧ Document.isOutside first = false := by
  match t with
  | .text s => exact ⟨_, [], rfl, by simp, rfl⟩
  | .flag value => exact ⟨_, [], rfl, by simp, rfl⟩
  | .list [] => exact ⟨_, _, rfl, by simp, rfl⟩
  | .list (_ :: _) => exact ⟨_, _, rfl, by simp, rfl⟩
  | .record [] => exact ⟨_, _, rfl, by simp, rfl⟩
  | .record (_ :: _) => exact ⟨_, _, rfl, by simp, rfl⟩

theorem valueTokens_eq_cons (t : Tree) :
    ∃ first more, t.valueTokens = first :: more ∧ first ∉ [.key, .value, .blockEnd] := by
  match t with
  | .text s => exact ⟨_, [], rfl, by simp⟩
  | .flag value => exact ⟨_, [], rfl, by simp⟩
  | .list [] => exact ⟨_, _, rfl, by simp⟩
  | .list (_ :: _) => exact ⟨_, _, rfl, by simp⟩
  | .record [] => exact ⟨_, _, rfl, by simp⟩
  | .record (_ :: _) => exact ⟨_, _, rfl, by simp⟩

/-- The tokens of a tree are read as its node, within four calls for each of them. -/
structure NodeRead (t : Tree) : Prop where
  part {n : Nat} {a : Anchors} {rest : List Token} (hn : 4 * t.tokens.length ≤ n) :
    (Reader.node n true false).run ⟨t.tokens ++ rest, a⟩ = some (t.node, ⟨rest, a⟩)
  value {n : Nat} {a : Anchors} {rest : List Token} (hn : 4 * t.valueTokens.length + 3 ≤ n)
    (hrest : rest.head? ≠ some .item) :
    (Reader.node n true true).run ⟨t.valueTokens ++ rest, a⟩ = some (t.node, ⟨rest, a⟩)

variable {n : Nat} {a : Anchors} {rest : List Token}

/-- An item is read before what may follow it. -/
theorem NodeRead.item {t : Tree} (h : t.NodeRead) {stops : List Token}
    (hstops : stops ⊆ [.item, .key, .value, .blockEnd]) (hn : 4 * t.tokens.length + 1 ≤ n) :
    (Reader.nodeBefore n true false stops).run ⟨t.tokens ++ rest, a⟩ =
      some (t.node, ⟨rest, a⟩) := by
  obtain ⟨n, rfl⟩ := Nat.exists_eq_add_of_le' (Nat.le_of_add_left_le hn)
  obtain ⟨first, more, htokens, hfirst, -⟩ := t.tokens_eq_cons
  have hread : (Reader.node n true false).run ⟨t.tokens ++ rest, a⟩ =
      some (t.node, ⟨rest, a⟩) := h.part (by omega)
  rw [htokens, List.cons_append] at hread ⊢
  rw [Reader.nodeBefore_of_notMem fun hmem => hfirst (hstops hmem), hread]

theorem itemTokens_cons (item : Tree) (more : List Tree) :
    itemTokens (item :: more) = .item :: (item.tokens ++ itemTokens more) := by
  simp [itemTokens, tokens]

/-- The items of a list are read up to the end of its block. -/
theorem blockItems_itemTokens {items : List Tree} (h : ∀ t ∈ items, t.NodeRead)
    (hn : 4 * (itemTokens items).length + 1 ≤ n) :
    (Reader.blockItems n).run ⟨itemTokens items ++ .blockEnd :: rest, a⟩ =
      some (itemNodes items, ⟨rest, a⟩) := by
  obtain ⟨n, rfl⟩ := Nat.exists_eq_add_of_le' (Nat.le_of_add_left_le hn)
  induction items generalizing n with
  | nil => simp [itemTokens, itemNodes, Reader.blockItems]
  | cons item more ih =>
    obtain ⟨hitem, hmore⟩ := List.forall_mem_cons.1 h
    rw [itemTokens_cons, List.length_cons, List.length_append] at hn
    obtain ⟨m, rfl⟩ : ∃ m, n = m + 1 := ⟨n - 1, by omega⟩
    rw [itemTokens_cons, List.cons_append, List.append_assoc]
    exact Reader.blockItems_cons (hitem.item (by simp) (by omega)) (ih hmore m (by omega))

/-- The items of a list in the column of its key are read up to what is no item. -/
theorem keyItems_itemTokens {items : List Tree} (h : ∀ t ∈ items, t.NodeRead)
    (hn : 4 * (itemTokens items).length + 1 ≤ n) (hrest : rest.head? ≠ some .item) :
    (Reader.keyItems n).run ⟨itemTokens items ++ rest, a⟩ =
      some (itemNodes items, ⟨rest, a⟩) := by
  obtain ⟨n, rfl⟩ := Nat.exists_eq_add_of_le' (Nat.le_of_add_left_le hn)
  induction items generalizing n with
  | nil => exact Reader.keyItems_end hrest
  | cons item more ih =>
    obtain ⟨hitem, hmore⟩ := List.forall_mem_cons.1 h
    rw [itemTokens_cons, List.length_cons, List.length_append] at hn
    obtain ⟨m, rfl⟩ : ∃ m, n = m + 1 := ⟨n - 1, by omega⟩
    rw [itemTokens_cons, List.cons_append, List.append_assoc]
    exact Reader.keyItems_cons (hitem.item (by simp) (by omega)) (ih hmore m (by omega))

/-- The fields of a record are read up to the end of its block. -/
theorem blockEntries_fieldTokens {fields : List (String × Tree)}
    (h : ∀ f ∈ fields, f.2.NodeRead) (hn : 4 * (fieldTokens fields).length + 1 ≤ n) :
    (Reader.blockEntries n).run ⟨fieldTokens fields ++ .blockEnd :: rest, a⟩ =
      some (fieldNodes fields, ⟨rest, a⟩) := by
  obtain ⟨n, rfl⟩ := Nat.exists_eq_add_of_le' (Nat.le_of_add_left_le hn)
  induction fields generalizing n with
  | nil => simp [fieldTokens, fieldNodes, Reader.blockEntries]
  | cons f more ih =>
    obtain ⟨name, value⟩ := f
    obtain ⟨hvalue, hmore⟩ := List.forall_mem_cons.1 h
    replace hvalue : value.NodeRead := hvalue
    have htokens : fieldTokens ((name, value) :: more) =
        .key :: .scalar name true :: .value :: (value.valueTokens ++ fieldTokens more) := by
      simp [fieldTokens]
    rw [htokens] at hn ⊢
    simp only [List.length_cons, List.length_append] at hn
    obtain ⟨m, rfl⟩ : ∃ m, n = m + 3 := ⟨n - 3, by omega⟩
    have hnext : (fieldTokens more ++ .blockEnd :: rest).head? ≠ some .item := by
      cases more with
      | nil => simp [fieldTokens]
      | cons g more => simp [fieldTokens]
    obtain ⟨first, others, hfirst, hstops⟩ := value.valueTokens_eq_cons
    have hread := hvalue.value (n := m + 1) (a := a) (by omega) hnext
    rw [hfirst, List.cons_append] at hread
    simp only [List.cons_append, List.append_assoc, hfirst]
    refine Reader.blockEntries_cons (by omega) ?_ (ih hmore (m + 2) (by omega))
    exact (Reader.nodeBefore_of_notMem hstops).trans hread

theorem node_blockSequence {items : List Tree} (h : ∀ t ∈ items, t.NodeRead) {atKey : Bool}
    (hn : 4 * (itemTokens items).length + 3 ≤ n) :
    (Reader.node n true atKey).run
        ⟨.blockSequence :: (itemTokens items ++ .blockEnd :: rest), a⟩ =
      some (.sequence (itemNodes items), ⟨rest, a⟩) := by
  obtain ⟨m, rfl⟩ : ∃ m, n = m + 2 := ⟨n - 2, by omega⟩
  simp [Reader.node, Reader.content, blockItems_itemTokens (n := m) h (by omega)]

theorem node_blockMapping {fields : List (String × Tree)} (h : ∀ f ∈ fields, f.2.NodeRead)
    {atKey : Bool} (hn : 4 * (fieldTokens fields).length + 3 ≤ n) :
    (Reader.node n true atKey).run
        ⟨.blockMapping :: (fieldTokens fields ++ .blockEnd :: rest), a⟩ =
      some (.mapping (fieldNodes fields), ⟨rest, a⟩) := by
  obtain ⟨m, rfl⟩ : ∃ m, n = m + 2 := ⟨n - 2, by omega⟩
  simp [Reader.node, Reader.content, blockEntries_fieldTokens (n := m) h (by omega)]

theorem node_keyItems {item : Tree} {more : List Tree} (h : ∀ t ∈ item :: more, t.NodeRead)
    (hn : 4 * (itemTokens (item :: more)).length + 3 ≤ n) (hrest : rest.head? ≠ some .item) :
    (Reader.node n true true).run ⟨itemTokens (item :: more) ++ rest, a⟩ =
      some (.sequence (itemNodes (item :: more)), ⟨rest, a⟩) := by
  obtain ⟨m, rfl⟩ : ∃ m, n = m + 2 := ⟨n - 2, by omega⟩
  have hread := keyItems_itemTokens (n := m) (a := a) h (by omega) hrest
  rw [itemTokens_cons, List.cons_append, List.append_assoc] at hread ⊢
  simp [Reader.node, Reader.content, hread]

/-- A tree that is no list with items is read alike behind a key and elsewhere. -/
theorem nodeRead_of_tokens {t : Tree} (ht : t.tokens = t.valueTokens)
    (h : ∀ {n : Nat} {a : Anchors} {rest : List Token} (atKey : Bool),
      4 * t.valueTokens.length ≤ n →
        (Reader.node n true atKey).run ⟨t.valueTokens ++ rest, a⟩ = some (t.node, ⟨rest, a⟩)) :
    t.NodeRead where
  part hn := by
    rw [ht] at hn ⊢
    exact h false hn
  value hn _ := h true (by omega)

theorem nodeRead_list {items : List Tree} (h : ∀ t ∈ items, t.NodeRead) :
    NodeRead (.list items) := by
  cases items with
  | nil =>
    refine nodeRead_of_tokens rfl fun atKey hn => Reader.node_noItems ?_
    rw [show valueTokens (.list []) = [.flowSequence, .flowSequenceEnd] from rfl] at hn
    simp only [List.length_cons, List.length_nil] at hn
    omega
  | cons item more =>
    refine ⟨fun {n a rest} hn => ?_, fun {n a rest} hn hrest => node_keyItems h hn hrest⟩
    have htokens : tokens (.list (item :: more)) =
        .blockSequence :: (itemTokens (item :: more) ++ [.blockEnd]) := rfl
    rw [htokens] at hn ⊢
    simp only [List.length_cons, List.length_append, List.length_nil] at hn
    rw [List.cons_append, List.append_assoc]
    exact node_blockSequence h (by omega)

theorem nodeRead_record {fields : List (String × Tree)} (h : ∀ f ∈ fields, f.2.NodeRead) :
    NodeRead (.record fields) := by
  cases fields with
  | nil =>
    refine nodeRead_of_tokens rfl fun atKey hn => Reader.node_noFields ?_
    rw [show valueTokens (.record []) = [.flowMapping, .flowMappingEnd] from rfl] at hn
    simp only [List.length_cons, List.length_nil] at hn
    omega
  | cons f more =>
    refine nodeRead_of_tokens rfl fun atKey hn => ?_
    have htokens : valueTokens (.record (f :: more)) =
        .blockMapping :: (fieldTokens (f :: more) ++ [.blockEnd]) := rfl
    rw [htokens] at hn ⊢
    simp only [List.length_cons, List.length_append, List.length_nil] at hn
    rw [List.cons_append, List.append_assoc]
    exact node_blockMapping h (by omega)

theorem nodeRead_of_scalar {t : Tree} {text : String} {isPlain : Bool}
    (ht : t.tokens = [.scalar text isPlain])
    (hvalue : t.valueTokens = [.scalar text isPlain]) (hnode : t.node = .scalar text isPlain) :
    t.NodeRead := by
  refine nodeRead_of_tokens (ht.trans hvalue.symm) fun atKey hn => ?_
  rw [hvalue, List.length_singleton] at hn
  rw [hvalue, hnode]
  exact Reader.node_scalar (by omega) ..

/-- The tokens of a tree are read as its node. -/
theorem Keyed.nodeRead {t : Tree} (h : t.Keyed) : t.NodeRead := by
  induction h with
  | text s => exact nodeRead_of_scalar rfl rfl rfl
  | flag value => exact nodeRead_of_scalar rfl rfl rfl
  | list _ ih => exact nodeRead_list ih
  | record _ _ ih => exact nodeRead_record ih

end Tree

/-! ## Documents -/

namespace Document

theorem begin?_content {t : Token} (h : isOutside t = false) (ts : List Token) :
    begin? true (t :: ts) = some (t :: ts) := by
  cases t with
  | version | documentStart | documentEnd | streamEnd => cases h
  | _ => rfl

theorem content?_tokens {t : Tree} (h : t.Keyed) :
    content? (t.tokens ++ [Token.streamEnd]) = some (⟨t.node, #[]⟩, [Token.streamEnd]) := by
  obtain ⟨first, more, htokens, -, hinside⟩ := t.tokens_eq_cons
  have hread : (Reader.node (4 * (t.tokens ++ [Token.streamEnd]).length + 4) true false).run
      ⟨t.tokens ++ [.streamEnd], {}⟩ = some (t.node, ⟨[.streamEnd], {}⟩) :=
    h.nodeRead.part (by rw [List.length_append]; omega)
  have houtside : (t.tokens ++ [Token.streamEnd]).head?.any isOutside = false := by
    rw [htokens]
    exact hinside
  rw [content?]
  simp only [houtside, Bool.false_eq_true, if_false, hread]
  simp

/-- The text of a list or record is a single document, which has no anchors. -/
theorem ofText_toText {t : Tree} (h : t.Keyed) (hcollection : t.IsCollection) :
    ofText t.toText = [some ⟨t.node, #[]⟩] := by
  obtain ⟨first, more, htokens, -, hinside⟩ := t.tokens_eq_cons
  have hbegin : begin? true (t.tokens ++ [Token.streamEnd]) =
      some (t.tokens ++ [Token.streamEnd]) := by
    rw [htokens]
    exact begin?_content hinside _
  have hhead : (t.tokens ++ [Token.streamEnd]).head? ≠ some .streamEnd := by
    rw [htokens]
    rintro heq
    cases heq
    cases hinside
  have hend : ∀ n, readAll (n + 1) false [.streamEnd] = [] := fun n => by simp [readAll]
  have hlength : (t.tokens ++ [Token.streamEnd]).length = t.tokens.length + 1 :=
    List.length_append
  rw [ofText, Token.ofText_toText h hcollection, ofTokens, readAll, hlength]
  simp only [if_true, hhead, if_false, hbegin, Option.bind_some, content?_tokens h, hend]

end Document

end ClusterView.Yaml
