import ArtifactRelease.Proofs.YamlScalar

/-!
# Documents determine their fields

Two documents with the same text have the same fields, as long as their keys are words.  What a node
takes up of a text is settled by indentation: it goes on up to the end, or up to the first line that
starts with a key and is indented no deeper than the key of the node.
-/

namespace ArtifactRelease.Yaml

/-! ## Keys and indentation -/

def IsWord (key : String) : Prop :=
  key.toList ≠ [] ∧ ∀ c ∈ key.toList, c.isAlpha

instance : DecidablePred IsWord := fun key =>
  decidable_of_iff (!key.toList.isEmpty && key.toList.all Char.isAlpha) (by simp [IsWord])

inductive Node.Worded : Node → Prop
  | bool (value : Bool) : Worded (bool value)
  | string (value : String) : Worded (string value)
  | sequence (items : List String) : Worded (sequence items)
  | mapping {fields : List (String × Node)} (hkeys : ∀ field ∈ fields, IsWord field.1)
      (hnodes : ∀ field ∈ fields, Worded field.2) : Worded (mapping fields)

/-- The text ends, or its first line starts with a key that is indented by less than a width. -/
def KeyBelow (bound : Nat) (text : List Char) : Prop :=
  text = [] ∨ ∃ width c later, width < bound ∧ c.isAlpha ∧ text = spaces width ++ c :: later

theorem isAlpha_range {c : Char} (hc : c.isAlpha) : 65 ≤ c.toNat ∧ c.toNat ≤ 122 := by
  rcases Bool.or_eq_true_iff.1 hc with hupper | hlower
  · have hrange : 65 ≤ c.toNat ∧ c.toNat ≤ 90 := of_decide_eq_true hupper
    omega
  · obtain ⟨hlow, hhigh⟩ := Bool.and_eq_true_iff.1 hlower
    have hrange : 97 ≤ c.toNat ∧ c.toNat ≤ 122 :=
      ⟨of_decide_eq_true hlow, of_decide_eq_true hhigh⟩
    omega

theorem isAlpha_shape {c : Char} (hc : c.isAlpha) :
    c ≠ ' ' ∧ c ≠ ':' ∧ c ≠ '-' ∧ isBreak c = false := by
  refine ⟨?_, ?_, ?_, ?_⟩
  · rintro rfl
    exact absurd hc (by decide)
  · rintro rfl
    exact absurd hc (by decide)
  · rintro rfl
    exact absurd hc (by decide)
  · have hletter := isAlpha_range hc
    have hline : c ≠ '\n' ∧ c ≠ '\r' := by
      constructor
      · rintro rfl
        exact absurd hc (by decide)
      · rintro rfl
        exact absurd hc (by decide)
    simp [isBreak, hline]
    omega

theorem IsWord.exists_cons {key : String} (hkey : IsWord key) :
    ∃ c later, key.toList = c :: later ∧ c.isAlpha := by
  obtain ⟨hne, hletters⟩ := hkey
  obtain ⟨c, later, hshape⟩ := List.exists_cons_of_ne_nil hne
  exact ⟨c, later, hshape, hletters c (by simp [hshape])⟩

theorem KeyBelow.mono {bound larger : Nat} {text : List Char} (htext : KeyBelow bound text)
    (hle : bound ≤ larger) : KeyBelow larger text := by
  rcases htext with rfl | ⟨width, c, later, hwidth, hc, rfl⟩
  · exact .inl rfl
  · exact .inr ⟨width, c, later, Nat.lt_of_lt_of_le hwidth hle, hc, rfl⟩

theorem KeyBelow.dedented {bound : Nat} {text : List Char} (htext : KeyBelow bound text) :
    Dedented bound text := by
  rcases htext with rfl | ⟨width, c, later, hwidth, hc, rfl⟩
  · exact .inl rfl
  · obtain ⟨hspace, -, -, hbreak⟩ := isAlpha_shape hc
    exact .inr ⟨width, c, later, hwidth, hspace, hbreak, rfl⟩

/-- The indentation of a line is what stands before its first other character. -/
theorem spaces_append_inj {width other : Nat} {c d : Char} {later rest : List Char} (hc : c ≠ ' ')
    (hd : d ≠ ' ') (heq : spaces width ++ c :: later = spaces other ++ d :: rest) :
    width = other ∧ c = d ∧ later = rest := by
  induction width generalizing other with
  | zero =>
      cases other with
      | zero => simpa [spaces] using heq
      | succ other => exact absurd (List.cons.inj heq).1 hc
  | succ width ih =>
      cases other with
      | zero => exact absurd (List.cons.inj heq).1.symm hd
      | succ other =>
          obtain ⟨hwidth, hrest⟩ := ih (List.cons.inj heq).2
          exact ⟨congrArg (· + 1) hwidth, hrest⟩

/-! ## Sequences -/

theorem itemLine_append (indent : Nat) (item : String) (rest : List Char) :
    itemLine indent item ++ rest =
      spaces indent ++ '-' :: ' ' :: (endLine (scalar (indent + 2) item.toList) ++ rest) := by
  have hline : itemLine indent item =
      spaces indent ++ ['-', ' '] ++ endLine (scalar (indent + 2) item.toList) := by
    rw [← endLine_append _ (scalar_ne_nil _ _)]
    simp [itemLine]
  simp [hline]

/-- Items stand before whatever a sequence is followed by. -/
theorem dedented_items {indent : Nat} (items : List String) {rest : List Char}
    (hrest : KeyBelow (indent + 1) rest) :
    Dedented (indent + 2) (items.flatMap (itemLine indent) ++ rest) := by
  cases items with
  | nil => exact (hrest.mono (Nat.le_succ _)).dedented
  | cons item later =>
      rw [List.flatMap_cons, List.append_assoc, itemLine_append]
      exact .inr ⟨indent, '-', _, by omega, by decide, by decide, rfl⟩

theorem not_keyBelow_item {indent : Nat} (later : List Char) :
    ¬KeyBelow (indent + 1) (spaces indent ++ '-' :: later) := by
  rintro (hnil | ⟨width, c, rest, hwidth, hc, heq⟩)
  · simp at hnil
  · obtain ⟨hspace, -, hdash, -⟩ := isAlpha_shape hc
    exact hdash (spaces_append_inj (by decide) hspace heq).2.1.symm

theorem items_inj {indent : Nat} {items others : List String} {rest rest' : List Char}
    (hrest : KeyBelow (indent + 1) rest) (hrest' : KeyBelow (indent + 1) rest')
    (heq : items.flatMap (itemLine indent) ++ rest = others.flatMap (itemLine indent) ++ rest') :
    items = others ∧ rest = rest' := by
  induction items generalizing others with
  | nil =>
      cases others with
      | nil => exact ⟨rfl, heq⟩
      | cons other later =>
          rw [List.flatMap_nil, List.nil_append, List.flatMap_cons, List.append_assoc,
            itemLine_append] at heq
          exact absurd (heq ▸ hrest) (not_keyBelow_item _)
  | cons item later ih =>
      cases others with
      | nil =>
          rw [List.flatMap_nil, List.nil_append, List.flatMap_cons, List.append_assoc,
            itemLine_append] at heq
          exact absurd (heq.symm ▸ hrest') (not_keyBelow_item _)
      | cons other more =>
          rw [List.flatMap_cons, List.flatMap_cons, List.append_assoc, List.append_assoc,
            itemLine_append, itemLine_append] at heq
          have hscalars := List.append_cancel_left heq
          have hread := congrArg (readScalar (indent + 2))
            (List.cons.inj (List.cons.inj hscalars).2).2
          rw [readScalar_scalar (by omega) _ (dedented_items later hrest),
            readScalar_scalar (by omega) _ (dedented_items more hrest')] at hread
          simp only [Prod.mk.injEq] at hread
          obtain ⟨-, hitem, hlater⟩ := hread
          obtain ⟨hmore, hrests⟩ := ih hlater
          exact ⟨by rw [String.toList_inj.1 hitem, hmore], hrests⟩

/-! ## Nodes that stand behind their key -/

theorem Node.render_string (indent : Nat) (value : String) :
    (string value).render indent = endLine (' ' :: scalar (indent + 2) value.toList) := rfl

theorem Node.render_sequence (indent : Nat) (item : String) (later : List String) :
    (sequence (item :: later)).render indent =
      '\n' :: (item :: later).flatMap (itemLine indent) := rfl

theorem Node.render_mapping (indent : Nat) (field : String × Node) (later : List (String × Node)) :
    (mapping (field :: later)).render indent =
      '\n' :: renderFields (indent + 2) (field :: later) := rfl

/-- How a node is written that takes no lines of its own: whether plain, and its text. -/
def Node.inline? : Node → Option (Bool × List Char)
  | .bool true => some (true, "true".toList)
  | .bool false => some (true, "false".toList)
  | .string value => some (decide (style value.toList = .plain), value.toList)
  | .sequence [] => some (true, "[]".toList)
  | .mapping [] => some (true, "\x7b\x7d".toList)
  | _ => none

theorem Node.render_of_inline {node : Node} {shown : Bool × List Char}
    (hnode : node.inline? = some shown) (indent : Nat) {rest : List Char}
    (hrest : Dedented (indent + 2) rest) :
    ∃ text, node.render indent ++ rest = ' ' :: text ∧
      readScalar (indent + 2) text = (shown.1, shown.2, rest) := by
  cases node with
  | bool value =>
      cases value with
      | true =>
          obtain rfl := Option.some.inj hnode
          exact ⟨"true".toList ++ '\n' :: rest, rfl, readScalar_word _ (by decide) (by decide)
            (by decide) (by decide) rest⟩
      | false =>
          obtain rfl := Option.some.inj hnode
          exact ⟨"false".toList ++ '\n' :: rest, rfl, readScalar_word _ (by decide) (by decide)
            (by decide) (by decide) rest⟩
  | string value =>
      obtain rfl := Option.some.inj hnode
      have hline := endLine_append [' '] (scalar_ne_nil (indent + 2) value.toList)
      refine ⟨endLine (scalar (indent + 2) value.toList) ++ rest, ?_,
        readScalar_scalar (by omega) _ hrest⟩
      rw [Node.render_string, ← List.singleton_append, hline]
      rfl
  | sequence items =>
      cases items with
      | nil =>
          obtain rfl := Option.some.inj hnode
          exact ⟨"[]".toList ++ '\n' :: rest, rfl, readScalar_word _ (by decide) (by decide)
            (by decide) (by decide) rest⟩
      | cons item later => cases hnode
  | mapping fields =>
      cases fields with
      | nil =>
          obtain rfl := Option.some.inj hnode
          exact ⟨"\x7b\x7d".toList ++ '\n' :: rest, rfl, readScalar_word _ (by decide) (by decide)
            (by decide) (by decide) rest⟩
      | cons field later => cases hnode

/-- A node on lines of its own has an item or a field. -/
theorem Node.block_cases {node : Node} (hnode : node.inline? = none) :
    (∃ item later, node = .sequence (item :: later)) ∨
      ∃ field later, node = .mapping (field :: later) := by
  cases node with
  | bool value => cases value <;> cases hnode
  | string value => cases hnode
  | sequence items =>
      cases items with
      | nil => cases hnode
      | cons item later => exact .inl ⟨item, later, rfl⟩
  | mapping fields =>
      cases fields with
      | nil => cases hnode
      | cons field later => exact .inr ⟨field, later, rfl⟩

def Node.ofInline (shown : Bool × List Char) : Node :=
  if shown = (true, "true".toList) then .bool true
  else if shown = (true, "false".toList) then .bool false
  else if shown = (true, "[]".toList) then .sequence []
  else if shown = (true, "\x7b\x7d".toList) then .mapping []
  else .string (String.ofList shown.2)

/-- A plain string is none of the words that stand for another node. -/
theorem Node.eq_ofInline {node : Node} {shown : Bool × List Char}
    (hnode : node.inline? = some shown) : node = ofInline shown := by
  have hreserved : ∀ word ∈ ["true", "false", "[]", "\x7b\x7d"],
      style word.toList ≠ .plain := by
    decide
  have hnotWord (value word : String) (hmem : word ∈ ["true", "false", "[]", "\x7b\x7d"]) :
      (decide (style value.toList = .plain), value.toList) ≠ (true, word.toList) := by
    intro heq
    simp only [Prod.mk.injEq, decide_eq_true_eq, String.toList_inj] at heq
    exact hreserved word hmem (heq.2 ▸ heq.1)
  cases node with
  | bool value => cases value <;> cases hnode <;> rfl
  | string value =>
      obtain rfl := Option.some.inj hnode
      rw [ofInline, if_neg (hnotWord value "true" (by decide)),
        if_neg (hnotWord value "false" (by decide)), if_neg (hnotWord value "[]" (by decide)),
        if_neg (hnotWord value "\x7b\x7d" (by decide)), String.ofList_toList]
  | sequence items =>
      cases items <;> cases hnode
      rfl
  | mapping fields =>
      cases fields <;> cases hnode
      rfl

/-! ## Fields -/

theorem renderFields_cons_append (indent : Nat) (field : String × Node)
    (later : List (String × Node)) (rest : List Char) :
    renderFields indent (field :: later) ++ rest =
      spaces indent ++ (field.1.toList ++ ':' ::
        (field.2.render indent ++ (renderFields indent later ++ rest))) := by
  simp [renderFields]

theorem keyBelow_fields {indent : Nat} {fields : List (String × Node)}
    (hkeys : ∀ field ∈ fields, IsWord field.1) {rest : List Char}
    (hrest : KeyBelow (indent + 1) rest) :
    KeyBelow (indent + 1) (renderFields indent fields ++ rest) := by
  cases fields with
  | nil => exact hrest
  | cons field later =>
      obtain ⟨c, more, hkey, hc⟩ := (hkeys field List.mem_cons_self).exists_cons
      rw [renderFields_cons_append, hkey, List.cons_append]
      exact .inr ⟨indent, c, _, Nat.lt_succ_self indent, hc, rfl⟩

/-- A key ends where its colon stands. -/
theorem word_append_inj {key other : String} (hkey : IsWord key) (hother : IsWord other)
    {rest rest' : List Char}
    (heq : key.toList ++ ':' :: rest = other.toList ++ ':' :: rest') :
    key = other ∧ rest = rest' := by
  have hcut {word : String} (hword : IsWord word) (later : List Char) :
      (word.toList ++ ':' :: later).takeWhile (fun c => decide (c ≠ ':')) = word.toList := by
    have hletters : ∀ c ∈ word.toList, decide (c ≠ ':') = true := by
      intro c hc
      exact decide_eq_true (isAlpha_shape (hword.2 c hc)).2.1
    rw [List.takeWhile_append_of_pos hletters]
    simp
  have hsame : key.toList = other.toList := by
    rw [← hcut hkey rest, heq, hcut hother rest']
  rw [hsame] at heq
  exact ⟨String.toList_inj.1 hsame, (List.cons.inj (List.append_cancel_left heq)).2⟩

/-- No line of fields stands where only shallower ones can. -/
theorem not_keyBelow_field {indent : Nat} {field : String × Node} (hkey : IsWord field.1)
    (later : List (String × Node)) (rest : List Char) :
    ¬KeyBelow indent (renderFields indent (field :: later) ++ rest) := by
  obtain ⟨c, more, hkey, hc⟩ := hkey.exists_cons
  rw [renderFields_cons_append, hkey, List.cons_append]
  rintro (hnil | ⟨width, d, tail, hwidth, hd, heq⟩)
  · simp at hnil
  · have hsame := (spaces_append_inj (isAlpha_shape hc).1 (isAlpha_shape hd).1 heq).1
    omega

/-- What a node takes up of a text is settled, whatever stands behind it. -/
def Node.Determined (node : Node) : Prop :=
  ∀ indent (other : Node) (rest rest' : List Char), other.Worded → KeyBelow (indent + 1) rest →
    KeyBelow (indent + 1) rest' → node.render indent ++ rest = other.render indent ++ rest' →
      node = other ∧ rest = rest'

theorem renderFields_inj {indent : Nat} {fields others : List (String × Node)}
    (hkeys : ∀ field ∈ fields, IsWord field.1) (hnodes : ∀ field ∈ fields, field.2.Determined)
    (hotherKeys : ∀ field ∈ others, IsWord field.1) (hothers : ∀ field ∈ others, field.2.Worded)
    {rest rest' : List Char} (hrest : KeyBelow indent rest) (hrest' : KeyBelow indent rest')
    (heq : renderFields indent fields ++ rest = renderFields indent others ++ rest') :
    fields = others ∧ rest = rest' := by
  induction fields generalizing others with
  | nil =>
      cases others with
      | nil => exact ⟨rfl, heq⟩
      | cons other more =>
          rw [renderFields, List.nil_append] at heq
          exact absurd (heq ▸ hrest)
            (not_keyBelow_field (hotherKeys other List.mem_cons_self) more rest')
  | cons field later ih =>
      cases others with
      | nil =>
          rw [renderFields, List.nil_append] at heq
          exact absurd (heq.symm ▸ hrest')
            (not_keyBelow_field (hkeys field List.mem_cons_self) later rest)
      | cons other more =>
          obtain ⟨hkey, hkeys⟩ := List.forall_mem_cons.1 hkeys
          obtain ⟨hnode, hnodes⟩ := List.forall_mem_cons.1 hnodes
          obtain ⟨hotherKey, hotherKeys⟩ := List.forall_mem_cons.1 hotherKeys
          obtain ⟨hother, hothers⟩ := List.forall_mem_cons.1 hothers
          rw [renderFields_cons_append, renderFields_cons_append] at heq
          obtain ⟨hname, hnodesEq⟩ := word_append_inj hkey hotherKey (List.append_cancel_left heq)
          have hbelow := keyBelow_fields hkeys (hrest.mono (Nat.le_succ indent))
          have hbelow' := keyBelow_fields hotherKeys (hrest'.mono (Nat.le_succ indent))
          obtain ⟨hvalue, hlaterEq⟩ := hnode indent other.2 _ _ hother hbelow hbelow' hnodesEq
          obtain ⟨hmore, hrests⟩ := ih hkeys hnodes hotherKeys hothers hlaterEq
          exact ⟨by rw [Prod.ext hname hvalue, hmore], hrests⟩

/-! ## Documents -/

/-- Induction on a node, with the claim for all fields of a mapping at once. -/
@[elab_as_elim]
theorem Node.induction {motive : Node → Prop} (bool : ∀ value, motive (.bool value))
    (string : ∀ value, motive (.string value)) (sequence : ∀ items, motive (.sequence items))
    (mapping : ∀ fields : List (String × Node),
      (∀ field ∈ fields, motive field.2) → motive (.mapping fields))
    (node : Node) : motive node := by
  refine @Node.rec motive (fun fields => ∀ field ∈ fields, motive field.2)
    (fun field => motive field.2) bool string sequence mapping ?_ ?_ ?_ node
  · exact List.forall_mem_nil _
  · exact fun field later hfield hlater => List.forall_mem_cons.2 ⟨hfield, hlater⟩
  · exact fun key value hvalue => hvalue

namespace Node

/-- A node behind its key is told from one on lines of its own by the next character. -/
theorem inline_ne_block {node other : Node} {shown : Bool × List Char}
    (hnode : node.inline? = some shown) (hother : other.inline? = none) {indent : Nat}
    {rest rest' : List Char} (hrest : Dedented (indent + 2) rest) :
    node.render indent ++ rest ≠ other.render indent ++ rest' := by
  obtain ⟨text, htext, -⟩ := render_of_inline hnode indent hrest
  rw [htext]
  rcases block_cases hother with ⟨item, later, rfl⟩ | ⟨field, later, rfl⟩
  · rw [render_sequence, List.cons_append]
    simp
  · rw [render_mapping, List.cons_append]
    simp

theorem determined_of_inline {node : Node} {shown : Bool × List Char}
    (hnode : node.inline? = some shown) : node.Determined := by
  intro indent other rest rest' _ hrest hrest' heq
  have hrest := (hrest.mono (Nat.le_succ _)).dedented
  have hrest' := (hrest'.mono (Nat.le_succ _)).dedented
  cases hother : other.inline? with
  | none => exact absurd heq (inline_ne_block hnode hother hrest)
  | some shown' =>
      obtain ⟨text, htext, hread⟩ := render_of_inline hnode indent hrest
      obtain ⟨text', htext', hread'⟩ := render_of_inline hother indent hrest'
      rw [htext, htext'] at heq
      rw [(List.cons.inj heq).2, hread'] at hread
      simp only [Prod.mk.injEq] at hread
      obtain ⟨hplain, hshown, hrests⟩ := hread
      have hsame : shown = shown' := Prod.ext hplain.symm hshown.symm
      exact ⟨by rw [eq_ofInline hnode, eq_ofInline hother, hsame], hrests.symm⟩

/-- The first line of a sequence is not that of a mapping. -/
theorem sequence_ne_mapping (indent : Nat) (item : String) (items : List String)
    {field : String × Node} (hkey : IsWord field.1) (fields : List (String × Node))
    (rest rest' : List Char) :
    (sequence (item :: items)).render indent ++ rest ≠
      (mapping (field :: fields)).render indent ++ rest' := by
  intro heq
  obtain ⟨c, more, hkey, hc⟩ := hkey.exists_cons
  obtain ⟨hspace, -, hdash, -⟩ := isAlpha_shape hc
  rw [render_sequence, render_mapping, List.cons_append, List.cons_append, List.flatMap_cons,
    List.append_assoc, itemLine_append, renderFields_cons_append, hkey, List.cons_append] at heq
  exact hdash (spaces_append_inj (by decide) hspace (List.cons.inj heq).2).2.1.symm

theorem determined_sequence (item : String) (later : List String) :
    (sequence (item :: later)).Determined := by
  intro indent other rest rest' hother hrest hrest' heq
  cases hshown : other.inline? with
  | some shown =>
      exact absurd heq.symm (inline_ne_block hshown rfl (hrest'.mono (Nat.le_succ _)).dedented)
  | none =>
      rcases block_cases hshown with ⟨item', later', rfl⟩ | ⟨field, fields, rfl⟩
      · rw [render_sequence, render_sequence] at heq
        obtain ⟨hitems, hrests⟩ := items_inj hrest hrest' (List.cons.inj heq).2
        exact ⟨by rw [hitems], hrests⟩
      · cases hother with
        | mapping hkeys =>
            exact absurd heq (sequence_ne_mapping indent item later
              (hkeys field List.mem_cons_self) fields rest rest')

theorem determined_mapping {first : String × Node} {later : List (String × Node)}
    (hkeys : ∀ field ∈ first :: later, IsWord field.1)
    (hnodes : ∀ field ∈ first :: later, field.2.Determined) :
    (mapping (first :: later)).Determined := by
  intro indent other rest rest' hother hrest hrest' heq
  cases hshown : other.inline? with
  | some shown =>
      exact absurd heq.symm (inline_ne_block hshown rfl (hrest'.mono (Nat.le_succ _)).dedented)
  | none =>
      rcases block_cases hshown with ⟨item, items, rfl⟩ | ⟨field', later', rfl⟩
      · exact absurd heq.symm (sequence_ne_mapping indent item items
          (hkeys first List.mem_cons_self) later rest' rest)
      · cases hother with
        | mapping hotherKeys hotherNodes =>
            rw [render_mapping, render_mapping] at heq
            obtain ⟨hfields, hrests⟩ := renderFields_inj hkeys hnodes hotherKeys hotherNodes
              (hrest.mono (Nat.le_succ _)) (hrest'.mono (Nat.le_succ _)) (List.cons.inj heq).2
            exact ⟨by rw [hfields], hrests⟩

theorem determined {node : Node} (hworded : node.Worded) : node.Determined := by
  induction node using Node.induction with
  | bool value => cases value <;> exact determined_of_inline rfl
  | string value => exact determined_of_inline rfl
  | sequence items =>
      cases items with
      | nil => exact determined_of_inline rfl
      | cons item later => exact determined_sequence item later
  | mapping fields ih =>
      cases hworded with
      | mapping hkeys hnodes =>
          cases fields with
          | nil => exact determined_of_inline rfl
          | cons field later =>
              exact determined_mapping hkeys fun field hfield =>
                ih field hfield (hnodes field hfield)

end Node

/-- A document determines its fields. -/
theorem document_inj {fields others : List (String × Node)} (hfields : (Node.mapping fields).Worded)
    (hothers : (Node.mapping others).Worded) (heq : document fields = document others) :
    fields = others := by
  cases hfields with
  | mapping hkeys hnodes =>
      cases hothers with
      | mapping hotherKeys hotherNodes =>
          have hend : KeyBelow 0 [] := .inl rfl
          refine (renderFields_inj hkeys (fun field hfield => Node.determined (hnodes field hfield))
            hotherKeys hotherNodes hend hend ?_).1
          rwa [List.append_nil, List.append_nil]

end ArtifactRelease.Yaml
