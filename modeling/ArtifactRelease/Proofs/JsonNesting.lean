import ArtifactRelease.Proofs.JsonReading
import Mathlib.Data.List.Basic

/-!
# Values that nest too deep

A reader that allows for so many open containers refuses every spelling of a value that nests
deeper, and it does so for that reason: whatever stands before the container that is one too many is
read without a fault.  So the limit on nesting is sharp, in every layout of a value.
-/

namespace ArtifactRelease.Json

def Refuses (reader : Reader Value) (value : Value) : Prop :=
  ∀ gap text rest, Gap gap → Spells value text → Bounded rest →
    reader (gap ++ text ++ rest) = .error .tooDeep

variable {depth : Nat}

/-- Some item is as deep as the deepest. -/
theorem exists_deepestItem {items : List Value} (hdeep : depth < deepestItem items) :
    ∃ item ∈ items, depth < item.nesting := by
  induction items with
  | nil => cases hdeep
  | cons item later ih =>
      rw [deepestItem] at hdeep
      have hcases : depth < item.nesting ∨ depth < deepestItem later := by omega
      rcases hcases with hfirst | hlater
      · exact ⟨item, List.mem_cons_self, hfirst⟩
      · obtain ⟨other, hmem, hother⟩ := ih hlater
        exact ⟨other, List.mem_cons_of_mem _ hmem, hother⟩

theorem deepestField_eq (fields : List (String × Value)) :
    deepestField fields = deepestItem (fields.map Prod.snd) := by
  induction fields with
  | nil => rfl
  | cons field later ih => rw [deepestField, ih, List.map_cons, deepestItem]

theorem exists_deepestField {fields : List (String × Value)}
    (hdeep : depth < deepestField fields) : ∃ field ∈ fields, depth < field.2.nesting := by
  rw [deepestField_eq] at hdeep
  obtain ⟨value, hvalues, hvalue⟩ := exists_deepestItem hdeep
  obtain ⟨field, hmem, rfl⟩ := List.mem_map.1 hvalues
  exact ⟨field, hmem, hvalue⟩

/-- The items of a list are read up to the first that is refused. -/
theorem readItems_refused {reader : Reader Value} {items : List Value}
    (hregular : ∀ item ∈ items, item.Regular)
    (hitems : ∀ item ∈ items, Reads reader item item ∨ Refuses reader item)
    (hrefused : ∃ item ∈ items, Refuses reader item) (taken : List Value) {body : List Char}
    (hbody : Joined Spells taken.isEmpty items body) {fuel : Nat} (hfuel : items.length < fuel)
    (rest : List Char) :
    readItems reader fuel taken (body ++ ']' :: rest) = .error .tooDeep := by
  induction fuel generalizing items taken body with
  | zero => cases hfuel
  | succ fuel ih =>
      cases hbody with
      | done hgap =>
          obtain ⟨item, hmem, -⟩ := hrefused
          cases hmem
      | @item _ item later lead text body hlead htext hlater =>
          obtain ⟨hitem, hregular⟩ := List.forall_mem_cons.1 hregular
          obtain ⟨hfirst, hitems⟩ := List.forall_mem_cons.1 hitems
          have hrest : Bounded (body ++ ']' :: rest) := hlater.bounded (by simp [Bounded])
          rw [List.append_assoc, readItems_item hitem hlead htext]
          by_cases hrefuse : Refuses reader item
          · have hfault := hrefuse [] text _ gap_nil htext hrest
            rw [List.nil_append] at hfault
            rw [hfault]
            rfl
          · have hvalue := hfirst.resolve_right hrefuse [] text _ gap_nil htext hrest
            have hmore := ((List.exists_mem_cons_iff _ _ _).1 hrefused).resolve_left hrefuse
            rw [List.nil_append] at hvalue
            rw [hvalue]
            exact ih hregular hitems hmore (item :: taken) hlater (Nat.lt_of_succ_lt_succ hfuel)

/-- The fields of an object are read up to the first that is refused. -/
theorem readFields_refused {reader : Reader Value} {fields : List (String × Value)}
    (hfields : ∀ field ∈ fields, Reads reader field.2 field.2 ∨ Refuses reader field.2)
    (hrefused : ∃ field ∈ fields, Refuses reader field.2) (taken : List (String × Value))
    {first : Bool} {body : List Char} (hbody : Joined SpellsField first fields body) {fuel : Nat}
    (hfuel : fields.length < fuel) (rest : List Char) :
    readFields reader fuel first taken (body ++ '}' :: rest) = .error .tooDeep := by
  induction fuel generalizing fields taken first body with
  | zero => cases hfuel
  | succ fuel ih =>
      cases hbody with
      | done hgap =>
          obtain ⟨field, hmem, -⟩ := hrefused
          cases hmem
      | @item _ field later lead text body hlead htext hlater =>
          obtain ⟨hfirst, hfields⟩ := List.forall_mem_cons.1 hfields
          have hrest : Bounded (body ++ '}' :: rest) := hlater.bounded (by simp [Bounded])
          obtain ⟨gap, spelling, hgap, hspelling, hstep⟩ :=
            readFields_field reader hlead htext fuel taken (body ++ '}' :: rest)
          rw [List.append_assoc, hstep]
          by_cases hrefuse : Refuses reader field.2
          · rw [hrefuse gap spelling _ hgap hspelling hrest]
            rfl
          · have hread := hfirst.resolve_right hrefuse
            have hmore := ((List.exists_mem_cons_iff _ _ _).1 hrefused).resolve_left hrefuse
            rw [hread gap spelling _ hgap hspelling hrest]
            exact ih hfields hmore _ hlater (Nat.lt_of_succ_lt_succ hfuel)

/-- At a depth of zero no container is opened. -/
theorem readValue_zero {gap : List Char} (hgap : Gap gap) {c : Char} (hc : c = '[' ∨ c = '{')
    (text : List Char) : readValue 0 (gap ++ c :: text) = .error .tooDeep := by
  rcases hc with rfl | rfl
  · rw [readValue, skipSpace_gap hgap rfl]
    simp
  · rw [readValue, skipSpace_gap hgap rfl]
    simp

theorem refuses_array_zero (items : List Value) : Refuses (readValue 0) (.array items) := by
  intro gap text rest hgap htext hrest
  cases htext
  rw [List.append_assoc, List.cons_append, readValue_zero hgap (.inl rfl)]

theorem refuses_object_zero (fields : List (String × Value)) :
    Refuses (readValue 0) (.object fields) := by
  intro gap text rest hgap htext hrest
  cases htext
  rw [List.append_assoc, List.cons_append, readValue_zero hgap (.inr rfl)]

/-- A list is refused with an item that is. -/
theorem refuses_array {items : List Value} (hregular : ∀ item ∈ items, item.Regular)
    (hitems : ∀ item ∈ items, Reads (readValue depth) item item ∨ Refuses (readValue depth) item)
    (hrefused : ∃ item ∈ items, Refuses (readValue depth) item) :
    Refuses (readValue (depth + 1)) (.array items) := by
  intro gap text rest hgap htext hrest
  cases htext with
  | @array _ body hbody =>
      have hfault := readItems_refused hregular hitems hrefused [] hbody
        (hbody.length_lt ']' rest) rest
      rw [List.append_assoc, List.cons_append, List.append_assoc, List.singleton_append,
        readValue_list hgap, hfault]
      rfl

/-- An object is refused with a field that is. -/
theorem refuses_object {fields : List (String × Value)}
    (hfields : ∀ field ∈ fields,
      Reads (readValue depth) field.2 field.2 ∨ Refuses (readValue depth) field.2)
    (hrefused : ∃ field ∈ fields, Refuses (readValue depth) field.2) :
    Refuses (readValue (depth + 1)) (.object fields) := by
  intro gap text rest hgap htext hrest
  cases htext with
  | @object _ body hbody =>
      have hfault := readFields_refused hfields hrefused [] hbody (hbody.length_lt '}' rest) rest
      rw [List.append_assoc, List.cons_append, List.append_assoc, List.singleton_append,
        readValue_object hgap, hfault]
      rfl

/-- Whether a value is read or refused is a matter of its nesting alone. -/
theorem reads_or_refuses {value : Value} (hregular : value.Regular)
    (hrefuses : depth < value.nesting → Refuses (readValue depth) value) :
    Reads (readValue depth) value value ∨ Refuses (readValue depth) value := by
  rcases Nat.lt_or_ge depth value.nesting with hdeep | hfits
  · exact .inr (hrefuses hdeep)
  · exact .inl (reads_readValue hregular hfits)

/-- Every spelling of a regular value that nests deeper than a reader goes is refused. -/
theorem refuses_readValue {value : Value} (hregular : value.Regular)
    (hdepth : depth < value.nesting) : Refuses (readValue depth) value := by
  induction value using Value.induction generalizing depth with
  | array items ih =>
      cases hregular with
      | array hitems =>
          cases depth with
          | zero => exact refuses_array_zero items
          | succ depth =>
              have hdeep : depth < deepestItem items := Nat.lt_of_succ_lt_succ hdepth
              obtain ⟨deepest, hmem, hdeepest⟩ := exists_deepestItem hdeep
              apply refuses_array hitems
              · intro item hitem
                exact reads_or_refuses (hitems item hitem) (ih item hitem (hitems item hitem))
              · exact ⟨deepest, hmem, ih deepest hmem (hitems deepest hmem) hdeepest⟩
  | object fields ih =>
      cases hregular with
      | object hkeys hfields =>
          cases depth with
          | zero => exact refuses_object_zero fields
          | succ depth =>
              have hdeep : depth < deepestField fields := Nat.lt_of_succ_lt_succ hdepth
              obtain ⟨deepest, hmem, hdeepest⟩ := exists_deepestField hdeep
              apply refuses_object
              · intro field hfield
                exact reads_or_refuses (hfields field hfield)
                  (ih field hfield (hfields field hfield))
              · exact ⟨deepest, hmem, ih deepest hmem (hfields deepest hmem) hdeepest⟩
  | _ => cases hdepth

/-- A regular value that nests deeper than the limit is found too deep in every spelling. -/
theorem parse_spelling_tooDeep {value : Value} (hregular : value.Regular)
    (hdepth : maxDepth < value.nesting) {before text after : List Char} (hbefore : Gap before)
    (htext : Spells value text) (hafter : Gap after) :
    parse (String.ofList (before ++ text ++ after)) = .error .tooDeep := by
  have hend : Bounded [] := by simp [Bounded]
  have hbounded : Bounded after := List.append_nil after ▸ hend.gap hafter
  have hfault := refuses_readValue hregular hdepth before text after hbefore htext hbounded
  rw [parse, readAll, String.toList_ofList, hfault]
  rfl

end ArtifactRelease.Json
