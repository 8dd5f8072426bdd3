import ArtifactRelease.Json.Value
import ArtifactRelease.Json.Token

/-!
# Spellings of JSON values

A value can be spelled with any blanks between its tokens.  The compact text has none, and the
pretty text has a line break and an indentation before each item; both are spellings of the value,
so that what holds for readers of all spellings holds for both layouts.
-/

namespace ArtifactRelease.Json

open ArtifactRelease.Number

/-! ## Induction on values -/

/-- Induction on a value, with the claim for all items or fields of a container at once. -/
@[elab_as_elim]
theorem Value.induction {motive : Value → Prop} (null : motive .null)
    (bool : ∀ value, motive (.bool value)) (integer : ∀ value, motive (.integer value))
    (double : ∀ value, motive (.double value)) (string : ∀ text, motive (.string text))
    (array : ∀ items, (∀ item ∈ items, motive item) → motive (.array items))
    (object : ∀ fields : List (String × Value),
      (∀ field ∈ fields, motive field.2) → motive (.object fields))
    (value : Value) : motive value := by
  refine @Value.rec motive (fun items => ∀ item ∈ items, motive item)
    (fun fields => ∀ field ∈ fields, motive field.2) (fun field => motive field.2) null bool integer
    double string array object ?_ ?_ ?_ ?_ ?_ value
  · exact List.forall_mem_nil _
  · exact fun item later hitem hlater => List.forall_mem_cons.2 ⟨hitem, hlater⟩
  · exact List.forall_mem_nil _
  · exact fun field later hfield hlater => List.forall_mem_cons.2 ⟨hfield, hlater⟩
  · exact fun key value hvalue => hvalue

/-! ## Spellings -/

def Gap (text : List Char) : Prop := ∀ c ∈ text, isSpace c

instance : DecidablePred Gap := fun text =>
  decidable_of_iff (text.all isSpace) List.all_eq_true

/-- What stands before an item: blanks, and a comma unless the item is the first. -/
inductive Lead : (first : Bool) → List Char → Prop
  | first {gap : List Char} (hgap : Gap gap) : Lead true gap
  | later {before after : List Char} (hbefore : Gap before) (hafter : Gap after) :
      Lead false (before ++ ',' :: after)

/-- The inside of a container from an item on, when `Item` says how items are spelled. -/
inductive Joined {α : Type} (Item : α → List Char → Prop) : (first : Bool) → List α →
    List Char → Prop
  | done {first : Bool} {gap : List Char} (hgap : Gap gap) : Joined Item first [] gap
  | item {first : Bool} {item : α} {later : List α} {lead text body : List Char}
      (hlead : Lead first lead) (htext : Item item text) (hlater : Joined Item false later body) :
      Joined Item first (item :: later) (lead ++ text ++ body)

mutual

inductive Spells : Value → List Char → Prop
  | null : Spells .null "null".toList
  | yes : Spells (.bool true) "true".toList
  | no : Spells (.bool false) "false".toList
  | integer (value : Int) : Spells (.integer value) (integerText value)
  | double (value : Binary64) : Spells (.double value) value.text
  | string (text : String) : Spells (.string text) (stringText text)
  | array {items : List Value} {body : List Char} (hbody : Joined Spells true items body) :
      Spells (.array items) ('[' :: (body ++ [']']))
  | object {fields : List (String × Value)} {body : List Char}
      (hbody : Joined SpellsField true fields body) :
      Spells (.object fields) ('{' :: (body ++ ['}']))

inductive SpellsField : String × Value → List Char → Prop
  | mk {key : String} {value : Value} {before after text : List Char} (hbefore : Gap before)
      (hafter : Gap after) (htext : Spells value text) :
      SpellsField (key, value) (stringText key ++ before ++ ':' :: (after ++ text))

end

theorem gap_nil : Gap [] := List.forall_mem_nil _

theorem gap_space : Gap [' '] := List.forall_mem_singleton.2 rfl

theorem gap_newLine (depth : Nat) : Gap (newLine depth) := by
  intro c hc
  rcases List.mem_cons.1 hc with rfl | hc
  · rfl
  · rw [List.eq_of_mem_replicate hc]
    rfl

namespace Joined

variable {α : Type} {Item : α → List Char → Prop} {item : α} {later : List α}
  {gap lead text body : List Char}

theorem last {first : Bool} (hlead : Lead first lead) (htext : Item item text) (hgap : Gap gap) :
    Joined Item first [item] (lead ++ text ++ gap) :=
  .item hlead htext (.done hgap)

/-- Behind a comma, a first item is a later one. -/
theorem comma (hbody : Joined Item true (item :: later) body) :
    Joined Item false (item :: later) (',' :: body) := by
  cases hbody with
  | item hlead htext hlater =>
      cases hlead with
      | first hgap => exact .item (.later gap_nil hgap) htext hlater

end Joined

/-! ## The two layouts -/

theorem joined_compactItems {items : List Value}
    (hitems : ∀ item ∈ items, Spells item item.compactChars) :
    Joined Spells true items (compactItems items) := by
  induction items with
  | nil => exact .done gap_nil
  | cons item later ih =>
      have hitem := hitems item List.mem_cons_self
      cases later with
      | nil => simpa [compactItems] using Joined.last (.first gap_nil) hitem gap_nil
      | cons next more =>
          have hlater := ih fun item hitem => hitems item (List.mem_cons_of_mem _ hitem)
          simpa [compactItems] using Joined.item (.first gap_nil) hitem hlater.comma

theorem joined_compactFields {fields : List (String × Value)}
    (hfields : ∀ field ∈ fields, Spells field.2 field.2.compactChars) :
    Joined SpellsField true fields (compactFields fields) := by
  induction fields with
  | nil => exact .done gap_nil
  | cons field later ih =>
      have hfield : SpellsField field (stringText field.1 ++ ':' :: field.2.compactChars) := by
        simpa using SpellsField.mk gap_nil gap_nil (hfields field List.mem_cons_self)
      cases later with
      | nil => simpa [compactFields] using Joined.last (.first gap_nil) hfield gap_nil
      | cons next more =>
          have hlater := ih fun field hfield => hfields field (List.mem_cons_of_mem _ hfield)
          simpa [compactFields] using Joined.item (.first gap_nil) hfield hlater.comma

theorem spells_compactChars (value : Value) : Spells value value.compactChars := by
  induction value using Value.induction with
  | null => exact .null
  | bool value =>
      cases value with
      | true => exact .yes
      | false => exact .no
  | integer value => exact .integer value
  | double value => exact .double value
  | string text => exact .string text
  | array items ih => exact .array (joined_compactItems ih)
  | object fields ih => exact .object (joined_compactFields ih)

theorem joined_prettyItems {items : List Value} (hne : items ≠ []) (depth outer : Nat)
    (hitems : ∀ item ∈ items, Spells item (item.prettyChars depth)) :
    Joined Spells true items (prettyItems depth items ++ newLine outer) := by
  induction items with
  | nil => exact absurd rfl hne
  | cons item later ih =>
      have hitem := hitems item List.mem_cons_self
      cases later with
      | nil =>
          simpa [prettyItems] using
            Joined.last (.first (gap_newLine depth)) hitem (gap_newLine outer)
      | cons next more =>
          have hlater := ih (List.cons_ne_nil next more) fun item hitem =>
            hitems item (List.mem_cons_of_mem _ hitem)
          simpa [prettyItems] using Joined.item (.first (gap_newLine depth)) hitem hlater.comma

theorem joined_prettyFields {fields : List (String × Value)} (hne : fields ≠ [])
    (depth outer : Nat)
    (hfields : ∀ field ∈ fields, Spells field.2 (field.2.prettyChars depth)) :
    Joined SpellsField true fields (prettyFields depth fields ++ newLine outer) := by
  induction fields with
  | nil => exact absurd rfl hne
  | cons field later ih =>
      have hfield :
          SpellsField field (stringText field.1 ++ ':' :: ' ' :: field.2.prettyChars depth) := by
        simpa using SpellsField.mk gap_nil gap_space (hfields field List.mem_cons_self)
      cases later with
      | nil =>
          simpa [prettyFields] using
            Joined.last (.first (gap_newLine depth)) hfield (gap_newLine outer)
      | cons next more =>
          have hlater := ih (List.cons_ne_nil next more) fun field hfield =>
            hfields field (List.mem_cons_of_mem _ hfield)
          simpa [prettyFields] using Joined.item (.first (gap_newLine depth)) hfield hlater.comma

theorem spells_prettyChars (value : Value) (depth : Nat) :
    Spells value (value.prettyChars depth) := by
  induction value using Value.induction generalizing depth with
  | null => exact .null
  | bool value =>
      cases value with
      | true => exact .yes
      | false => exact .no
  | integer value => exact .integer value
  | double value => exact .double value
  | string text => exact .string text
  | array items ih =>
      cases items with
      | nil => exact .array (.done gap_nil)
      | cons item later =>
          exact .array (joined_prettyItems (List.cons_ne_nil item later) (depth + 1) depth
            fun item hitem => ih item hitem (depth + 1))
  | object fields ih =>
      cases fields with
      | nil => exact .object (.done gap_nil)
      | cons field later =>
          exact .object (joined_prettyFields (List.cons_ne_nil field later) (depth + 1) depth
            fun field hfield => ih field hfield (depth + 1))

end ArtifactRelease.Json
