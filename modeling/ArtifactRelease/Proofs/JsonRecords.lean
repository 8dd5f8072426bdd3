import ArtifactRelease.Proofs.JsonReading

/-!
# Reading spelled records

A record is read from every spelling of an object whose fields fill, one after the other, slots of
its layout that are empty, as long as no slot that is required stays empty.
-/

namespace ArtifactRelease.Json

variable {α δ : Type}

/-! ## Lists of texts -/

theorem readTextsBody_joined {texts : List String} (taken : List String) {body : List Char}
    (hbody : Joined Spells taken.isEmpty (texts.map .string) body) {fuel : Nat}
    (hfuel : texts.length < fuel) (rest : List Char) :
    readTextsBody fuel taken (body ++ ']' :: rest) = .ok (taken.reverse ++ texts, rest) := by
  induction fuel generalizing texts taken body with
  | zero => cases hfuel
  | succ fuel ih =>
      cases texts with
      | nil =>
          cases hbody with
          | done hgap =>
              rw [readTextsBody, nextItem_of_gap hgap, List.append_nil]
              rfl
      | cons text later =>
          cases hbody with
          | @item _ _ _ lead spelling body hlead htext hlater =>
              obtain ⟨more, rfl⟩ := htext.opening (c := '"') rfl
              have hnext := nextItem_of_lead hlead (c := '"') rfl (by decide)
                (more ++ (body ++ ']' :: rest))
              have hvalue := reads_readText "a string" text [] ('"' :: more)
                (body ++ ']' :: rest) gap_nil htext (hlater.bounded (by simp [Bounded]))
              have hthen := ih (text :: taken) hlater (Nat.lt_of_succ_lt_succ hfuel)
              rw [List.nil_append, List.cons_append] at hvalue
              rw [List.append_assoc, List.append_assoc, List.cons_append, readTextsBody, hnext]
              simp only [bind, Except.bind, if_true, hvalue, hthen]
              simp

theorem reads_readTexts (texts : List String) :
    Reads readTexts (.array (texts.map .string)) texts := by
  intro gap text rest hgap htext hrest
  cases htext with
  | @array _ body hbody =>
      have hopen : isSpace '[' = false := rfl
      have hskip := skipSpace_gap hgap hopen (body ++ ']' :: rest)
      have hfuel := hbody.length_lt ']' rest
      rw [List.length_map] at hfuel
      rw [List.append_assoc, List.cons_append, List.append_assoc, List.singleton_append, readTexts,
        hskip]
      exact readTextsBody_joined [] hbody hfuel rest

/-! ## Records -/

namespace Layout

variable {layout : Layout δ}

/-- The fields fill slots of the layout that are empty, and lead from one draft to another. -/
inductive Fills (layout : Layout δ) : δ → List (String × Value) → δ → Prop
  | nil (draft : δ) : Fills layout draft [] draft
  | cons {draft next final : δ} {key : String} {value : Value} {later : List (String × Value)}
      {slot : Slot δ} (hslot : layout.slots.find? (·.name = key) = some slot)
      (hempty : slot.filled draft = false) (hreads : Reads (slot.fill draft) value next)
      (hlater : Fills layout next later final) :
      Fills layout draft ((key, value) :: later) final

theorem Fills.append {draft middle final : δ} {fields later : List (String × Value)}
    (hfirst : layout.Fills draft fields middle) (hlater : layout.Fills middle later final) :
    layout.Fills draft (fields ++ later) final := by
  induction hfirst with
  | nil => exact hlater
  | cons hslot hempty hreads _ ih => exact .cons hslot hempty hreads (ih hlater)

def Complete (layout : Layout δ) (draft : δ) : Prop :=
  ∀ slot ∈ layout.slots, slot.required → slot.filled draft

theorem readObject_joined {draft final : δ} {fields : List (String × Value)}
    (hfills : layout.Fills draft fields final) (hcomplete : layout.Complete final)
    {first : Bool} {body : List Char} (hbody : Joined SpellsField first fields body) {fuel : Nat}
    (hfuel : fields.length < fuel) (rest : List Char) :
    layout.readObject fuel first draft (body ++ '}' :: rest) = .ok (final, rest) := by
  induction fuel generalizing draft fields first body with
  | zero => cases hfuel
  | succ fuel ih =>
      cases hfills with
      | nil =>
          have hnone : layout.slots.find? (fun slot => slot.required && !slot.filled final) =
              none := by
            rw [List.find?_eq_none]
            intro slot hslot
            simpa using hcomplete slot hslot
          cases hbody with
          | done hgap =>
              rw [readObject, nextKey_of_gap hgap]
              simp only [bind, Except.bind, hnone]
              rfl
      | @cons _ next _ key value later slot hslot hempty hreads hlaterFills =>
          cases hbody with
          | @item _ _ _ lead text body hlead htext hlater =>
              obtain ⟨fromKey, fromColon, gap, spelling, hgap, hspelling, hnext, hkey, hcolon⟩ :=
                htext.read hlead (body ++ '}' :: rest)
              have hvalue := hreads gap spelling (body ++ '}' :: rest) hgap hspelling
                (hlater.bounded (by simp [Bounded]))
              have hthen := ih hlaterFills hlater (Nat.lt_of_succ_lt_succ hfuel)
              rw [List.append_assoc, readObject, hnext]
              simp only [bind, Except.bind, if_true, hkey, hslot, hempty, hcolon, hvalue]
              simpa using hthen

/-- A record is read from the object of fields that complete it. -/
theorem Fills.reads {final : δ} {fields : List (String × Value)}
    (hfills : layout.Fills layout.blank fields final) (hcomplete : layout.Complete final) :
    Reads layout.read (.object fields) final := by
  intro gap text rest hgap htext hrest
  cases htext with
  | @object _ body hbody =>
      have hopen : isSpace '{' = false := rfl
      have hskip := skipSpace_gap hgap hopen (body ++ '}' :: rest)
      rw [List.append_assoc, List.cons_append, List.append_assoc, List.singleton_append, read,
        hskip]
      exact readObject_joined hfills hcomplete hbody (hbody.length_lt '}' rest) rest

end Layout

end ArtifactRelease.Json
