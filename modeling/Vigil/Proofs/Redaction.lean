import Vigil.Redaction

/-!
# What Redaction Forgets

Redaction forgets what is stored under keys that name credentials, and nothing of it comes back when
the result is redacted again. `Redaction.Alike` relates values that differ at most in such places, at
any depth of objects and arrays; it is said without redaction, so that "what redaction forgets" is a
statement about it.

## Main results

* `Redaction.field?_redactFields`: a field of redacted fields.
* `Redaction.redactFields_redactFields`: redacted fields are left alone.
* `Redaction.AlikeFields.redactFields_eq`: fields that differ in credentials alone are redacted alike.
-/

namespace Vigil.Redaction

/-! ### Fields and plain values -/

/-- Redaction keeps a field under its key: it replaces the value of a credential and redacts any
other. -/
theorem field?_redactFields (key : String) (fields : Json.Fields) :
    Json.field? key (redactFields fields) =
      (Json.field? key fields).map fun v =>
        if isSecret key then .str placeholder else redact v := by
  induction fields with
  | nil => rfl
  | cons head rest ih =>
      obtain ⟨k, v⟩ := head
      rw [redactFields, Json.field?, Json.field?]
      split
      next h => rw [h, Option.map_some]
      next => exact ih

/-- Redaction leaves a count alone. -/
theorem redact_nat (n : Nat) : redact (Json.nat n) = Json.nat n := rfl

/-- Redaction leaves a list of texts alone. -/
theorem redactItems_texts (texts : List String) :
    redactItems (texts.map .str) = texts.map .str := by
  induction texts with
  | nil => rfl
  | cons text rest ih =>
      rw [List.map_cons, redactItems, ih]
      rfl

/-- Redaction leaves a text that may be absent alone. -/
theorem redact_optional (text : Option String) :
    redact (Json.optional text) = Json.optional text := by
  cases text <;> rfl

/-! ### Redacting again -/

mutual

/-- A redacted value is left alone. -/
theorem redact_redact : ∀ v : Json, redact (redact v) = redact v
  | .arr items => by rw [redact, redact, redactItems_redactItems items]
  | .obj fields => by rw [redact, redact, redactFields_redactFields fields]
  | .null | .bool _ | .num _ | .str _ => rfl

/-- Redacted items are left alone. -/
theorem redactItems_redactItems : ∀ items : List Json,
    redactItems (redactItems items) = redactItems items
  | [] => rfl
  | v :: rest => by rw [redactItems, redactItems, redact_redact v, redactItems_redactItems rest]

/-- **Redacted fields are left alone.** -/
theorem redactFields_redactFields : ∀ fields : Json.Fields,
    redactFields (redactFields fields) = redactFields fields
  | [] => rfl
  | (k, v) :: rest => by
      rw [redactFields, redactFields, redactFields_redactFields rest]
      cases isSecret k with
      | true => rfl
      | false => simp only [Bool.false_eq_true, if_false, redact_redact v]

end

/-! ### Values that differ in credentials alone -/

mutual

/-- Two values differ at most in what is stored in them under keys that name credentials. -/
inductive Alike : Json → Json → Prop
  | same (v : Json) : Alike v v
  | arr {items items' : List Json} : AlikeItems items items' → Alike (.arr items) (.arr items')
  | obj {fields fields' : Json.Fields} : AlikeFields fields fields' → Alike (.obj fields) (.obj fields')

/-- Items that are alike one by one. -/
inductive AlikeItems : List Json → List Json → Prop
  | nil : AlikeItems [] []
  | cons {v v' : Json} {rest rest' : List Json} :
      Alike v v' → AlikeItems rest rest' → AlikeItems (v :: rest) (v' :: rest')

/-- Fields under the same keys, with any two values under a key that names a credential and with
values that are alike under every other key. -/
inductive AlikeFields : Json.Fields → Json.Fields → Prop
  | nil : AlikeFields [] []
  | secret {key : String} {v v' : Json} {rest rest' : Json.Fields} :
      isSecret key = true → AlikeFields rest rest' → AlikeFields ((key, v) :: rest) ((key, v') :: rest')
  | plain {key : String} {v v' : Json} {rest rest' : Json.Fields} :
      Alike v v' → AlikeFields rest rest' → AlikeFields ((key, v) :: rest) ((key, v') :: rest')

end

mutual

/-- Values that differ in credentials alone are redacted alike. -/
theorem Alike.redact_eq : ∀ {v v' : Json}, Alike v v' → redact v = redact v'
  | _, _, .same _ => rfl
  | _, _, .arr h => by rw [redact, redact, h.redactItems_eq]
  | _, _, .obj h => by rw [redact, redact, h.redactFields_eq]

/-- Items that differ in credentials alone are redacted alike. -/
theorem AlikeItems.redactItems_eq : ∀ {items items' : List Json},
    AlikeItems items items' → redactItems items = redactItems items'
  | _, _, .nil => rfl
  | _, _, .cons h hrest => by rw [redactItems, redactItems, h.redact_eq, hrest.redactItems_eq]

/-- **Fields that differ in credentials alone are redacted alike.** -/
theorem AlikeFields.redactFields_eq : ∀ {fields fields' : Json.Fields},
    AlikeFields fields fields' → redactFields fields = redactFields fields'
  | _, _, .nil => rfl
  | _, _, .secret hsecret hrest => by
      rw [redactFields, redactFields, hrest.redactFields_eq, if_pos hsecret, if_pos hsecret]
  | _, _, .plain h hrest => by rw [redactFields, redactFields, h.redact_eq, hrest.redactFields_eq]

end

end Vigil.Redaction
