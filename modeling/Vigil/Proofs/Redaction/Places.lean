import Vigil.Proofs.Redaction

/-!
# Places of Credentials

What redaction does at each place in a value. A place is reached by a path of steps, each to a field of
an object or to an item of an array. Where no step of the path goes by a key that names a credential, the
value at the place keeps its outline: its keys, its length, or itself if it is plain. Where only the
last step does, the placeholder stands at the place. Nothing is found beyond such a step.

Keys are compared without regard to case, so a change of case in the keys of an object is a change of
case in those of its image (`Recased`).

## Main results

* `Redaction.at?_redact_of_isOpen`, `Redaction.at?_redact_of_isSecret`, `Redaction.at?_redact_beyond`: a
  redacted value at the end of a path.
* `Redaction.redactFields_eq_iff`: redaction forgets credentials and nothing else.
* `Redaction.RecasedFields.redactFields`: the case of keys does not matter.
* `Redaction.redaction_exact`: all of this of the fields that are redacted.
-/

namespace Vigil

/-! ### Places in a value -/

/-- A step into a value. -/
inductive Json.Step
  /-- To the value of the field at a place, which is that of the key. -/
  | field (place : Nat) (key : String)
  /-- To the item at a place. -/
  | item (place : Nat)
  deriving DecidableEq, Repr

/-- The value that a step leads to, if it leads to any. -/
def Json.child? : Step → Json → Option Json
  | .field place key, .obj fields => (fields[place]?.filter (·.1 = key)).map Prod.snd
  | .item place, .arr items => items[place]?
  | _, _ => none

/-- The value that a path leads to, if it leads to any. -/
def Json.at? : List Step → Json → Option Json
  | [], v => some v
  | step :: path, v => (v.child? step).bind (at? path)

/-- A path in two parts leads on from where the first part leads. -/
theorem Json.at?_append (front path : List Step) (v : Json) :
    v.at? (front ++ path) = (v.at? front).bind (at? path) := by
  induction front generalizing v with
  | nil => rfl
  | cons step front ih =>
      rw [List.cons_append, at?, at?, Option.bind_assoc]
      exact congrArg _ (funext ih)

/-- What is seen of a value without a step into it. -/
inductive Json.Outline
  | plain (value : Json)
  | array (length : Nat)
  | object (keys : List String)

/-- The outline of a value: the keys of an object in order, the length of an array, and any other value
as it is. -/
def Json.outline : Json → Outline
  | .arr items => .array items.length
  | .obj fields => .object (fields.map Prod.fst)
  | v => .plain v

namespace Redaction

/-- Whether a step goes by a key that names a credential. -/
def isSecretStep : Json.Step → Bool
  | .field _ key => isSecret key
  | .item _ => false

/-- A path that goes by no key that names a credential. -/
def IsOpen (path : List Json.Step) : Prop := ∀ step ∈ path, isSecretStep step = false

instance : DecidablePred IsOpen := fun path =>
  inferInstanceAs (Decidable (∀ step ∈ path, isSecretStep step = false))

/-- A value with no credential in it. -/
def IsClean (v : Json) : Prop := ∀ path w, v.at? path = some w → IsOpen path

/-! ### Redaction field by field -/

/-- What becomes of one field. -/
def redactField (field : String × Json) : String × Json :=
  (field.1, if isSecret field.1 then .str placeholder else redact field.2)

/-- Fields are redacted one by one. -/
theorem redactFields_eq_map (fields : Json.Fields) : redactFields fields = fields.map redactField := by
  induction fields with
  | nil => rfl
  | cons head rest ih => rw [redactFields, ih, List.map_cons, redactField]

/-- Items are redacted one by one. -/
theorem redactItems_eq_map (items : List Json) : redactItems items = items.map redact := by
  induction items with
  | nil => rfl
  | cons v rest ih => rw [redactItems, ih, List.map_cons]

/-- Redaction keeps the outline of a value. -/
theorem outline_redact (v : Json) : (redact v).outline = v.outline := by
  cases v with
  | arr items => simp only [redact, Json.outline, redactItems_eq_map, List.length_map]
  | obj fields =>
      simp only [redact, Json.outline, redactFields_eq_map, List.map_map]
      rfl
  | null | bool _ | num _ | str _ => rfl

/-- A step leads in the image of a value to the placeholder, where its key names a credential, and
elsewhere to the image of what it leads to in the value. -/
theorem child?_redact (step : Json.Step) (v : Json) :
    (redact v).child? step =
      (v.child? step).map fun w => if isSecretStep step then .str placeholder else redact w := by
  cases step with
  | field place key =>
      cases v with
      | obj fields =>
          simp only [redact, Json.child?, redactFields_eq_map, List.getElem?_map]
          cases fields[place]? with
          | none => rfl
          | some field =>
              obtain ⟨k, w⟩ := field
              by_cases h : k = key
              · subst h
                simp only [Option.map_some, Option.filter_some, redactField, decide_true, if_true]
                rfl
              · simp only [Option.map_some, Option.filter_some, redactField, h, decide_false,
                  Bool.false_eq_true, if_false, Option.map_none]
      | null | bool _ | num _ | str _ | arr _ => rfl
  | item place =>
      cases v with
      | arr items => simp only [redact, Json.child?, redactItems_eq_map, List.getElem?_map]; rfl
      | null | bool _ | num _ | str _ | obj _ => rfl

/-! ### The image of a value at a place -/

variable {path front rest : List Json.Step} {step : Json.Step}

/-- An open path has an open rest. -/
theorem isOpen_cons : IsOpen (step :: path) ↔ isSecretStep step = false ∧ IsOpen path :=
  List.forall_mem_cons

/-- **An open path leads to the image** of what it leads to in the value. -/
theorem at?_redact_of_isOpen (h : IsOpen path) (v : Json) :
    (redact v).at? path = (v.at? path).map redact := by
  induction path generalizing v with
  | nil => rfl
  | cons step path ih =>
      obtain ⟨hstep, hpath⟩ := isOpen_cons.mp h
      rw [Json.at?, Json.at?, child?_redact, hstep]
      cases v.child? step with
      | none => rfl
      | some w => exact ih hpath w

/-- **At a key that names a credential stands the placeholder**, whatever stood there. -/
theorem at?_redact_of_isSecret (h : IsOpen front) (hstep : isSecretStep step = true) (v : Json) :
    (redact v).at? (front ++ [step]) =
      (v.at? (front ++ [step])).map fun _ => .str placeholder := by
  rw [Json.at?_append, Json.at?_append, at?_redact_of_isOpen h]
  cases v.at? front with
  | none => rfl
  | some w =>
      simp only [Option.map_some, Option.bind_some, Json.at?, child?_redact, hstep]
      cases w.child? step <;> rfl

/-- **Beyond a key that names a credential there is nothing.** -/
theorem at?_redact_beyond (h : IsOpen front) (hstep : isSecretStep step = true) (hrest : rest ≠ [])
    (v : Json) : (redact v).at? (front ++ step :: rest) = none := by
  obtain ⟨next, rest, rfl⟩ := List.exists_cons_of_ne_nil hrest
  have hleaf (s : String) : (Json.str s).at? (next :: rest) = none := by cases next <;> rfl
  rw [List.append_cons, Json.at?_append, at?_redact_of_isSecret h hstep]
  cases v.at? (front ++ [step]) with
  | none => rfl
  | some w => exact hleaf placeholder

/-- A path is open, or it has a first step by a key that names a credential. -/
theorem isOpen_or_exists (path : List Json.Step) :
    IsOpen path ∨ ∃ front step rest, path = front ++ step :: rest ∧ IsOpen front ∧
      isSecretStep step = true := by
  induction path with
  | nil => exact .inl nofun
  | cons step path ih =>
      cases hstep : isSecretStep step with
      | true => exact .inr ⟨[], step, path, rfl, nofun, hstep⟩
      | false =>
          rcases ih with hopen | ⟨front, next, rest, rfl, hfront, hnext⟩
          · exact .inl (isOpen_cons.mpr ⟨hstep, hopen⟩)
          · exact .inr ⟨step :: front, next, rest, rfl, isOpen_cons.mpr ⟨hstep, hfront⟩, hnext⟩

/-- No place is found in the image that is not one of the value. -/
theorem isSome_at?_of_redact {v : Json} (h : ((redact v).at? path).isSome) : (v.at? path).isSome := by
  rcases isOpen_or_exists path with hopen | ⟨front, step, rest, rfl, hfront, hstep⟩
  · rwa [at?_redact_of_isOpen hopen, Option.isSome_map] at h
  · cases rest with
    | nil => rwa [at?_redact_of_isSecret hfront hstep, Option.isSome_map] at h
    | cons next rest =>
        rw [at?_redact_beyond hfront hstep (List.cons_ne_nil _ _)] at h
        cases h

/-! ### Values without credentials -/

/-- A step into a clean value is open and leads to a clean value. -/
theorem IsClean.child {v w : Json} (h : IsClean v) (hchild : v.child? step = some w) :
    isSecretStep step = false ∧ IsClean w := by
  have hopen (path : List Json.Step) (u : Json) (hu : w.at? path = some u) : IsOpen (step :: path) := by
    refine h _ u ?_
    rw [Json.at?, hchild]
    exact hu
  exact ⟨(isOpen_cons.mp (hopen [] w rfl)).1, fun path u hu => (isOpen_cons.mp (hopen path u hu)).2⟩

mutual

/-- A clean value is left alone. -/
theorem redact_of_isClean : ∀ v : Json, IsClean v → redact v = v
  | .arr items, h => by
      rw [redact, redactItems_of_isClean items fun v hv => ?_]
      obtain ⟨place, hplace⟩ := List.mem_iff_getElem?.mp hv
      have hchild : (Json.arr items).child? (.item place) = some v := hplace
      exact (h.child hchild).2
  | .obj fields, h => by
      rw [redact, redactFields_of_isClean fields fun field hfield => ?_]
      obtain ⟨place, hplace⟩ := List.mem_iff_getElem?.mp hfield
      have hchild : (Json.obj fields).child? (.field place field.1) = some field.2 := by
        rw [Json.child?, hplace]
        simp [Option.filter]
      exact h.child hchild
  | .null, _ | .bool _, _ | .num _, _ | .str _, _ => rfl

/-- Clean items are left alone. -/
theorem redactItems_of_isClean : ∀ items : List Json, (∀ v ∈ items, IsClean v) →
    redactItems items = items
  | [], _ => rfl
  | v :: rest, h => by
      rw [List.forall_mem_cons] at h
      rw [redactItems, redact_of_isClean v h.1, redactItems_of_isClean rest h.2]

/-- Fields under other keys with clean values are left alone. -/
theorem redactFields_of_isClean : ∀ fields : Json.Fields,
    (∀ field ∈ fields, isSecret field.1 = false ∧ IsClean field.2) → redactFields fields = fields
  | [], _ => rfl
  | (key, v) :: rest, h => by
      rw [List.forall_mem_cons] at h
      rw [redactFields, redactFields_of_isClean rest h.2, redact_of_isClean v h.1.2, h.1.1]
      rfl

end

/-! ### What redaction forgets -/

/-- Equal values are alike. -/
theorem Alike.of_eq {v v' : Json} (h : v = v') : Alike v v' := h ▸ .same v

mutual

/-- Values with one image differ in credentials alone. -/
theorem alike_of_redact_eq : ∀ {v v' : Json}, redact v = redact v' → Alike v v'
  | .arr items, v', h => by
      cases v' with
      | arr items' => exact .arr (alikeItems_of_redactItems_eq (Json.arr.inj h))
      | _ => simp [redact] at h
  | .obj fields, v', h => by
      cases v' with
      | obj fields' => exact .obj (alikeFields_of_redactFields_eq (Json.obj.inj h))
      | _ => simp [redact] at h
  | .null, v', h | .bool _, v', h | .num _, v', h | .str _, v', h => by
      cases v' with
      | arr _ | obj _ => simp [redact] at h
      | null | bool _ | num _ | str _ => exact .of_eq h

/-- Items with one image differ in credentials alone. -/
theorem alikeItems_of_redactItems_eq : ∀ {items items' : List Json},
    redactItems items = redactItems items' → AlikeItems items items'
  | [], [], _ => .nil
  | [], _ :: _, h | _ :: _, [], h => by simp [redactItems] at h
  | v :: rest, v' :: rest', h => by
      simp only [redactItems, List.cons.injEq] at h
      exact .cons (alike_of_redact_eq h.1) (alikeItems_of_redactItems_eq h.2)

/-- Fields with one image differ in credentials alone. -/
theorem alikeFields_of_redactFields_eq : ∀ {fields fields' : Json.Fields},
    redactFields fields = redactFields fields' → AlikeFields fields fields'
  | [], [], _ => .nil
  | [], (_, _) :: _, h | (_, _) :: _, [], h => by simp [redactFields] at h
  | (key, v) :: rest, (key', v') :: rest', h => by
      simp only [redactFields, List.cons.injEq, Prod.mk.injEq] at h
      obtain ⟨⟨rfl, hvalue⟩, hrest⟩ := h
      cases hsecret : isSecret key with
      | true => exact .secret hsecret (alikeFields_of_redactFields_eq hrest)
      | false =>
          simp only [hsecret, Bool.false_eq_true, if_false] at hvalue
          exact .plain (alike_of_redact_eq hvalue) (alikeFields_of_redactFields_eq hrest)

end

/-- **Redaction forgets credentials and nothing else.** -/
theorem redactFields_eq_iff {fields fields' : Json.Fields} :
    redactFields fields = redactFields fields' ↔ AlikeFields fields fields' :=
  ⟨alikeFields_of_redactFields_eq, fun h => h.redactFields_eq⟩

/-! ### The case of keys -/

/-- Keys that differ in case alone name the same. -/
theorem isSecret_congr {key key' : String} (h : Guard.lower key = Guard.lower key') :
    isSecret key = isSecret key' := by
  rw [isSecret, isSecret, h]

/-- A step with its key in lower case. -/
def lowerStep : Json.Step → Json.Step
  | .field place key => .field place (Guard.lower key)
  | .item place => .item place

/-- Steps whose keys differ in case alone go by credentials alike. -/
theorem isSecretStep_congr {step step' : Json.Step} (h : lowerStep step = lowerStep step') :
    isSecretStep step = isSecretStep step' := by
  cases step with
  | field place key =>
      cases step' with
      | field place' key' => exact isSecret_congr (Json.Step.field.inj h).2
      | item => cases h
  | item place =>
      cases step' with
      | field => cases h
      | item => rfl

/-- Paths whose keys differ in case alone are open alike. -/
theorem isOpen_congr {path path' : List Json.Step} (h : path.map lowerStep = path'.map lowerStep) :
    IsOpen path ↔ IsOpen path' := by
  induction path generalizing path' with
  | nil => rw [List.map_eq_nil_iff.mp h.symm]
  | cons step path ih =>
      cases path' with
      | nil => cases h
      | cons step' path' =>
          rw [List.map_cons, List.map_cons, List.cons.injEq] at h
          rw [isOpen_cons, isOpen_cons, isSecretStep_congr h.1, ih h.2]

mutual

/-- Two values differ at most in the case of the keys in them. -/
inductive Recased : Json → Json → Prop
  | same (v : Json) : Recased v v
  | arr {items items' : List Json} : RecasedItems items items' → Recased (.arr items) (.arr items')
  | obj {fields fields' : Json.Fields} :
      RecasedFields fields fields' → Recased (.obj fields) (.obj fields')

/-- Items that differ one by one in the case of keys alone. -/
inductive RecasedItems : List Json → List Json → Prop
  | nil : RecasedItems [] []
  | cons {v v' : Json} {rest rest' : List Json} :
      Recased v v' → RecasedItems rest rest' → RecasedItems (v :: rest) (v' :: rest')

/-- Fields that differ one by one in the case of keys alone, of their own and in their values. -/
inductive RecasedFields : Json.Fields → Json.Fields → Prop
  | nil : RecasedFields [] []
  | cons {key key' : String} {v v' : Json} {rest rest' : Json.Fields} :
      Guard.lower key = Guard.lower key' → Recased v v' → RecasedFields rest rest' →
        RecasedFields ((key, v) :: rest) ((key', v') :: rest')

end

mutual

/-- A change of case changes nothing but case in the image. -/
theorem Recased.redact : ∀ {v v' : Json}, Recased v v' →
    Recased (Redaction.redact v) (Redaction.redact v')
  | _, _, .same v => .same _
  | _, _, .arr h => by
      rw [Redaction.redact, Redaction.redact]
      exact .arr h.redactItems
  | _, _, .obj h => by
      rw [Redaction.redact, Redaction.redact]
      exact .obj h.redactFields

/-- The same for items. -/
theorem RecasedItems.redactItems : ∀ {items items' : List Json}, RecasedItems items items' →
    RecasedItems (Redaction.redactItems items) (Redaction.redactItems items')
  | _, _, .nil => .nil
  | _, _, .cons h hrest => by
      rw [Redaction.redactItems, Redaction.redactItems]
      exact .cons h.redact hrest.redactItems

/-- **The case of keys does not matter**: what is replaced under one spelling is replaced under the
other, and what is kept is kept. -/
theorem RecasedFields.redactFields : ∀ {fields fields' : Json.Fields}, RecasedFields fields fields' →
    RecasedFields (Redaction.redactFields fields) (Redaction.redactFields fields')
  | _, _, .nil => .nil
  | (key, _) :: _, _, .cons hkey h hrest => by
      rw [Redaction.redactFields, Redaction.redactFields, isSecret_congr hkey]
      refine .cons hkey ?_ hrest.redactFields
      split
      · exact .same _
      · exact h.redact

end

/-! ### All of it -/

/-- **Redaction is exact.** At every place that an open path leads to, the image has the outline of the
value: the keys of an object in their order, the length of an array, and anything else as it is; a value
with no credential in it is left alone as a whole. At every place that is reached by a key that names a
credential and by no such key before, at any depth and inside arrays, the image has the placeholder. No
place of the image is new. So redaction is idempotent, two objects have one image exactly when they
differ in credentials alone, and the case of keys matters neither to which paths are open nor to what
becomes of the values. -/
theorem redaction_exact (fields : Json.Fields) :
    (∀ path v, (Json.obj fields).at? path = some v → IsOpen path →
      ∃ image, (Json.obj (redactFields fields)).at? path = some image ∧ image.outline = v.outline ∧
        (IsClean v → image = v)) ∧
    (∀ front step v, (Json.obj fields).at? (front ++ [step]) = some v → IsOpen front →
      isSecretStep step = true →
        (Json.obj (redactFields fields)).at? (front ++ [step]) = some (.str placeholder)) ∧
    (∀ path, ((Json.obj (redactFields fields)).at? path).isSome → ((Json.obj fields).at? path).isSome) ∧
    redactFields (redactFields fields) = redactFields fields ∧
    (∀ fields', redactFields fields = redactFields fields' ↔ AlikeFields fields fields') ∧
    (∀ path path' : List Json.Step, path.map lowerStep = path'.map lowerStep →
      (IsOpen path ↔ IsOpen path')) ∧
    ∀ fields', RecasedFields fields fields' →
      RecasedFields (redactFields fields) (redactFields fields') := by
  have himage : Json.obj (redactFields fields) = redact (.obj fields) := by rw [redact]
  refine ⟨fun path v hv hopen => ?_, fun front step v hv hfront hstep => ?_, fun path h => ?_,
    redactFields_redactFields fields, fun _ => redactFields_eq_iff, fun _ _ => isOpen_congr,
    fun _ h => h.redactFields⟩
  · refine ⟨redact v, ?_, outline_redact v, redact_of_isClean v⟩
    rw [himage, at?_redact_of_isOpen hopen, hv, Option.map_some]
  · rw [himage, at?_redact_of_isSecret hfront hstep, hv, Option.map_some]
  · exact isSome_at?_of_redact (himage ▸ h)

/-- Settings with a credential in an array of arrays. -/
def brokers : Json.Fields :=
  [("brokers", .arr [.arr [.obj [("host", .str "kafka-1"), ("SASL_Password", .obj [("pin", .null)])]]])]

/-- The host stays, the credential beside it is replaced whatever it is, and nothing is found in it. -/
theorem redaction_exact_brokers :
    (Json.obj (redactFields brokers)).at?
        [.field 0 "brokers", .item 0, .item 0, .field 0 "host"] = some (.str "kafka-1") ∧
      (Json.obj (redactFields brokers)).at?
        [.field 0 "brokers", .item 0, .item 0, .field 1 "SASL_Password"] = some (.str "***") := by
  obtain ⟨hopen, hsecret, -⟩ := redaction_exact brokers
  obtain ⟨image, himage, -, hclean⟩ :=
    hopen [.field 0 "brokers", .item 0, .item 0, .field 0 "host"] (.str "kafka-1") rfl (by decide)
  have hplain : IsClean (.str "kafka-1") := by
    intro path w hw
    cases path with
    | nil => exact nofun
    | cons step path => cases step <;> cases hw
  refine ⟨hclean hplain ▸ himage, ?_⟩
  exact hsecret [.field 0 "brokers", .item 0, .item 0] (.field 1 "SASL_Password") _ rfl (by decide)
    (by decide)

end Redaction

end Vigil
