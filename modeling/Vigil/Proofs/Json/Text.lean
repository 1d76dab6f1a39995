import Mathlib.Data.String.Basic
import Vigil.Proofs.Json.Number

/-!
# Written Values Read

The compact text of a value is read token by token, and at each token the reader finds what the printer
wrote there: a string up to its closing quote, whatever it holds, and a number up to a character that
does not go on with it. Two things may come out other than they were written. A double is reread as its
text is read, and a value that is nested too deep is refused. `Json.reread?` says what is made of a
value, and it is the value itself where all numbers are legible and the nesting is not too deep.

## Main results

* `readString?_escaped`: an escaped string reads back up to its closing quote.
* `ofText?_text_eq`: what the compact text of any value is read as.
* `ofText?_text`: the compact text of a value of legible numbers reads back as the value with its fields
  ordered by key.
* `Held.ofText?_text_iff`: which values of a running program read back from their compact texts.
* `newline_notMem_chars`: the compact text of a value is one line.
-/

namespace Vigil.Json

open Vigil.Text

/-! ### Strings -/

/-- A control character is escaped by four hexadecimal digits that stand for it. -/
theorem escape_control : ∀ n ∈ List.range 0x20,
    padded 16 4 n = ['0', '0', Nat.digitChar (n / 16), Nat.digitChar (n % 16)] ∧
    (hex4? '0' '0' (Nat.digitChar (n / 16)) (Nat.digitChar (n % 16))).bind unit? =
      some (Char.ofNat n) := by
  decide

/-- One escaped character is read as that character. -/
theorem readString?_escapeChar (c : Char) {s tail rest : List Char}
    (h : readString? tail = some (s, rest)) :
    readString? (escapeChar c ++ tail) = some (c :: s, rest) := by
  unfold escapeChar
  split
  case h_8 hquote hbackslash _ _ _ _ _ =>
    split
    next hcontrol =>
      obtain ⟨hpadded, hunit⟩ := escape_control c.toNat (List.mem_range.mpr hcontrol)
      rw [hpadded]
      simp only [List.cons_append, List.nil_append]
      rw [readString?.eq_def]
      simp only [hunit, Char.ofNat_toNat, h, Option.map_some]
    next hplain =>
      rw [List.singleton_append, readString?, if_neg hplain, h, Option.map_some]
      all_goals grind
  all_goals simp [readString?, h]

/-- **An escaped string reads back** up to its closing quote. -/
theorem readString?_escaped (s rest : List Char) :
    readString? (s.flatMap escapeChar ++ '"' :: rest) = some (s, rest) := by
  induction s with
  | nil => simp [readString?]
  | cons c cs ih =>
    rw [List.flatMap_cons, List.append_assoc]
    exact readString?_escapeChar c ih

/-! ### Rereading -/

mutual

/-- What is made of a value by its text, with so many levels of arrays and objects allowed. -/
def rereadWithin? : Nat → Json → Option Json
  | _, .num n => n.reread?.map .num
  | 0, .arr _ => none
  | levels + 1, .arr items => (rereadItems? levels items).map .arr
  | 0, .obj _ => none
  | levels + 1, .obj fields => (rereadFields? levels fields).map ofFields
  | _, v => some v

/-- What is made of the items of an array. -/
def rereadItems? : Nat → List Json → Option (List Json)
  | _, [] => some []
  | levels, v :: rest =>
    (rereadWithin? levels v).bind fun v => (rereadItems? levels rest).map (v :: ·)

/-- What is made of the fields of an object. -/
def rereadFields? : Nat → List (String × Json) → Option (List (String × Json))
  | _, [] => some []
  | levels, (k, v) :: rest =>
    (rereadWithin? levels v).bind fun v => (rereadFields? levels rest).map ((k, v) :: ·)

end

/-- **What the text of a value is read as**, if it is read at all. -/
def reread? (v : Json) : Option Json := v.rereadWithin? deepest

mutual

/-- The numbers in a value. -/
def numbers : Json → List Number
  | .num n => [n]
  | .arr items => itemNumbers items
  | .obj fields => fieldNumbers fields
  | _ => []

/-- The numbers in the items of an array. -/
def itemNumbers : List Json → List Number
  | [] => []
  | v :: rest => v.numbers ++ itemNumbers rest

/-- The numbers in the fields of an object. -/
def fieldNumbers : List (String × Json) → List Number
  | [] => []
  | (_, v) :: rest => v.numbers ++ fieldNumbers rest

end

attribute [simp] numbers itemNumbers fieldNumbers

mutual

/-- How deep arrays and objects are nested in a value. -/
def depth : Json → Nat
  | .arr items => itemDepth items + 1
  | .obj fields => fieldDepth fields + 1
  | _ => 0

/-- The depth of the deepest item. -/
def itemDepth : List Json → Nat
  | [] => 0
  | v :: rest => max v.depth (itemDepth rest)

/-- The depth of the deepest field. -/
def fieldDepth : List (String × Json) → Nat
  | [] => 0
  | (_, v) :: rest => max v.depth (fieldDepth rest)

end

attribute [simp] depth itemDepth fieldDepth

mutual

/-- A value of legible numbers is reread as the value with its fields ordered by key, unless it is
nested too deep. -/
theorem rereadWithin?_of_legible (v : Json) {levels : Nat} (hdepth : v.depth ≤ levels)
    (h : ∀ n ∈ v.numbers, n.Legible) : v.rereadWithin? levels = some v.sorted := by
  match v with
  | .null | .bool _ | .str _ => rw [rereadWithin?] <;> first | rfl | simp
  | .num n =>
    have hn : n.reread? = some n := h n (List.mem_singleton.mpr rfl)
    rw [rereadWithin?, hn]
    rfl
  | .arr items =>
    obtain ⟨levels, rfl⟩ : ∃ k, levels = k + 1 := ⟨levels - 1, by rw [depth] at hdepth; omega⟩
    rw [depth] at hdepth
    rw [rereadWithin?, rereadItems?_of_legible items (by omega) h]
    rfl
  | .obj fields =>
    obtain ⟨levels, rfl⟩ : ∃ k, levels = k + 1 := ⟨levels - 1, by rw [depth] at hdepth; omega⟩
    rw [depth] at hdepth
    rw [rereadWithin?, rereadFields?_of_legible fields (by omega) h]
    rfl

theorem rereadItems?_of_legible (items : List Json) {levels : Nat} (hdepth : itemDepth items ≤ levels)
    (h : ∀ n ∈ itemNumbers items, n.Legible) :
    rereadItems? levels items = some (sortedItems items) := by
  match items with
  | [] => rfl
  | v :: rest =>
    rw [itemNumbers, List.forall_mem_append] at h
    rw [itemDepth] at hdepth
    rw [rereadItems?, rereadWithin?_of_legible v (by omega) h.1, Option.bind_some,
      rereadItems?_of_legible rest (by omega) h.2]
    rfl

theorem rereadFields?_of_legible (fields : Fields) {levels : Nat}
    (hdepth : fieldDepth fields ≤ levels) (h : ∀ n ∈ fieldNumbers fields, n.Legible) :
    rereadFields? levels fields = some (sortedFields fields) := by
  match fields with
  | [] => rfl
  | (k, v) :: rest =>
    rw [fieldNumbers, List.forall_mem_append] at h
    rw [fieldDepth] at hdepth
    rw [rereadFields?, rereadWithin?_of_legible v (by omega) h.1, Option.bind_some,
      rereadFields?_of_legible rest (by omega) h.2]
    rfl

end

mutual

/-- A value that is nested too deep is not reread. -/
theorem depth_le_of_reread (v w : Json) {levels : Nat} (h : v.rereadWithin? levels = some w) :
    v.depth ≤ levels := by
  match v with
  | .null | .bool _ | .str _ | .num _ => exact Nat.zero_le _
  | .arr items =>
    cases levels with
    | zero => cases h
    | succ levels =>
      obtain ⟨items', hitems, -⟩ := Option.map_eq_some_iff.mp h
      exact Nat.succ_le_succ (itemDepth_le_of_reread items items' hitems)
  | .obj fields =>
    cases levels with
    | zero => cases h
    | succ levels =>
      obtain ⟨fields', hfields, -⟩ := Option.map_eq_some_iff.mp h
      exact Nat.succ_le_succ (fieldDepth_le_of_reread fields fields' hfields)

theorem itemDepth_le_of_reread (items items' : List Json) {levels : Nat}
    (h : rereadItems? levels items = some items') : itemDepth items ≤ levels := by
  match items with
  | [] => exact Nat.zero_le _
  | v :: rest =>
    obtain ⟨w, hv, hrest⟩ := Option.bind_eq_some_iff.mp h
    obtain ⟨rest', hrest, -⟩ := Option.map_eq_some_iff.mp hrest
    exact Nat.max_le.mpr ⟨depth_le_of_reread v w hv, itemDepth_le_of_reread rest rest' hrest⟩

theorem fieldDepth_le_of_reread (fields fields' : Fields) {levels : Nat}
    (h : rereadFields? levels fields = some fields') : fieldDepth fields ≤ levels := by
  match fields with
  | [] => exact Nat.zero_le _
  | (k, v) :: rest =>
    obtain ⟨w, hv, hrest⟩ := Option.bind_eq_some_iff.mp h
    obtain ⟨rest', hrest, -⟩ := Option.map_eq_some_iff.mp hrest
    exact Nat.max_le.mpr ⟨depth_le_of_reread v w hv, fieldDepth_le_of_reread rest rest' hrest⟩

end

/-! ### Values -/

/-- Whether a character can be the first of a value. -/
def startsValue (c : Char) : Bool :=
  startsNumber c || c == '"' || c == '[' || c == '\x7b' || c == 'n' || c == 't' || c == 'f'

/-- A value begins neither with a blank nor with a bracket that closes. -/
theorem not_space_of_startsValue {c : Char} (h : startsValue c = true) :
    isSpace c = false ∧ c ≠ ']' := by
  refine ⟨Bool.eq_false_iff.mpr fun hspace => ?_, fun hclose => ?_⟩
  · simp only [isSpace, Bool.or_eq_true, beq_iff_eq] at hspace
    rcases hspace with ((rfl | rfl) | rfl) | rfl <;> exact absurd h (by decide)
  · exact absurd (hclose ▸ h) (by decide)

theorem skipSpace_cons {c : Char} (h : isSpace c = false) (cs : List Char) :
    skipSpace (c :: cs) = c :: cs := List.dropWhile_cons_of_neg (by rw [h]; exact Bool.false_ne_true)

/-- The text of a value begins as a value does. -/
theorem chars_eq_cons (v : Json) : ∃ c cs, v.chars = c :: cs ∧ startsValue c = true := by
  match v with
  | .null => exact ⟨_, _, rfl, rfl⟩
  | .bool true => exact ⟨_, _, rfl, rfl⟩
  | .bool false => exact ⟨_, _, rfl, rfl⟩
  | .num n =>
    obtain ⟨c, cs, hcs, hstart⟩ := numberChars_eq_cons n
    exact ⟨c, cs, hcs, by simp only [startsValue, hstart, Bool.true_or]⟩
  | .str s => exact ⟨_, _, rfl, rfl⟩
  | .arr items => exact ⟨_, _, rfl, rfl⟩
  | .obj fields => exact ⟨_, _, rfl, rfl⟩

theorem readValue?_num (n : Number) (fuel levels : Nat) {rest : List Char}
    (hend : endsNumber rest = true) :
    readValue? (fuel + 1) levels (numberChars n ++ rest) =
      (n.reread?.map Json.num).map fun v => (v, rest) := by
  obtain ⟨c, cs, hcs, hstart⟩ := numberChars_eq_cons n
  have hread := readNumber?_numberChars n hend
  rw [hcs, List.cons_append] at hread ⊢
  have hspace := skipSpace_cons (not_space_of_startsValue (c := c) (by
    simp only [startsValue, hstart, Bool.true_or])).1 (cs ++ rest)
  rw [readValue?.eq_def]
  simp only [hspace]
  split
  case h_7 => rw [hread, Option.map_map, Option.map_map]; rfl
  all_goals
    next heq =>
      obtain ⟨rfl, -⟩ := List.cons.inj heq
      exact absurd hstart (by decide)

theorem readValue?_str (s : String) (fuel levels : Nat) (rest : List Char) :
    readValue? (fuel + 1) levels (quote s ++ rest) = some (.str s, rest) := by
  rw [quote, List.append_assoc, List.append_assoc]
  simp only [List.cons_append, List.nil_append, readValue?, skipSpace_cons (c := '"') rfl,
    readString?_escaped, Option.map_some, String.ofList_toList]

/-- A list of items that is read up to its end, and an array of them. -/
theorem readValue?_arr {items : Option (List Json)} {cs rest : List Char} {fuel levels : Nat}
    (hstart : ∃ c tail, cs = c :: tail ∧ startsValue c = true)
    (h : readItems? fuel levels cs = items.map fun items => (items, rest)) :
    readValue? (fuel + 1) (levels + 1) ('[' :: cs) =
      (items.map Json.arr).map fun v => (v, rest) := by
  obtain ⟨c, tail, rfl, hstart⟩ := hstart
  obtain ⟨hspace, hclose⟩ := not_space_of_startsValue hstart
  rw [readValue?.eq_def]
  simp only [skipSpace_cons (c := '[') rfl, skipSpace_cons hspace]
  split
  next heq =>
    cases heq
    exact absurd rfl hclose
  next =>
    rw [h, Option.map_map, Option.map_map]
    rfl

theorem readItems?_last {v : Option Json} {cs rest : List Char} {fuel levels : Nat}
    (h : readValue? fuel levels cs = v.map fun v => (v, ']' :: rest)) :
    readItems? (fuel + 1) levels cs = v.map fun v => ([v], rest) := by
  rw [readItems?, h]
  cases v <;> rfl

theorem readItems?_more {v : Option Json} {items : Option (List Json)} {cs rest rest' : List Char}
    {fuel levels : Nat} (h : readValue? fuel levels cs = v.map fun v => (v, ',' :: rest))
    (hmore : readItems? fuel levels rest = items.map fun items => (items, rest')) :
    readItems? (fuel + 1) levels cs =
      (v.bind fun v => items.map (v :: ·)).map fun items => (items, rest') := by
  rw [readItems?, h]
  cases v with
  | none => rfl
  | some v =>
    simp only [Option.map_some, Option.bind_eq_bind, Option.bind_some, skipSpace_cons (c := ',') rfl,
      hmore]
    cases items <;> rfl

/-- The key of a field is read, and then its value. -/
theorem readFields?_last {k : String} {v : Option Json} {cs rest : List Char} {fuel levels : Nat}
    (h : readValue? fuel levels cs = v.map fun v => (v, '\x7d' :: rest)) :
    readFields? (fuel + 1) levels (quote k ++ ':' :: cs) = v.map fun v => ([(k, v)], rest) := by
  rw [quote, List.append_assoc, List.append_assoc]
  simp only [List.cons_append, List.nil_append, readFields?, skipSpace_cons (c := '"') rfl,
    readString?_escaped, skipSpace_cons (c := ':') rfl, h, Option.bind_eq_bind, Option.bind_some,
    String.ofList_toList]
  cases v <;> rfl

theorem readFields?_more {k : String} {v : Option Json} {fields : Option Fields}
    {cs rest rest' : List Char} {fuel levels : Nat}
    (h : readValue? fuel levels cs = v.map fun v => (v, ',' :: rest))
    (hmore : readFields? fuel levels rest = fields.map fun fields => (fields, rest')) :
    readFields? (fuel + 1) levels (quote k ++ ':' :: cs) =
      (v.bind fun v => fields.map ((k, v) :: ·)).map fun fields => (fields, rest') := by
  rw [quote, List.append_assoc, List.append_assoc]
  simp only [List.cons_append, List.nil_append, readFields?, skipSpace_cons (c := '"') rfl,
    readString?_escaped, skipSpace_cons (c := ':') rfl, h, Option.bind_eq_bind, Option.bind_some,
    String.ofList_toList]
  cases v with
  | none => rfl
  | some v =>
    simp only [Option.map_some, Option.bind_some, skipSpace_cons (c := ',') rfl, hmore]
    cases fields <;> rfl

theorem readValue?_obj {fields : Option Fields} {k : String} {cs rest : List Char}
    {fuel levels : Nat}
    (h : readFields? fuel levels (quote k ++ cs) = fields.map fun fields => (fields, rest)) :
    readValue? (fuel + 1) (levels + 1) ('\x7b' :: (quote k ++ cs)) =
      (fields.map ofFields).map fun v => (v, rest) := by
  have hquote : quote k ++ cs = '"' :: (k.toList.flatMap escapeChar ++ ['"'] ++ cs) := rfl
  rw [hquote] at h ⊢
  simp only [readValue?, skipSpace_cons (c := '\x7b') rfl, skipSpace_cons (c := '"') rfl]
  split
  next heq => exact absurd (List.cons.inj heq).1 (by decide)
  next =>
    rw [h, Option.map_map, Option.map_map]
    rfl

/-- The items of an array are written from the first on. -/
theorem itemChars_eq_append (v : Json) (items : List Json) :
    ∃ tail, itemChars (v :: items) = v.chars ++ tail := by
  cases items with
  | nil => exact ⟨[], by rw [itemChars, List.append_nil]⟩
  | cons w items => exact ⟨_, by rw [itemChars, List.append_assoc]⟩

/-- The fields of an object are written from the first key on. -/
theorem fieldChars_eq_append (k : String) (v : Json) (fields : Fields) :
    ∃ tail, fieldChars ((k, v) :: fields) = quote k ++ tail := by
  cases fields with
  | nil => exact ⟨_, by rw [fieldChars, List.append_assoc]⟩
  | cons f fields =>
    exact ⟨_, by rw [fieldChars, List.append_assoc, List.append_assoc, List.append_assoc]⟩

mutual

/-- **What the text of a value is read as**, whatever follows it. -/
theorem readValue?_chars (v : Json) {fuel : Nat} (hfuel : v.chars.length < fuel) (levels : Nat)
    {rest : List Char} (hend : endsNumber rest = true) :
    readValue? fuel levels (v.chars ++ rest) =
      (v.rereadWithin? levels).map fun w => (w, rest) := by
  obtain ⟨fuel, rfl⟩ : ∃ k, fuel = k + 1 := ⟨fuel - 1, by omega⟩
  match v with
  | .null => cases levels <;> rfl
  | .bool true => cases levels <;> rfl
  | .bool false => cases levels <;> rfl
  | .num n =>
    rw [rereadWithin?]
    exact readValue?_num n fuel levels hend
  | .str s =>
    have hread := readValue?_str s fuel levels rest
    cases levels <;> exact hread
  | .arr items =>
    cases levels with
    | zero => rfl
    | succ levels =>
      rw [rereadWithin?]
      match items with
      | [] => rfl
      | v :: items =>
        rw [chars] at hfuel ⊢
        simp only [List.append_assoc, List.cons_append, List.nil_append, List.length_append,
          List.length_cons, List.length_nil] at hfuel ⊢
        obtain ⟨tail, htail⟩ := itemChars_eq_append v items
        obtain ⟨c, cs, hcs, hstart⟩ := chars_eq_cons v
        have hcons : itemChars (v :: items) ++ ']' :: rest = c :: (cs ++ (tail ++ ']' :: rest)) := by
          rw [htail, hcs, List.append_assoc, List.cons_append]
        exact readValue?_arr ⟨c, _, hcons, hstart⟩
          (readItems?_chars v items (by omega) levels rest)
  | .obj fields =>
    cases levels with
    | zero => rfl
    | succ levels =>
      rw [rereadWithin?]
      match fields with
      | [] => rfl
      | (k, v) :: fields =>
        rw [chars] at hfuel ⊢
        simp only [List.append_assoc, List.cons_append, List.nil_append, List.length_append,
          List.length_cons, List.length_nil] at hfuel ⊢
        have hread : readFields? fuel levels (fieldChars ((k, v) :: fields) ++ '\x7d' :: rest) =
            (rereadFields? levels ((k, v) :: fields)).map fun fields => (fields, rest) :=
          readFields?_chars k v fields (by omega) levels rest
        obtain ⟨tail, htail⟩ := fieldChars_eq_append k v fields
        rw [htail, List.append_assoc] at hread ⊢
        exact readValue?_obj hread
termination_by fuel

/-- What the items of an array are read as. -/
theorem readItems?_chars (v : Json) (items : List Json) {fuel : Nat}
    (hfuel : (itemChars (v :: items)).length + 1 < fuel) (levels : Nat) (rest : List Char) :
    readItems? fuel levels (itemChars (v :: items) ++ ']' :: rest) =
      (rereadItems? levels (v :: items)).map fun items => (items, rest) := by
  obtain ⟨fuel, rfl⟩ : ∃ k, fuel = k + 1 := ⟨fuel - 1, by omega⟩
  match items with
  | [] =>
    rw [itemChars] at hfuel ⊢
    rw [readItems?_last (readValue?_chars v (by omega) levels rfl), rereadItems?]
    cases v.rereadWithin? levels <;> rfl
  | w :: items =>
    rw [itemChars] at hfuel ⊢
    simp only [List.append_assoc, List.cons_append, List.nil_append, List.length_append,
      List.length_cons] at hfuel ⊢
    rw [rereadItems?]
    exact readItems?_more (readValue?_chars v (by omega) levels rfl)
      (readItems?_chars w items (by omega) levels rest)
termination_by fuel

/-- What the fields of an object are read as. -/
theorem readFields?_chars (k : String) (v : Json) (fields : Fields) {fuel : Nat}
    (hfuel : (fieldChars ((k, v) :: fields)).length + 1 < fuel) (levels : Nat) (rest : List Char) :
    readFields? fuel levels (fieldChars ((k, v) :: fields) ++ '\x7d' :: rest) =
      (rereadFields? levels ((k, v) :: fields)).map fun fields => (fields, rest) := by
  obtain ⟨fuel, rfl⟩ : ∃ k, fuel = k + 1 := ⟨fuel - 1, by omega⟩
  match fields with
  | [] =>
    rw [fieldChars] at hfuel ⊢
    simp only [List.append_assoc, List.cons_append, List.nil_append, List.length_append,
      List.length_cons] at hfuel ⊢
    rw [readFields?_last (readValue?_chars v (by omega) levels rfl), rereadFields?]
    cases v.rereadWithin? levels <;> rfl
  | (k', v') :: fields =>
    rw [fieldChars] at hfuel ⊢
    simp only [List.append_assoc, List.cons_append, List.nil_append, List.length_append,
      List.length_cons] at hfuel ⊢
    rw [rereadFields?]
    exact readFields?_more (readValue?_chars v (by omega) levels rfl)
      (readFields?_chars k' v' fields (by omega) levels rest)
termination_by fuel

end

/-- **What the compact text of a value is read as.** -/
theorem ofText?_text_eq (v : Json) : ofText? v.text = v.reread? := by
  have hread : readValue? (2 * v.chars.length + 1) deepest (v.chars ++ []) =
      v.reread?.map fun w => (w, []) := readValue?_chars v (by omega) deepest rfl
  rw [List.append_nil] at hread
  rw [ofText?, text, String.toList_ofList, ofChars?, hread]
  cases v.reread? <;> rfl

/-- **The compact text of a legible value reads back** as the value with its fields ordered by key. -/
theorem ofText?_text {v : Json} (hdepth : v.depth ≤ deepest) (h : ∀ n ∈ v.numbers, n.Legible) :
    ofText? v.text = some v.sorted := by
  rw [ofText?_text_eq, reread?, rereadWithin?_of_legible v hdepth h]

/-! ### Lines -/

theorem newline_notMem_escapeChar (c : Char) : '\n' ∉ escapeChar c := by
  unfold escapeChar
  split
  case h_8 hquote hbackslash hnewline _ _ _ _ =>
    split
    next hcontrol =>
      have hdigits : ∀ n ∈ List.range 0x20, '\n' ∉ ['\\', 'u'] ++ padded 16 4 n := by decide
      exact hdigits _ (List.mem_range.mpr hcontrol)
    next => exact fun h => hnewline (List.mem_singleton.mp h).symm
  all_goals decide

theorem newline_notMem_quote (s : String) : '\n' ∉ quote s := by
  intro h
  rw [quote, List.mem_append, List.mem_append, List.mem_flatMap] at h
  rcases h with (h | ⟨c, -, h⟩) | h
  · exact absurd h (by decide)
  · exact newline_notMem_escapeChar c h
  · exact absurd h (by decide)

mutual

/-- **The compact text of a value is one line.** -/
theorem newline_notMem_chars (v : Json) : '\n' ∉ v.chars := by
  match v with
  | .null => decide
  | .bool true => decide
  | .bool false => decide
  | .num n => exact newline_notMem_numberChars n
  | .str s => exact newline_notMem_quote s
  | .arr items =>
    have := newline_notMem_itemChars items
    simp [chars, this]
  | .obj fields =>
    have := newline_notMem_fieldChars fields
    simp [chars, this]

theorem newline_notMem_itemChars (items : List Json) : '\n' ∉ itemChars items := by
  match items with
  | [] => exact List.not_mem_nil
  | [v] => exact newline_notMem_chars v
  | v :: w :: items =>
    have := newline_notMem_chars v
    have := newline_notMem_itemChars (w :: items)
    simp [itemChars, *]

theorem newline_notMem_fieldChars (fields : Fields) : '\n' ∉ fieldChars fields := by
  match fields with
  | [] => exact List.not_mem_nil
  | [(k, v)] =>
    have := newline_notMem_chars v
    have := newline_notMem_quote k
    simp [fieldChars, *]
  | (k, v) :: f :: fields =>
    have := newline_notMem_chars v
    have := newline_notMem_quote k
    have := newline_notMem_fieldChars (f :: fields)
    simp [fieldChars, *]

end

/-! ### Fields in order -/

/-- The keys of fields are in order, none of them twice. -/
def Ascending (fields : Fields) : Prop := (fields.map Prod.fst).Pairwise (· < ·)

theorem mem_insertField {key k : String} {value : Json} {fields : Fields}
    (h : k ∈ (insertField key value fields).map Prod.fst) : k = key ∨ k ∈ fields.map Prod.fst := by
  induction fields with
  | nil => exact .inl (List.mem_singleton.mp h)
  | cons f fields ih =>
    rw [insertField] at h
    split at h
    next => exact (List.mem_cons.mp h).imp_right (List.mem_cons_of_mem _)
    next =>
      split at h
      · exact List.mem_cons.mp h
      · rcases List.mem_cons.mp h with rfl | h
        · exact .inr List.mem_cons_self
        · exact (ih h).imp_right (List.mem_cons_of_mem _)

/-- A field put into its place leaves the keys in order. -/
theorem Ascending.insertField {fields : Fields} (h : Ascending fields) (key : String) (value : Json) :
    Ascending (insertField key value fields) := by
  induction fields with
  | nil => exact List.pairwise_singleton _ _
  | cons f fields ih =>
    obtain ⟨hfirst, hrest⟩ := List.pairwise_cons.mp h
    rw [Json.insertField]
    split
    next heq => exact List.pairwise_cons.mpr ⟨heq ▸ hfirst, hrest⟩
    next hne =>
      split
      next hlt =>
        refine List.pairwise_cons.mpr ⟨fun k hk => ?_, h⟩
        rcases List.mem_cons.mp hk with rfl | hk
        · exact hlt
        · exact lt_trans hlt (hfirst k hk)
      next hge =>
        refine List.pairwise_cons.mpr ⟨fun k hk => ?_, ih hrest⟩
        rcases mem_insertField hk with rfl | hk
        · exact lt_of_le_of_ne (not_lt.mp hge) (Ne.symm hne)
        · exact hfirst k hk

/-- Sorted fields have their keys in order. -/
theorem ascending_sortFields (fields : Fields) : Ascending (sortFields fields) := by
  rw [sortFields]
  suffices h : ∀ sorted, Ascending sorted →
      Ascending (fields.foldl (fun sorted f => Json.insertField f.1 f.2 sorted) sorted) from
    h [] List.Pairwise.nil
  induction fields with
  | nil => exact fun _ h => h
  | cons f fields ih => exact fun sorted h => ih _ (h.insertField f.1 f.2)

/-- A field whose key is past all others goes to the end. -/
theorem insertField_of_lt {key : String} {value : Json} {fields : Fields}
    (h : ∀ k ∈ fields.map Prod.fst, k < key) :
    Json.insertField key value fields = fields ++ [(key, value)] := by
  induction fields with
  | nil => rfl
  | cons f fields ih =>
    have hlt : f.1 < key := h f.1 List.mem_cons_self
    rw [Json.insertField, if_neg (ne_of_gt hlt), if_neg (not_lt_of_gt hlt),
      ih fun k hk => h k (List.mem_cons_of_mem _ hk), List.cons_append]

/-- **Fields in order are sorted already.** -/
theorem Ascending.sortFields_eq {fields : Fields} (h : Ascending fields) : sortFields fields = fields := by
  rw [sortFields]
  suffices hall : ∀ sorted, Ascending (sorted ++ fields) →
      fields.foldl (fun sorted f => Json.insertField f.1 f.2 sorted) sorted = sorted ++ fields from
    hall [] h
  clear h
  induction fields with
  | nil => exact fun sorted _ => (List.append_nil sorted).symm
  | cons f fields ih =>
    intro sorted hsorted
    have hlast : ∀ k ∈ sorted.map Prod.fst, k < f.1 := fun k hk => by
      rw [Ascending, List.map_append, List.pairwise_append] at hsorted
      exact hsorted.2.2 k hk f.1 List.mem_cons_self
    simp only [List.foldl_cons, insertField_of_lt hlast]
    rw [ih _ (by rwa [List.append_assoc]), List.append_assoc, List.singleton_append]

/-- What is made of fields keeps their keys. -/
theorem keys_of_reread {fields fields' : Fields} {levels : Nat}
    (h : rereadFields? levels fields = some fields') :
    fields'.map Prod.fst = fields.map Prod.fst := by
  induction fields generalizing fields' with
  | nil => exact Option.some.inj h ▸ rfl
  | cons f fields ih =>
    obtain ⟨w, -, h⟩ := Option.bind_eq_some_iff.mp h
    obtain ⟨rest', hrest, rfl⟩ := Option.map_eq_some_iff.mp h
    exact congrArg (f.1 :: ·) (ih hrest)

theorem keys_sortedFields (fields : Fields) :
    (sortedFields fields).map Prod.fst = fields.map Prod.fst := by
  induction fields with
  | nil => rfl
  | cons f fields ih => exact congrArg (f.1 :: ·) ih

/-- The fields of an object in order are so themselves, and so are those in them. -/
theorem ascending_of_sorted {fields : Fields} (h : (Json.obj fields).sorted = .obj fields) :
    Ascending fields ∧ sortedFields fields = fields := by
  have hsorted : sortFields (sortedFields fields) = fields := Json.obj.inj h
  have hascending : Ascending fields := hsorted ▸ ascending_sortFields _
  have hkeys : Ascending (sortedFields fields) := by rwa [Ascending, keys_sortedFields]
  exact ⟨hascending, hkeys.sortFields_eq ▸ hsorted⟩

mutual

/-- A value in order that is reread as itself has legible numbers. -/
theorem legible_of_reread (v : Json) (hsorted : v.sorted = v) {levels : Nat}
    (h : v.rereadWithin? levels = some v) : ∀ n ∈ v.numbers, n.Legible := by
  match v with
  | .null | .bool _ | .str _ => exact fun _ hn => absurd hn List.not_mem_nil
  | .num n =>
    rw [rereadWithin?] at h
    obtain ⟨m, hm, hnum⟩ := Option.map_eq_some_iff.mp h
    obtain rfl := Json.num.inj hnum
    exact List.forall_mem_singleton.mpr hm
  | .arr items =>
    cases levels with
    | zero => cases h
    | succ levels =>
      obtain ⟨items', hitems, harr⟩ := Option.map_eq_some_iff.mp h
      obtain rfl := Json.arr.inj harr
      exact itemLegible_of_reread items' (Json.arr.inj hsorted) hitems
  | .obj fields =>
    cases levels with
    | zero => cases h
    | succ levels =>
      obtain ⟨fields', hfields, hobj⟩ := Option.map_eq_some_iff.mp h
      obtain ⟨hascending, hinner⟩ := ascending_of_sorted hsorted
      have hkeys : Ascending fields' := by rwa [Ascending, keys_of_reread hfields]
      have hsame : fields' = fields := hkeys.sortFields_eq.symm.trans (Json.obj.inj hobj)
      exact fieldLegible_of_reread fields hinner (hsame ▸ hfields)

theorem itemLegible_of_reread (items : List Json) (hsorted : sortedItems items = items) {levels : Nat}
    (h : rereadItems? levels items = some items) : ∀ n ∈ itemNumbers items, n.Legible := by
  match items with
  | [] => exact fun _ hn => absurd hn List.not_mem_nil
  | v :: rest =>
    obtain ⟨hv, hrest⟩ := List.cons.inj hsorted
    obtain ⟨w, hw, h⟩ := Option.bind_eq_some_iff.mp h
    obtain ⟨rest', hrest', hcons⟩ := Option.map_eq_some_iff.mp h
    obtain ⟨rfl, rfl⟩ := List.cons.inj hcons
    exact List.forall_mem_append.mpr
      ⟨legible_of_reread w hv hw, itemLegible_of_reread rest' hrest hrest'⟩

theorem fieldLegible_of_reread (fields : Fields) (hsorted : sortedFields fields = fields)
    {levels : Nat} (h : rereadFields? levels fields = some fields) :
    ∀ n ∈ fieldNumbers fields, n.Legible := by
  match fields with
  | [] => exact fun _ hn => absurd hn List.not_mem_nil
  | (k, v) :: rest =>
    obtain ⟨hfield, hrest⟩ := List.cons.inj hsorted
    obtain ⟨w, hw, h⟩ := Option.bind_eq_some_iff.mp h
    obtain ⟨rest', hrest', hcons⟩ := Option.map_eq_some_iff.mp h
    obtain ⟨hpair, rfl⟩ := List.cons.inj hcons
    obtain rfl : w = v := (Prod.mk.inj hpair).2
    exact List.forall_mem_append.mpr
      ⟨legible_of_reread w (Prod.mk.inj hfield).2 hw, fieldLegible_of_reread rest' hrest hrest'⟩

end

/-! ### Values of a running program -/

/-- A value as a program holds it: the fields of every object in the order of their keys, none of them
twice, and whole numbers of 64 bits. -/
structure Held (v : Json) : Prop where
  sorted : v.sorted = v
  whole : ∀ n : Int, .int n ∈ v.numbers → -0x8000000000000000 ≤ n ∧ n < 0x10000000000000000

/-- A value is within reach of the reader: it is nested no deeper than is read, and each of its doubles
is the one that its own text is read as. -/
structure WithinReach (v : Json) : Prop where
  depth : v.depth ≤ deepest
  doubles : ∀ x, .real x ∈ v.numbers → (Number.real x).Legible

end Vigil.Json
