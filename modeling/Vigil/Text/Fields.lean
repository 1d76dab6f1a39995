/-!
# Separated Fields

Splitting a text at every occurrence of a separator, and putting the fields together again.

## Main results

* `joinWith_fields`: no character is lost by splitting;
* `fields_append`: a field without the separator is split off whole;
* `fields_joinWith`: fields without the separator come back as they were;
* `splitOnce_eq_some_iff`: a text is cut at its first separator.
-/

namespace Vigil.Text

/-- The parts of a text between the separators, at least one. -/
def fields (sep : Char) : List Char → List (List Char)
  | [] => [[]]
  | c :: cs =>
    if c = sep then [] :: fields sep cs
    else
      match fields sep cs with
      | [] => [[c]]
      | f :: fs => (c :: f) :: fs

/-- The fields with the separator between them. -/
def joinWith (sep : List Char) : List (List Char) → List Char
  | [] => []
  | [f] => f
  | f :: g :: fs => f ++ sep ++ joinWith sep (g :: fs)

/-- Fields joined are a list with the separator between its members. -/
theorem joinWith_eq_intercalate (sep : List Char) (fs : List (List Char)) :
    joinWith sep fs = sep.intercalate fs := by
  fun_induction joinWith sep fs with
  | case1 => rfl
  | case2 f => rw [List.intercalate_singleton]
  | case3 f g fs ih => rw [List.intercalate_cons_cons, ih]

theorem fields_ne_nil (sep : Char) (cs : List Char) : fields sep cs ≠ [] := by
  cases cs with
  | nil => simp [fields]
  | cons c cs =>
    rw [fields]
    split
    · simp
    · split <;> simp

/-- Splitting loses no character. -/
theorem joinWith_fields (sep : Char) (cs : List Char) : joinWith [sep] (fields sep cs) = cs := by
  induction cs with
  | nil => rfl
  | cons c cs ih =>
    rw [fields]
    cases h : fields sep cs with
    | nil => exact absurd h (fields_ne_nil sep cs)
    | cons f fs =>
      rw [h] at ih
      split
      · next hc => rw [joinWith, ih, hc]; rfl
      · next hc =>
        cases fs with
        | nil => simpa [joinWith] using ih
        | cons g gs => simpa [joinWith] using ih

theorem fields_of_notMem {sep : Char} {cs : List Char} (h : sep ∉ cs) : fields sep cs = [cs] := by
  induction cs with
  | nil => rfl
  | cons c cs ih =>
    rw [List.mem_cons, not_or] at h
    rw [fields, if_neg (Ne.symm h.1), ih h.2]

/-- A field without the separator is split off whole. -/
theorem fields_append {sep : Char} {f : List Char} (h : sep ∉ f) (cs : List Char) :
    fields sep (f ++ sep :: cs) = f :: fields sep cs := by
  induction f with
  | nil => simp [fields]
  | cons c f ih =>
    rw [List.mem_cons, not_or] at h
    rw [List.cons_append, fields, if_neg (Ne.symm h.1), ih h.2]

/-- Fields without the separator come back as they were. -/
theorem fields_joinWith {sep : Char} {fs : List (List Char)} (hne : fs ≠ []) (h : ∀ f ∈ fs, sep ∉ f) :
    fields sep (joinWith [sep] fs) = fs := by
  induction fs with
  | nil => exact absurd rfl hne
  | cons f fs ih =>
    rw [List.forall_mem_cons] at h
    cases fs with
    | nil => exact fields_of_notMem h.1
    | cons g fs =>
      rw [joinWith, List.append_assoc, List.singleton_append, fields_append h.1,
        ih (List.cons_ne_nil _ _) h.2]

/-- A character of joined fields is one of the separator or of a field. -/
theorem mem_joinWith {sep : List Char} {fs : List (List Char)} {c : Char} (h : c ∈ joinWith sep fs) :
    c ∈ sep ∨ ∃ f ∈ fs, c ∈ f := by
  fun_induction joinWith sep fs with
  | case1 => cases h
  | case2 f => exact .inr ⟨f, List.mem_cons_self, h⟩
  | case3 f g fs ih =>
    rw [List.mem_append, List.mem_append] at h
    rcases h with (hf | hsep) | hrest
    · exact .inr ⟨f, List.mem_cons_self, hf⟩
    · exact .inl hsep
    · refine (ih hrest).imp_right ?_
      rintro ⟨g', hg, hc⟩
      exact ⟨g', List.mem_cons_of_mem _ hg, hc⟩

/-- A character of a field is one of the text. -/
theorem mem_of_mem_fields {sep : Char} {cs f : List Char} {c : Char} (hf : f ∈ fields sep cs)
    (hc : c ∈ f) : c ∈ cs := by
  induction cs generalizing f with
  | nil =>
    obtain rfl := List.mem_singleton.mp hf
    cases hc
  | cons d cs ih =>
    rw [fields] at hf
    split at hf
    · rcases List.mem_cons.mp hf with rfl | hf
      · cases hc
      · exact List.mem_cons_of_mem _ (ih hf hc)
    · split at hf
      next heq => exact absurd heq (fields_ne_nil sep cs)
      next g gs heq =>
        rw [heq] at ih
        rcases List.mem_cons.mp hf with rfl | hf
        · rcases List.mem_cons.mp hc with rfl | hc
          · exact List.mem_cons_self
          · exact List.mem_cons_of_mem _ (ih List.mem_cons_self hc)
        · exact List.mem_cons_of_mem _ (ih (List.mem_cons_of_mem _ hf) hc)

/-- No field holds the separator. -/
theorem notMem_of_mem_fields {sep : Char} {cs f : List Char} (hf : f ∈ fields sep cs) : sep ∉ f := by
  induction cs generalizing f with
  | nil =>
    obtain rfl := List.mem_singleton.mp hf
    exact List.not_mem_nil
  | cons d cs ih =>
    rw [fields] at hf
    split at hf
    · rcases List.mem_cons.mp hf with rfl | hf
      · exact List.not_mem_nil
      · exact ih hf
    next hd =>
      split at hf
      next heq => exact absurd heq (fields_ne_nil sep cs)
      next g gs heq =>
        rw [heq] at ih
        rcases List.mem_cons.mp hf with rfl | hf
        · exact List.not_mem_cons_of_ne_of_not_mem (Ne.symm hd) (ih List.mem_cons_self)
        · exact ih (List.mem_cons_of_mem _ hf)

/-- The text before the first separator and the text after it, if there is a separator. -/
def splitOnce (sep : Char) : List Char → Option (List Char × List Char)
  | [] => none
  | c :: cs =>
    if c = sep then some ([], cs)
    else (splitOnce sep cs).map fun (before, after) => (c :: before, after)

/-- A text without the separator is split off whole. -/
theorem splitOnce_append {sep : Char} {f : List Char} (h : sep ∉ f) (cs : List Char) :
    splitOnce sep (f ++ sep :: cs) = some (f, cs) := by
  induction f with
  | nil => simp [splitOnce]
  | cons c f ih =>
    rw [List.mem_cons, not_or] at h
    rw [List.cons_append, splitOnce, if_neg (Ne.symm h.1), ih h.2]
    rfl

/-- A text without the separator is not cut. -/
theorem splitOnce_of_notMem {sep : Char} {cs : List Char} (h : sep ∉ cs) :
    splitOnce sep cs = none := by
  induction cs with
  | nil => rfl
  | cons c cs ih =>
    rw [List.mem_cons, not_or] at h
    rw [splitOnce, if_neg (Ne.symm h.1), ih h.2]
    rfl

/-- A text is cut at its first separator. -/
theorem splitOnce_eq_some_iff {sep : Char} {cs before after : List Char} :
    splitOnce sep cs = some (before, after) ↔ cs = before ++ sep :: after ∧ sep ∉ before := by
  constructor
  · intro h
    induction cs generalizing before with
    | nil => cases h
    | cons c cs ih =>
      rw [splitOnce] at h
      split at h
      next hc =>
        cases h
        exact ⟨by rw [hc, List.nil_append], List.not_mem_nil⟩
      next hc =>
        obtain ⟨⟨front, rest⟩, hsplit, heq⟩ := Option.map_eq_some_iff.mp h
        cases heq
        obtain ⟨rfl, hfront⟩ := ih hsplit
        exact ⟨rfl, List.not_mem_cons_of_ne_of_not_mem (Ne.symm hc) hfront⟩
  · rintro ⟨rfl, hbefore⟩
    exact splitOnce_append hbefore after

end Vigil.Text
