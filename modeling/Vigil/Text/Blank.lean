/-!
# Blank Characters

The characters of Unicode's `White_Space` property, and trimming by them. Names, targets and
addresses are compared after trimming, so this is the one notion of blank in the library.

## Main results

* `isBlank_of_isWhitespace`: every blank of ASCII that core knows is a blank here;
* `trimmed_trim`: a trimmed text neither begins nor ends with a blank;
* `trimChars_blanks`, `trimChars_eq_self_iff`: what trimming leaves.
-/

namespace Vigil.Text

/-- The `White_Space` property of Unicode. -/
def isBlank (c : Char) : Bool :=
  let n := c.toNat
  (9 ≤ n && n ≤ 13) || n == 0x20 || n == 0x85 || n == 0xA0 || n == 0x1680 ||
    (0x2000 ≤ n && n ≤ 0x200A) || n == 0x2028 || n == 0x2029 || n == 0x202F ||
    n == 0x205F || n == 0x3000

/-- Every blank that core knows is a blank. -/
theorem isBlank_of_isWhitespace {c : Char} (h : c.isWhitespace = true) : isBlank c = true := by
  simp only [Char.isWhitespace, Bool.or_eq_true, decide_eq_true_eq] at h
  rcases h with ((rfl | rfl) | rfl) | rfl <;> decide

/-- The characters after the leading blanks. -/
def dropBlanks (cs : List Char) : List Char := cs.dropWhile isBlank

/-- The characters before the trailing blanks. -/
def dropTrailingBlanks (cs : List Char) : List Char := (cs.reverse.dropWhile isBlank).reverse

/-- The characters between the outermost non-blank ones. -/
def trimChars (cs : List Char) : List Char := dropTrailingBlanks (dropBlanks cs)

/-- The text without leading and trailing blanks. -/
def trim (s : String) : String := String.ofList (trimChars s.toList)

/-- A text that neither begins nor ends with a blank. -/
def Trimmed (cs : List Char) : Prop :=
  (∀ c, cs.head? = some c → isBlank c = false) ∧ ∀ c, cs.getLast? = some c → isBlank c = false

theorem head?_dropBlanks {cs : List Char} {c : Char} (h : (dropBlanks cs).head? = some c) :
    isBlank c = false := by
  have := List.head?_dropWhile_not isBlank cs
  rw [dropBlanks] at h
  simpa [h] using this

theorem getLast?_dropTrailingBlanks {cs : List Char} {c : Char}
    (h : (dropTrailingBlanks cs).getLast? = some c) : isBlank c = false := by
  rw [dropTrailingBlanks, List.getLast?_reverse] at h
  exact head?_dropBlanks h

/-- Dropping trailing blanks keeps the first character of what is left. -/
theorem head?_dropTrailingBlanks {cs : List Char} {c : Char}
    (h : (dropTrailingBlanks cs).head? = some c) : cs.head? = some c := by
  rw [dropTrailingBlanks, List.head?_reverse] at h
  obtain ⟨xs, hx⟩ := List.dropWhile_suffix (l := cs.reverse) isBlank
  rw [← List.getLast?_reverse, ← hx, List.getLast?_append, h]
  rfl

/-- Trimming leaves a trimmed text. -/
theorem trimmed_trim (cs : List Char) : Trimmed (trimChars cs) :=
  ⟨fun _ h => head?_dropBlanks (head?_dropTrailingBlanks h), fun _ h => getLast?_dropTrailingBlanks h⟩

/-- Nothing is dropped of a text that does not begin with a blank. -/
theorem dropBlanks_eq_self {cs : List Char} (h : ∀ c, cs.head? = some c → isBlank c = false) :
    dropBlanks cs = cs := by
  cases cs with
  | nil => rfl
  | cons c cs => exact List.dropWhile_cons_of_neg (Bool.eq_false_iff.mp (h c rfl))

/-- Blanks around a trimmed text do not count. -/
theorem trimChars_blanks {before after cs : List Char} (hbefore : ∀ c ∈ before, isBlank c = true)
    (hafter : ∀ c ∈ after, isBlank c = true) (h : Trimmed cs) :
    trimChars (before ++ cs ++ after) = cs := by
  obtain ⟨hhead, hlast⟩ := h
  have hback : cs.reverse.dropWhile isBlank = cs.reverse :=
    dropBlanks_eq_self fun c hc => hlast c (List.head?_reverse ▸ hc)
  rw [trimChars, dropBlanks, List.append_assoc, List.dropWhile_append_of_pos hbefore]
  cases cs with
  | nil =>
    rw [List.nil_append, ← List.append_nil after, List.dropWhile_append_of_pos hafter]
    rfl
  | cons c cs =>
    have hfront : (c :: cs ++ after).dropWhile isBlank = c :: cs ++ after :=
      dropBlanks_eq_self fun d hd => hhead d hd
    rw [hfront, dropTrailingBlanks, List.reverse_append,
      List.dropWhile_append_of_pos fun c hc => hafter c (List.mem_reverse.mp hc), hback,
      List.reverse_reverse]

/-- A trimmed text is left as it is by trimming, and no other is. -/
theorem trimChars_eq_self_iff {cs : List Char} : trimChars cs = cs ↔ Trimmed cs := by
  constructor
  · intro h
    have htrimmed := trimmed_trim cs
    rwa [h] at htrimmed
  · intro h
    have hblanks := @trimChars_blanks [] [] cs nofun nofun h
    rwa [List.nil_append, List.append_nil] at hblanks

/-- Trimming again changes nothing. -/
theorem trim_trim (s : String) : trim (trim s) = trim s := by
  rw [trim, trim, String.toList_ofList, trimChars_eq_self_iff.mpr (trimmed_trim _)]

/-- Trimming takes the trailing blanks off what follows the leading ones. -/
theorem trimChars_isPrefix (cs : List Char) : trimChars cs <+: dropBlanks cs := by
  rw [trimChars, dropTrailingBlanks, ← List.reverse_suffix, List.reverse_reverse]
  exact List.dropWhile_suffix isBlank

/-- Trimming leaves a part of a text. -/
theorem trimChars_isInfix (cs : List Char) : trimChars cs <:+: cs :=
  (trimChars_isPrefix cs).isInfix.trans (List.dropWhile_suffix isBlank).isInfix

end Vigil.Text
