set_option autoImplicit false

namespace Listing.Text

/-!
# Blank text

Which characters count as blank, and the three readings of a text that rest on them: cutting the
blank ends off, asking whether anything is left, and taking the first word.
-/

/-- The characters with the Unicode property White_Space, as closed ranges of code points,
ascending and apart. -/
def blankRanges : List (Nat × Nat) :=
  [(0x09, 0x0D), (0x20, 0x20), (0x85, 0x85), (0xA0, 0xA0), (0x1680, 0x1680), (0x2000, 0x200A),
   (0x2028, 0x2029), (0x202F, 0x202F), (0x205F, 0x205F), (0x3000, 0x3000)]

/-- A character is blank when its code point lies in one of the ranges. -/
def isBlankChar (char : Char) : Bool :=
  blankRanges.any fun range => range.1 ≤ char.toNat && char.toNat ≤ range.2

/-- Removes every blank character from both ends and none from the middle. -/
def trimChars (chars : List Char) : List Char :=
  ((chars.dropWhile isBlankChar).reverse.dropWhile isBlankChar).reverse

/-- A text is blank when it holds no character that is not. The empty text is blank. -/
def isBlank (text : String) : Bool :=
  text.toList.all isBlankChar

/-- The first maximal run of characters that are not blank, if there is one. -/
def firstWord? (text : String) : Option String :=
  match (text.toList.dropWhile isBlankChar).takeWhile (fun char => !isBlankChar char) with
  | [] => none
  | word => some (String.ofList word)

/-! ## What trimming leaves -/

theorem dropBlanks_eq_nil_iff {chars : List Char} :
    chars.dropWhile isBlankChar = [] ↔ chars.all isBlankChar = true := by
  induction chars with
  | nil => simp
  | cons char rest ih =>
    rw [List.dropWhile_cons, List.all_cons]
    cases blank : isBlankChar char with
    | true =>
      rw [if_pos rfl, Bool.true_and]
      exact ih
    | false => simp

/-- Trimming leaves nothing exactly when there was nothing but blanks. -/
theorem trimChars_eq_nil_iff {chars : List Char} :
    trimChars chars = [] ↔ chars.all isBlankChar = true := by
  rw [trimChars, List.reverse_eq_nil_iff, dropBlanks_eq_nil_iff, List.all_reverse,
    ← @dropBlanks_eq_nil_iff chars, ← dropBlanks_eq_nil_iff]
  constructor
  · intro rest
    cases left : chars.dropWhile isBlankChar with
    | nil => rfl
    | cons char tail =>
      have stopped := List.head_dropWhile_not (l := chars) isBlankChar (by rw [left]; simp)
      simp only [left, List.head_cons] at stopped
      simp [left, stopped] at rest
  · intro nothing
    simp [nothing]

/-- A text with a character that is not blank is not blank. -/
theorem isBlank_eq_false {text : String} {char : Char} (member : char ∈ text.toList)
    (visible : isBlankChar char = false) : isBlank text = false := by
  rw [isBlank, List.all_eq_false]
  exact ⟨char, member, by simp [visible]⟩

theorem dropBlanks_of_head? {chars : List Char}
    (visible : ∀ char ∈ chars.head?, isBlankChar char = false) :
    chars.dropWhile isBlankChar = chars := by
  cases chars with
  | nil => rfl
  | cons char rest =>
    rw [List.dropWhile_cons, if_neg]
    rw [visible char rfl]
    exact Bool.false_ne_true

/-- A text without a blank at either end is not changed. -/
theorem trimChars_of_ends {chars : List Char}
    (begins : ∀ char ∈ chars.head?, isBlankChar char = false)
    (ends : ∀ char ∈ chars.getLast?, isBlankChar char = false) : trimChars chars = chars := by
  rw [← List.head?_reverse] at ends
  rw [trimChars, dropBlanks_of_head? begins, dropBlanks_of_head? ends, List.reverse_reverse]

/-- Blanks around a text that begins and ends with other characters are cut off. -/
theorem trimChars_between {before after inside : List Char} {first last : Char}
    (blankBefore : ∀ char ∈ before, isBlankChar char = true)
    (blankAfter : ∀ char ∈ after, isBlankChar char = true)
    (firstVisible : isBlankChar first = false) (lastVisible : isBlankChar last = false) :
    trimChars (before ++ first :: inside ++ last :: after) = first :: inside ++ [last] := by
  have blankBehind : ∀ char ∈ after.reverse, isBlankChar char = true := by
    intro char member
    exact blankAfter char (List.mem_reverse.1 member)
  rw [trimChars, List.append_assoc, List.dropWhile_append_of_pos blankBefore, List.cons_append,
    List.dropWhile_cons, if_neg (by simp [firstVisible])]
  simp only [List.reverse_cons, List.reverse_append, List.append_assoc]
  rw [List.dropWhile_append_of_pos blankBehind, List.singleton_append, List.dropWhile_cons,
    if_neg (by simp [lastVisible])]
  simp

end Listing.Text
