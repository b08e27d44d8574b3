import Mathlib.Data.List.Forall2
import Mathlib.Data.List.TakeWhile
import Listing.Text.Blank
import Listing.Text.Segments

set_option autoImplicit false

/-!
# Blanks around texts and segments

Trimming does not see the blanks that are added around a text. Blanks around a joined text are
blanks around its segments.
-/

namespace Listing.Text

variable {separator : Char} {chars inside outside : List Char}
  {segments padded : List (List Char)}

def Blanks (chars : List Char) : Prop :=
  ∀ char ∈ chars, isBlankChar char = true

instance (chars : List Char) : Decidable (Blanks chars) :=
  List.decidableBAll _ chars

/-- The second text is the first one with blanks at its ends. -/
inductive Padded (inside : List Char) : List Char → Prop where
  | mk {before after : List Char} :
      Blanks before → Blanks after → Padded inside (before ++ inside ++ after)

/-- A text without a blank at either end. -/
structure Trimmed (chars : List Char) : Prop where
  begins : ∀ char ∈ chars.head?, isBlankChar char = false
  ends : ∀ char ∈ chars.getLast?, isBlankChar char = false

theorem blanks_nil : Blanks [] :=
  fun _ absurdity => absurd absurdity List.not_mem_nil

theorem Padded.prepend {before : List Char} (blank : Blanks before) :
    Padded chars (before ++ chars) := by
  simpa using Padded.mk blank blanks_nil

theorem Padded.append {after : List Char} (blank : Blanks after) :
    Padded chars (chars ++ after) :=
  .mk blanks_nil blank

theorem Padded.refl (chars : List Char) : Padded chars chars :=
  .prepend blanks_nil

theorem Padded.not_mem {char : Char} (pad : Padded inside outside)
    (visible : isBlankChar char = false) (absent : char ∉ inside) : char ∉ outside := by
  cases pad with
  | mk blankBefore blankAfter =>
      simp only [List.mem_append, not_or]
      refine ⟨⟨fun member => ?_, absent⟩, fun member => ?_⟩
      · exact Bool.false_ne_true (visible.symm.trans (blankBefore char member))
      · exact Bool.false_ne_true (visible.symm.trans (blankAfter char member))

theorem trimChars_eq_nil_iff_blanks : trimChars chars = [] ↔ Blanks chars :=
  trimChars_eq_nil_iff.trans List.all_eq_true

/-! ## Trimming -/

theorem Trimmed.trimChars_eq (trimmed : Trimmed chars) : trimChars chars = chars :=
  trimChars_of_ends trimmed.begins trimmed.ends

theorem visible_of_head?_dropBlanks {char : Char}
    (first : (chars.dropWhile isBlankChar).head? = some char) : isBlankChar char = false := by
  have stopped := List.head?_dropWhile_not isBlankChar chars
  rwa [first] at stopped

theorem trimChars_append_rest (chars : List Char) :
    trimChars chars ++ ((chars.dropWhile isBlankChar).reverse.takeWhile isBlankChar).reverse =
      chars.dropWhile isBlankChar := by
  rw [trimChars, ← List.reverse_append, List.takeWhile_append_dropWhile, List.reverse_reverse]

theorem trimmed_trimChars (chars : List Char) : Trimmed (trimChars chars) where
  begins char first := by
    have begins : (chars.dropWhile isBlankChar).head? = some char := by
      rw [← trimChars_append_rest, List.head?_append, Option.mem_def.1 first, Option.some_or]
    exact visible_of_head?_dropBlanks begins
  ends char last := by
    rw [Option.mem_def, trimChars, List.getLast?_reverse] at last
    exact visible_of_head?_dropBlanks last

/-- Trimming takes blanks away and nothing else. -/
theorem padded_trimChars (chars : List Char) : Padded (trimChars chars) chars := by
  have blankBefore : Blanks (chars.takeWhile isBlankChar) :=
    List.all_eq_true.1 List.all_takeWhile
  have blankAfter :
      Blanks ((chars.dropWhile isBlankChar).reverse.takeWhile isBlankChar).reverse := by
    intro char member
    exact List.all_eq_true.1 List.all_takeWhile char (List.mem_reverse.1 member)
  have padded : Padded (trimChars chars) _ := .mk blankBefore blankAfter
  rwa [List.append_assoc, trimChars_append_rest, List.takeWhile_append_dropWhile] at padded

theorem trimChars_append_blanks {after : List Char} (blank : Blanks after) :
    trimChars (chars ++ after) = trimChars chars := by
  have blankBehind : ∀ char ∈ after.reverse, isBlankChar char = true := by
    intro char member
    exact blank char (List.mem_reverse.1 member)
  rw [trimChars, trimChars, List.dropWhile_append]
  split
  · next nothing =>
      rw [List.isEmpty_iff.1 nothing, dropBlanks_eq_nil_iff.2 (List.all_eq_true.2 blank)]
  · rw [List.reverse_append, List.dropWhile_append_of_pos blankBehind]

theorem trimChars_padded (padded : Padded inside outside) :
    trimChars outside = trimChars inside := by
  cases padded with
  | mk blankBefore blankAfter =>
      rw [trimChars_append_blanks blankAfter, trimChars, trimChars,
        List.dropWhile_append_of_pos blankBefore]

/-- A trimmed text begins with the first character that is not blank. -/
theorem head?_trimChars (chars : List Char) :
    (trimChars chars).head? = chars.find? fun char => !isBlankChar char := by
  have first := List.find?_eq_head?_dropWhile_not (fun char => !isBlankChar char) chars
  simp only [Bool.not_not] at first
  rw [first]
  cases trimmed : trimChars chars with
  | nil =>
      rw [dropBlanks_eq_nil_iff.2 (trimChars_eq_nil_iff.1 trimmed)]
  | cons char rest =>
      rw [← trimChars_append_rest, trimmed, List.cons_append, List.head?_cons, List.head?_cons]

/-! ## Segments -/

theorem separator_not_mem_of_padded (visible : isBlankChar separator = false)
    (pads : List.Forall₂ Padded segments padded)
    (free : ∀ segment ∈ segments, separator ∉ segment) :
    ∀ segment ∈ padded, separator ∉ segment := by
  induction pads with
  | nil => exact free
  | cons pad _ ih =>
      rw [List.forall_mem_cons] at free ⊢
      exact ⟨pad.not_mem visible free.1, ih free.2⟩

/-- No blank is taken for the separator, so segments stay apart with blanks around them and with
blank segments behind them. -/
theorem splitChars_joinChars_padded {blanks : List (List Char)}
    (visible : isBlankChar separator = false)
    (pads : List.Forall₂ Padded (splitChars separator chars) padded)
    (blank : ∀ segment ∈ blanks, Blanks segment) :
    splitChars separator (joinChars separator (padded ++ blanks)) = padded ++ blanks := by
  refine splitChars_joinChars (List.append_ne_nil_of_left_ne_nil ?_ _) ?_
  · rintro rfl
    exact splitChars_ne_nil separator chars (List.forall₂_nil_right_iff.1 pads)
  · intro segment member
    rcases List.mem_append.1 member with member | member
    · exact separator_not_mem_of_padded visible pads
        (fun _ => separator_not_mem_of_mem_splitChars) segment member
    · intro present
      exact Bool.false_ne_true (visible.symm.trans (blank segment member separator present))

theorem map_trimChars_padded (pads : List.Forall₂ Padded segments padded) :
    padded.map trimChars = segments.map trimChars := by
  induction pads with
  | nil => rfl
  | cons pad _ ih => rw [List.map_cons, List.map_cons, trimChars_padded pad, ih]

theorem exists_joinChars_prepend (present : segments ≠ []) {before : List Char}
    (blank : Blanks before) :
    ∃ padded, List.Forall₂ Padded segments padded ∧
      joinChars separator padded = before ++ joinChars separator segments := by
  obtain ⟨segment, rest, rfl⟩ := List.exists_cons_of_ne_nil present
  have others : List.Forall₂ Padded rest rest := List.forall₂_same.2 fun other _ => .refl other
  refine ⟨(before ++ segment) :: rest, .cons (.prepend blank) others, ?_⟩
  cases rest with
  | nil => rfl
  | cons next rest => rw [joinChars_cons_cons, joinChars_cons_cons, List.append_assoc]

theorem exists_joinChars_append (present : segments ≠ []) {after : List Char}
    (blank : Blanks after) :
    ∃ padded, List.Forall₂ Padded segments padded ∧
      joinChars separator padded = joinChars separator segments ++ after := by
  induction segments with
  | nil => exact absurd rfl present
  | cons segment rest ih =>
      cases rest with
      | nil => exact ⟨[segment ++ after], .cons (.append blank) .nil, rfl⟩
      | cons next rest =>
          obtain ⟨_, pads, joined⟩ := ih (List.cons_ne_nil _ _)
          refine ⟨_, .cons (.refl segment) pads, ?_⟩
          cases pads with
          | cons _ _ =>
              rw [joinChars_cons_cons, joinChars_cons_cons, joined, List.append_assoc,
                List.cons_append]

/-- Of the segments of a text, blanks around it change the blanks around the first one and the last
one only. -/
theorem map_trimChars_splitChars_padded (visible : isBlankChar separator = false)
    (pad : Padded inside outside) :
    (splitChars separator outside).map trimChars = (splitChars separator inside).map trimChars := by
  cases pad with
  | @mk before after blankBefore blankAfter =>
      obtain ⟨_, pads, joined⟩ := exists_joinChars_append
        (splitChars_ne_nil separator (before ++ inside)) blankAfter
      obtain ⟨_, innerPads, innerJoined⟩ := exists_joinChars_prepend
        (splitChars_ne_nil separator inside) blankBefore
      rw [joinChars_splitChars] at joined innerJoined
      have outerCut := splitChars_joinChars_padded visible pads (List.forall_mem_nil Blanks)
      have innerCut := splitChars_joinChars_padded visible innerPads (List.forall_mem_nil Blanks)
      rw [List.append_nil, joined] at outerCut
      rw [List.append_nil, innerJoined] at innerCut
      calc (splitChars separator (before ++ inside ++ after)).map trimChars
          = (splitChars separator (before ++ inside)).map trimChars := by
            rw [outerCut, map_trimChars_padded pads]
        _ = (splitChars separator inside).map trimChars := by
            rw [innerCut, map_trimChars_padded innerPads]

/-- Of joined segments the first one decides how the text begins once it is trimmed, unless this is
with a separator. -/
theorem head?_trimChars_joinChars (visible : isBlankChar separator = false) {first : Char}
    (different : first ≠ separator) (segment : List Char) (rest : List (List Char)) :
    (trimChars (joinChars separator (segment :: rest))).head? = some first ↔
      (trimChars segment).head? = some first := by
  cases rest with
  | nil => rfl
  | cons next rest =>
      rw [joinChars_cons_cons, head?_trimChars, head?_trimChars, List.find?_append,
        List.find?_cons_of_pos (by rw [visible]; rfl)]
      cases segment.find? fun char => !isBlankChar char with
      | none => simp [different.symm]
      | some char => rw [Option.some_or]

end Listing.Text
