set_option autoImplicit false

namespace Listing.Text

/-!
# Segments

A text cut at every occurrence of a separator, and segments joined again. Cutting keeps empty
segments, so that joining undoes it.
-/

/-- Cuts at every occurrence of the separator. There is always one segment more than there are
separators, so the empty text has one empty segment. -/
def splitChars (separator : Char) : List Char → List (List Char)
  | [] => [[]]
  | char :: rest =>
    if char = separator then [] :: splitChars separator rest
    else
      match splitChars separator rest with
      | [] => [[char]]
      | segment :: segments => (char :: segment) :: segments

/-- Puts one separator between each segment and the next. -/
def joinChars (separator : Char) : List (List Char) → List Char
  | [] => []
  | [segment] => segment
  | segment :: segments => segment ++ separator :: joinChars separator segments

/-- The segments of a text between the occurrences of a separator. -/
def split (separator : Char) (text : String) : List String :=
  (splitChars separator text.toList).map String.ofList

/-- The segments with one separator between each and the next. -/
def join (separator : Char) (segments : List String) : String :=
  String.ofList (joinChars separator (segments.map String.toList))

/-- The text before the first occurrence of a separator, and the text after it if there is one. -/
def splitFirst (separator : Char) (chars : List Char) : List Char × Option (List Char) :=
  match chars.dropWhile (· ≠ separator) with
  | [] => (chars, none)
  | _ :: rest => (chars.takeWhile (· ≠ separator), some rest)

/-! ## Cutting and joining undo each other -/

theorem splitChars_ne_nil (separator : Char) (chars : List Char) :
    splitChars separator chars ≠ [] := by
  cases chars with
  | nil => simp [splitChars]
  | cons char rest =>
    simp only [splitChars]
    split
    · simp
    · split <;> simp

theorem splitChars_cons_self (separator : Char) (rest : List Char) :
    splitChars separator (separator :: rest) = [] :: splitChars separator rest := by
  simp [splitChars]

theorem splitChars_cons_of_ne {separator char : Char} (other : char ≠ separator)
    (rest : List Char) :
    ∃ segment segments, splitChars separator rest = segment :: segments ∧
      splitChars separator (char :: rest) = (char :: segment) :: segments := by
  cases cut : splitChars separator rest with
  | nil => exact absurd cut (splitChars_ne_nil separator rest)
  | cons segment segments => exact ⟨segment, segments, rfl, by simp [splitChars, other, cut]⟩

theorem joinChars_cons_cons (separator : Char) (first second : List Char)
    (segments : List (List Char)) :
    joinChars separator (first :: second :: segments) =
      first ++ separator :: joinChars separator (second :: segments) := rfl

/-- Joining the segments of a text gives the text back. -/
theorem joinChars_splitChars (separator : Char) (chars : List Char) :
    joinChars separator (splitChars separator chars) = chars := by
  induction chars with
  | nil => rfl
  | cons char rest ih =>
    by_cases same : char = separator
    · subst same
      rw [splitChars_cons_self]
      cases cut : splitChars char rest with
      | nil => exact absurd cut (splitChars_ne_nil char rest)
      | cons segment segments =>
        rw [joinChars_cons_cons, ← cut, ih, List.nil_append]
    · obtain ⟨segment, segments, cut, cutCons⟩ := splitChars_cons_of_ne same rest
      rw [cutCons]
      rw [cut] at ih
      cases segments with
      | nil => simpa [joinChars] using ih
      | cons next segments =>
        rw [joinChars_cons_cons] at ih ⊢
        rw [List.cons_append, ih]

/-- No segment holds the separator. -/
theorem separator_not_mem_of_mem_splitChars {separator : Char} {chars segment : List Char}
    (member : segment ∈ splitChars separator chars) : separator ∉ segment := by
  induction chars generalizing segment with
  | nil =>
    simp only [splitChars, List.mem_singleton] at member
    simp [member]
  | cons char rest ih =>
    by_cases same : char = separator
    · subst same
      rw [splitChars_cons_self, List.mem_cons] at member
      rcases member with rfl | member
      · simp
      · exact ih member
    · obtain ⟨first, segments, cut, cutCons⟩ := splitChars_cons_of_ne same rest
      rw [cutCons, List.mem_cons] at member
      rw [cut] at ih
      rcases member with rfl | member
      · simp only [List.mem_cons, not_or]
        exact ⟨fun h => same h.symm, ih List.mem_cons_self⟩
      · exact ih (List.mem_cons_of_mem _ member)

/-- A text without the separator is one segment. -/
theorem splitChars_of_not_mem {separator : Char} {chars : List Char}
    (absent : separator ∉ chars) : splitChars separator chars = [chars] := by
  induction chars with
  | nil => rfl
  | cons char rest ih =>
    simp only [List.mem_cons, not_or] at absent
    rw [splitChars, if_neg (fun h => absent.1 h.symm), ih absent.2]

/-- A text up to its first separator is the first segment. -/
theorem splitChars_append_separator {separator : Char} {chars : List Char}
    (absent : separator ∉ chars) (rest : List Char) :
    splitChars separator (chars ++ separator :: rest) = chars :: splitChars separator rest := by
  induction chars with
  | nil => simp [splitChars]
  | cons char tail ih =>
    simp only [List.mem_cons, not_or] at absent
    rw [List.cons_append, splitChars, if_neg (fun h => absent.1 h.symm), ih absent.2]

/-- Segments free of the separator come back from the joined text, if there is at least one. -/
theorem splitChars_joinChars {separator : Char} {segments : List (List Char)}
    (nonempty : segments ≠ []) (free : ∀ segment ∈ segments, separator ∉ segment) :
    splitChars separator (joinChars separator segments) = segments := by
  induction segments with
  | nil => exact absurd rfl nonempty
  | cons segment segments ih =>
    cases segments with
    | nil => exact splitChars_of_not_mem (free segment List.mem_cons_self)
    | cons next segments =>
      rw [joinChars_cons_cons, splitChars_append_separator (free segment List.mem_cons_self),
        ih (by simp) (fun other member => free other (List.mem_cons_of_mem _ member))]

end Listing.Text
