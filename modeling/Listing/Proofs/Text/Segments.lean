import Listing.Text.Segments

set_option autoImplicit false

/-!
# Texts and their segments

Cutting a text and joining segments undo each other, for texts as for lists of characters.
-/

namespace Listing.Text

theorem split_ne_nil (separator : Char) (text : String) : split separator text ≠ [] := by
  intro nothing
  exact splitChars_ne_nil separator text.toList (List.map_eq_nil_iff.1 nothing)

theorem separator_not_mem_of_mem_split {separator : Char} {text segment : String}
    (member : segment ∈ split separator text) : separator ∉ segment.toList := by
  obtain ⟨chars, cut, rfl⟩ := List.mem_map.1 member
  rw [String.toList_ofList]
  exact separator_not_mem_of_mem_splitChars cut

theorem split_of_not_mem {separator : Char} {text : String} (absent : separator ∉ text.toList) :
    split separator text = [text] := by
  rw [split, splitChars_of_not_mem absent, List.map_singleton, String.ofList_toList]

/-- A text is its own only segment exactly when it is free of the separator. -/
theorem split_eq_singleton_iff {separator : Char} {text : String} :
    split separator text = [text] ↔ separator ∉ text.toList := by
  constructor
  · intro whole
    exact separator_not_mem_of_mem_split (whole ▸ List.mem_singleton_self text)
  · exact split_of_not_mem

theorem split_join {separator : Char} {segments : List String} (present : segments ≠ [])
    (free : ∀ segment ∈ segments, separator ∉ segment.toList) :
    split separator (join separator segments) = segments := by
  have charsPresent : segments.map String.toList ≠ [] := mt List.map_eq_nil_iff.1 present
  have charsFree : ∀ chars ∈ segments.map String.toList, separator ∉ chars :=
    List.forall_mem_map.2 free
  rw [split, join, String.toList_ofList, splitChars_joinChars charsPresent charsFree, List.map_map]
  exact List.map_id'' (fun text => String.ofList_toList) segments

/-! ## Segments that are cut again -/

/-- Whatever stands on either side of a separator is cut by itself. -/
theorem splitChars_append (separator : Char) (chars rest : List Char) :
    splitChars separator (chars ++ separator :: rest) =
      splitChars separator chars ++ splitChars separator rest := by
  induction chars with
  | nil => rw [List.nil_append, splitChars_cons_self]; rfl
  | cons char tail ih =>
      by_cases same : char = separator
      · subst same
        rw [List.cons_append, splitChars_cons_self, ih, splitChars_cons_self, List.cons_append]
      · obtain ⟨segment, segments, cut, cutCons⟩ := splitChars_cons_of_ne same tail
        rw [List.cons_append, splitChars, if_neg same, ih, cutCons, cut]
        rfl

theorem splitChars_joinChars_eq_flatMap {separator : Char} {segments : List (List Char)}
    (present : segments ≠ []) :
    splitChars separator (joinChars separator segments) =
      segments.flatMap (splitChars separator) := by
  induction segments with
  | nil => exact absurd rfl present
  | cons segment segments ih =>
      cases segments with
      | nil => simp [joinChars]
      | cons next rest =>
          rw [joinChars_cons_cons, splitChars_append, ih (List.cons_ne_nil _ _)]
          exact List.flatMap_cons.symm

/-- Cutting joined texts cuts each of them. -/
theorem split_join_eq_flatMap {separator : Char} {texts : List String} (present : texts ≠ []) :
    split separator (join separator texts) = texts.flatMap (split separator) := by
  rw [split, join, String.toList_ofList,
    splitChars_joinChars_eq_flatMap (mt List.map_eq_nil_iff.1 present), List.map_flatMap,
    List.flatMap_map]
  rfl

/-! ## The last character of joined segments -/

theorem getLast?_joinChars {separator : Char} {segments : List (List Char)}
    (present : ∀ segment ∈ segments, segment ≠ []) {last : Char}
    (ends : (joinChars separator segments).getLast? = some last) :
    ∃ segment ∈ segments, segment.getLast? = some last := by
  induction segments with
  | nil => cases ends
  | cons segment segments ih =>
      cases segments with
      | nil => exact ⟨segment, List.mem_cons_self, ends⟩
      | cons next rest =>
          have nextPresent := present next (List.mem_cons_of_mem _ List.mem_cons_self)
          have joined : joinChars separator (next :: rest) ≠ [] := by
            cases rest with
            | nil => exact nextPresent
            | cons third rest => exact List.append_ne_nil_of_left_ne_nil nextPresent _
          obtain ⟨first, others, same⟩ := List.exists_cons_of_ne_nil joined
          rw [joinChars_cons_cons, same, List.getLast?_append, List.getLast?_cons_cons,
            List.getLast?_cons, Option.some_or, ← List.getLast?_cons, ← same] at ends
          obtain ⟨found, member, foundEnds⟩ :=
            ih (fun other member => present other (List.mem_cons_of_mem _ member)) ends
          exact ⟨found, List.mem_cons_of_mem _ member, foundEnds⟩

end Listing.Text
