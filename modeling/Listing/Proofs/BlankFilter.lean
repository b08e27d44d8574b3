import Listing.Proofs.Parameters

set_option autoImplicit false

/-!
# Blank filter parameters

A filter parameter with a blank text asks for nothing. Among pairs without a bracketed key it can be
left out, but it counts as one of the two encodings, so beside a bracketed key it is refused.
-/

namespace Listing.Request

variable {before after : List (String × String)}

/-- A filter text can stand among pairs exactly if no key of theirs goes on with a bracket. -/
theorem readable_insert_filter (text : String) :
    Readable (before ++ (filterParameter, text) :: after) ↔
      ∀ pair ∈ before ++ after, ¬ Opens pair.1 := by
  have member (pair : String × String) :
      pair ∈ before ++ (filterParameter, text) :: after ↔
        pair = (filterParameter, text) ∨ pair ∈ before ++ after := by
    simp only [List.mem_append, List.mem_cons, or_left_comm]
  constructor
  · intro readable pair listed
    exact readable.unmixed ⟨_, (member _).2 (.inl rfl), rfl⟩ pair ((member pair).2 (.inr listed))
  · intro bare
    have closed : ∀ pair ∈ before ++ (filterParameter, text) :: after, ¬ Opens pair.1 := by
      intro pair listed
      rcases (member pair).1 listed with rfl | listed
      · exact not_opens_filterParameter
      · exact bare pair listed
    exact ⟨fun pair listed opens => absurd opens (closed pair listed), fun _ => closed⟩

theorem ofPairs_insert_filter (unfiltered : ∀ pair ∈ before ++ after, pair.1 ≠ filterParameter)
    (bare : ∀ pair ∈ before ++ after, ¬ Opens pair.1) (text : String) :
    ofPairs (before ++ (filterParameter, text) :: after) =
      .ok ⟨.json text, (values sortParameter (before ++ after)).getLast?⟩ := by
  have none := values_eq_nil_iff.2 unfiltered
  rw [values_append, List.append_eq_nil_iff] at none
  have other : filterParameter ≠ sortParameter := by decide
  refine ofPairs_eq_ok.2 ⟨(readable_insert_filter text).2 bare, .json ?_, ?_⟩
  · simp [values_append, values_cons, none]
  · simp [values_append, values_cons, other]

theorem ofPairs_bare (unfiltered : ∀ pair ∈ before ++ after, pair.1 ≠ filterParameter)
    (bare : ∀ pair ∈ before ++ after, ¬ Opens pair.1) :
    ofPairs (before ++ after) =
      .ok ⟨.absent, (values sortParameter (before ++ after)).getLast?⟩ := by
  refine ofPairs_eq_ok.2 ⟨⟨?_, fun _ => bare⟩, .absent (values_eq_nil_iff.2 unfiltered)
    (bracketed_eq_nil_iff.2 bare), rfl⟩
  intro pair member opens
  exact absurd opens (bare pair member)

theorem ofFilter_blank {blank : String} (isBlank : Text.isBlank blank = true)
    (accepts : String → Bool) : Criteria.ofFilter accepts (.json blank) = .ok .empty := by
  rw [Criteria.ofFilter, FilterText.isEmpty, if_pos isBlank]

theorem ofPairs_insert_filter_of_opens {request : Request}
    (read : ofPairs (before ++ after) = .ok request)
    (opens : ∃ pair ∈ before ++ after, Opens pair.1) (text : String) :
    ofPairs (before ++ (filterParameter, text) :: after) =
      .error (malformedFilter .mixedEncodings) := by
  cases made : ofPairs (before ++ (filterParameter, text) :: after) with
  | ok other =>
      obtain ⟨pair, member, opens⟩ := opens
      exact absurd opens ((readable_insert_filter text).1 (ofPairs_eq_ok.1 made).1 pair member)
  | error error =>
      have readable := (ofPairs_eq_ok.1 read).1
      refine congrArg Except.error (eq_mixedEncodings_of_ofPairs ?_ made)
      intro pair member opens
      rcases List.mem_append.1 member with earlier | later
      · exact readable.fields pair (List.mem_append_left _ earlier) opens
      · rcases List.mem_cons.1 later with rfl | later
        · exact absurd opens not_opens_filterParameter
        · exact readable.fields pair (List.mem_append_right _ later) opens

/-- What a blank filter text does to pairs that have none. It is taken exactly if no key goes on
with a bracket, and then the criteria and the sort parameter are those without it. Beside bracketed
fields it mixes the encodings, although it asks for nothing. -/
theorem ofPairs_insert_blank (unfiltered : ∀ pair ∈ before ++ after, pair.1 ≠ filterParameter)
    {blank : String} (isBlank : Text.isBlank blank = true) :
    ((∃ request, ofPairs (before ++ (filterParameter, blank) :: after) = .ok request) ↔
      ∀ pair ∈ before ++ after, ¬ Opens pair.1) ∧
    ((∀ pair ∈ before ++ after, ¬ Opens pair.1) →
      ∃ present absent, ofPairs (before ++ (filterParameter, blank) :: after) = .ok present ∧
        ofPairs (before ++ after) = .ok absent ∧ present.sort = absent.sort ∧
        ∀ accepts, Criteria.ofFilter accepts present.filter = .ok .empty ∧
          Criteria.ofFilter accepts absent.filter = .ok .empty) ∧
    ∀ request, ofPairs (before ++ after) = .ok request →
      (∃ pair ∈ before ++ after, Opens pair.1) →
      ofPairs (before ++ (filterParameter, blank) :: after) =
        .error (malformedFilter .mixedEncodings) := by
  refine ⟨exists_ofPairs_iff.trans (readable_insert_filter blank), ?_, ?_⟩
  · intro bare
    exact ⟨_, _, ofPairs_insert_filter unfiltered bare blank, ofPairs_bare unfiltered bare, rfl,
      fun accepts => ⟨ofFilter_blank isBlank accepts, rfl⟩⟩
  · intro request read opens
    exact ofPairs_insert_filter_of_opens read opens blank

/-- The blanks are taken beside an ordering and refused beside a field. -/
theorem ofPairs_insert_blank_sort :
    (∀ pair ∈ [("sort", "id")] ++ [("page", "2")], pair.1 ≠ filterParameter) ∧
      Text.isBlank " \t" = true ∧
      ∃ request, ofPairs [("sort", "id"), ("filter", " \t"), ("page", "2")] = .ok request := by
  have unfiltered : ∀ pair ∈ [("sort", "id")] ++ [("page", "2")], pair.1 ≠ filterParameter := by
    decide
  have isBlank : Text.isBlank " \t" = true := by decide
  exact ⟨unfiltered, isBlank, (ofPairs_insert_blank unfiltered isBlank).1.2 (by decide)⟩

/-- An empty filter parameter does not go without saying: on either side of a field it turns a
request that can be read into one that cannot. -/
theorem ofPairs_empty_filter_refused :
    ∃ request, ofPairs [("filter[login]", "x")] = .ok request ∧
      Criteria.ofFilter (fun _ => true) request.filter = .ok (.ofPairs [("login", ["x"])]) ∧
      Text.isBlank "" = true ∧
      ofPairs [("filter", ""), ("filter[login]", "x")] =
        .error (malformedFilter .mixedEncodings) ∧
      ofPairs [("filter[login]", "x"), ("filter", "")] =
        .error (malformedFilter .mixedEncodings) :=
  ⟨⟨.fields [("login", "x")], none⟩, by rfl, by rfl, by decide, by rfl, by rfl⟩

end Listing.Request
