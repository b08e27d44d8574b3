import Listing.Proofs.Criteria
import Listing.Request

set_option autoImplicit false

/-!
# Requests from query pairs

What query pairs with bracketed keys ask for, and when a request asks for an ordering.
-/

namespace Listing.Request

/-- The key of the parameter that filters by a field. -/
def bracketedKey (field : String) : String :=
  "filter[" ++ field ++ "]"

/-- A field that can stand between brackets. -/
structure Bracketable (field : String) : Prop where
  present : field ≠ ""
  noOpening : '[' ∉ field.toList
  noClosing : ']' ∉ field.toList

theorem ofText_bracketedKey (field : String) :
    Key.ofText (bracketedKey field) = .bracketed ('[' :: (field.toList ++ [']'])) := by
  have chars : (bracketedKey field).toList = "filter".toList ++ '[' :: (field.toList ++ [']']) := by
    simp [bracketedKey]
  have other : bracketedKey field ≠ filterParameter := by
    intro same
    have lengths := congrArg (fun text : String => text.toList.length) same
    simp [chars, filterParameter] at lengths
  rw [Key.ofText, if_neg other, chars]
  rfl

theorem bracketedField?_of_bracketable {field : String} (bracketable : Bracketable field) :
    bracketedField? ('[' :: (field.toList ++ [']'])) = some field := by
  have present : field.toList ≠ [] := by
    intro nothing
    exact bracketable.present (String.toList_eq_nil_iff.1 nothing)
  simp [bracketedField?, present, bracketable.noOpening, bracketable.noClosing]

theorem addPair_bracketed {field : String} (bracketable : Bracketable field) (value : String)
    (request : Request) :
    addPair request (bracketedKey field, value) =
      match request.filter with
      | .absent => .ok { request with filter := .fields [(field, value)] }
      | .fields pairs => .ok { request with filter := .fields (pairs ++ [(field, value)]) }
      | .json _ => .error (malformedFilter .mixedEncodings) := by
  obtain ⟨filter, sort⟩ := request
  cases filter <;>
    simp only [addPair, ofText_bracketedKey, bracketedField?_of_bracketable bracketable]

theorem addAll_bracketed {pairs : List (String × String)}
    (bracketable : ∀ pair ∈ pairs, Bracketable pair.1) (earlier : List (String × String))
    (sort : Option String) :
    (pairs.map fun pair => (bracketedKey pair.1, pair.2)).foldlM addPair ⟨.fields earlier, sort⟩ =
      .ok ⟨.fields (earlier ++ pairs), sort⟩ := by
  induction pairs generalizing earlier with
  | nil => rw [List.append_nil]; rfl
  | cons pair rest ih =>
      rw [List.map_cons, List.foldlM_cons, addPair_bracketed (bracketable pair List.mem_cons_self)]
      have others := ih (fun other member => bracketable other (List.mem_cons_of_mem _ member))
        (earlier ++ [pair])
      rwa [List.append_assoc] at others

/-- Bracketed parameters ask for their fields with their values, in order. -/
theorem exists_ofPairs_bracketed {pairs : List (String × String)}
    (bracketable : ∀ pair ∈ pairs, Bracketable pair.1) :
    ∃ request, ofPairs (pairs.map fun pair => (bracketedKey pair.1, pair.2)) = .ok request ∧
      Criteria.requested request.filter = .ok pairs ∧ request.sort = none := by
  cases pairs with
  | nil => exact ⟨{}, rfl, rfl, rfl⟩
  | cons pair rest =>
      refine ⟨⟨.fields (pair :: rest), none⟩, ?_, Criteria.requested_fields _, rfl⟩
      rw [ofPairs, List.map_cons, List.foldlM_cons,
        addPair_bracketed (bracketable pair List.mem_cons_self)]
      exact addAll_bracketed (fun other member => bracketable other (List.mem_cons_of_mem _ member))
        [pair] none

/-! ## Parameters that cannot be read -/

theorem exists_reason_of_addPair {request : Request} {pair : String × String}
    {error : RequestError} (failed : addPair request pair = .error error) :
    ∃ reason, error = malformedFilter reason := by
  unfold addPair at failed
  split at failed
  · split at failed
    · cases failed
      exact ⟨_, rfl⟩
    · cases failed
  · split at failed
    · cases failed
      exact ⟨_, rfl⟩
    · split at failed
      · cases failed
      · cases failed
      · cases failed
        exact ⟨_, rfl⟩
  · cases failed
  · cases failed

theorem exists_reason_of_ofPairs {pairs : List (String × String)} {error : RequestError}
    (failed : ofPairs pairs = .error error) : ∃ reason, error = malformedFilter reason := by
  obtain ⟨_, _, -, step⟩ := Traversal.exists_of_foldlM_error failed
  exact exists_reason_of_addPair step

/-! ## The sort parameter -/

theorem sortText?_eq_some_iff {request : Request} {text : String} :
    request.sortText? = some text ↔ request.sort = some text ∧ Text.isBlank text = false := by
  rw [sortText?, Option.filter_eq_some_iff, Bool.not_eq_true']

theorem sortText?_eq_none_iff {request : Request} :
    request.sortText? = none ↔ ∀ text, request.sort = some text → Text.isBlank text = true := by
  simp only [sortText?, Option.filter_eq_none_iff, Bool.not_eq_true, Bool.not_eq_false']

end Listing.Request
