import Listing.Proofs.Criteria
import Mathlib.Data.Finset.Card

set_option autoImplicit false

/-!
# Criteria from insertions

What is left of a run of insertions. A field stands where it was first inserted and has the values
that were inserted last, so each field has a history of its own.
-/

namespace Listing.Criteria

/-- The criteria say of each inserted field which values were inserted last, in the order in which
the fields were inserted first. -/
structure Gathers (pairs : List (String × List String)) (criteria : Criteria) : Prop where
  fields : criteria.fields = (Keyed.keys pairs).eraseDups
  nodup : criteria.fields.Nodup
  size : criteria.size = (Keyed.keys pairs).toFinset.card
  last : ∀ field values, criteria.get? field = some values ↔
    ∃ before after, pairs = before ++ (field, values) :: after ∧ field ∉ Keyed.keys after
  missing : ∀ field, criteria.get? field = none ↔ field ∉ Keyed.keys pairs
  listed : ∀ field values, (field, values) ∈ criteria.entries ↔ criteria.get? field = some values

variable {pairs others : List (String × List String)}

theorem fields_ofPairs (pairs : List (String × List String)) :
    (ofPairs pairs).fields = (Keyed.keys pairs).eraseDups := by
  rw [fields, entries_ofPairs, Keyed.keys_ofPairs]

theorem get?_ofPairs (pairs : List (String × List String)) (field : String) :
    (ofPairs pairs).get? field = Keyed.get? field pairs.reverse := by
  rw [get?, entries_ofPairs, Keyed.get?_ofPairs]

theorem get?_eq_none_iff {criteria : Criteria} {field : String} :
    criteria.get? field = none ↔ field ∉ criteria.fields :=
  Keyed.get?_eq_none_iff

theorem size_eq_card (criteria : Criteria) : criteria.size = criteria.fields.toFinset.card := by
  rw [fields, List.toFinset_card_of_nodup criteria.distinct, Keyed.keys, List.length_map, size]

theorem size_ofPairs (pairs : List (String × List String)) :
    (ofPairs pairs).size = (Keyed.keys pairs).toFinset.card := by
  have same : (Keyed.keys pairs).eraseDups.toFinset = (Keyed.keys pairs).toFinset := by
    ext field
    rw [List.mem_toFinset, List.mem_toFinset, List.mem_eraseDups]
  rw [size_eq_card, fields_ofPairs, same]

theorem gathers_ofPairs (pairs : List (String × List String)) : Gathers pairs (ofPairs pairs) where
  fields := fields_ofPairs pairs
  nodup := (ofPairs pairs).distinct
  size := size_ofPairs pairs
  last field values := by rw [get?_ofPairs, Keyed.get?_reverse_eq_some_iff]
  missing field := by rw [get?_eq_none_iff, fields_ofPairs, List.mem_eraseDups]
  listed _ _ := Keyed.mem_iff_get? (ofPairs pairs).distinct

/-- Insertions of other fields do not count, wherever they stand. -/
theorem get?_ofPairs_congr {field : String}
    (same : (others.filter fun pair => pair.1 = field) = pairs.filter fun pair => pair.1 = field) :
    (ofPairs others).get? field = (ofPairs pairs).get? field := by
  have alike := congrArg (fun own => Keyed.get? field own.reverse) same
  simpa only [get?_ofPairs, ← List.filter_reverse, Keyed.get?_filter] using alike

/-- A run of insertions gathers the fields where they are first inserted, each once, with the values
that are inserted last. Two runs that insert the same values for a field in the same order agree on
it, whatever they insert for other fields in front, between or behind. -/
theorem ofPairs_history (pairs : List (String × List String)) :
    Gathers pairs (ofPairs pairs) ∧
      ∀ field others,
        (others.filter fun pair => pair.1 = field) = (pairs.filter fun pair => pair.1 = field) →
        (ofPairs others).get? field = (ofPairs pairs).get? field :=
  ⟨gathers_ofPairs pairs, fun _ _ same => get?_ofPairs_congr same⟩

/-- The login is inserted again behind another field, and keeps its place. -/
theorem ofPairs_history_logins :
    (ofPairs [("login", ["a"]), ("id", ["1"]), ("login", ["b", "c"])]).fields = ["login", "id"] ∧
      (ofPairs [("login", ["a"]), ("id", ["1"]), ("login", ["b", "c"])]).size = 2 ∧
      (ofPairs [("login", ["a"]), ("id", ["1"]), ("login", ["b", "c"])]).get? "login" =
        some ["b", "c"] ∧
      (ofPairs [("", []), ("login", ["a"]), ("login", ["b", "c"]), ("id", ["2"])]).get? "login" =
        some ["b", "c"] := by
  obtain ⟨gathers, alike⟩ :=
    ofPairs_history [("login", ["a"]), ("id", ["1"]), ("login", ["b", "c"])]
  have login := (gathers.last "login" ["b", "c"]).2
    ⟨[("login", ["a"]), ("id", ["1"])], [], rfl, List.not_mem_nil⟩
  refine ⟨gathers.fields.trans (by decide), gathers.size.trans (by decide), login, ?_⟩
  rw [alike "login" [("", []), ("login", ["a"]), ("login", ["b", "c"]), ("id", ["2"])] (by decide)]
  exact login

end Listing.Criteria
