import Listing.Criteria
import Listing.Proofs.Keyed
import Listing.Proofs.Text.Segments
import Listing.Proofs.Traversal

set_option autoImplicit false

/-!
# Reading criteria

What a filter parameter asks for before any field is looked at, and the criteria that are left once
all fields are accepted. The main statements are `addAll_eq` and `ofFilter_eq_ok`.
-/

namespace Listing

namespace Criteria

/-- The fields and raw values that a filter parameter asks for, in the order of the request. -/
def requested (filter : FilterText) : Except RequestError (List (String × String)) :=
  if filter.isEmpty then .ok [] else rawPairs filter

theorem requested_fields (pairs : List (String × String)) :
    requested (.fields pairs) = .ok pairs := by
  cases pairs with
  | nil => rfl
  | cons pair rest => rfl

/-- The criteria of fields with raw values, all of which are accepted. -/
def ofRaw (pairs : List (String × String)) : Criteria :=
  ofPairs (Keyed.mapValues splitValues pairs)

/-- A filter text that cannot be read is a malformed filter, and nothing else goes wrong here. -/
theorem exists_reason_of_requested {filter : FilterText} {error : RequestError}
    (unreadable : requested filter = .error error) :
    ∃ reason, error = Request.malformedFilter reason := by
  unfold requested at unreadable
  split at unreadable
  · cases unreadable
  · cases filter with
    | absent => cases unreadable
    | fields pairs => cases unreadable
    | json text =>
        simp only [rawPairs, readJson] at unreadable
        split at unreadable
        · cases unreadable
          exact ⟨_, rfl⟩
        · obtain ⟨_, member, _, _, _, unsupported⟩ := Traversal.mapM_eq_error.1 unreadable
          unfold readMember at unsupported
          split at unsupported
          · cases unsupported
          · cases unsupported
            exact ⟨_, rfl⟩
        · cases unreadable
          exact ⟨_, rfl⟩

theorem ofFilter_eq (accepts : String → Bool) (filter : FilterText) :
    ofFilter accepts filter =
      requested filter >>= fun pairs => pairs.foldlM (addRaw accepts) empty := by
  unfold ofFilter requested
  split
  · rfl
  · rfl

/-! ## Entries -/

theorem entries_foldl_insert (pairs : List (String × List String)) (criteria : Criteria) :
    (pairs.foldl (fun criteria pair => criteria.insert pair.1 pair.2) criteria).entries =
      Keyed.insertAll pairs criteria.entries := by
  induction pairs generalizing criteria with
  | nil => rfl
  | cons pair rest ih => exact ih (criteria.insert pair.1 pair.2)

theorem entries_ofPairs (pairs : List (String × List String)) :
    (ofPairs pairs).entries = Keyed.ofPairs pairs :=
  entries_foldl_insert pairs empty

theorem entries_ofRaw (pairs : List (String × String)) :
    (ofRaw pairs).entries = Keyed.ofPairs (Keyed.mapValues splitValues pairs) :=
  entries_ofPairs _

theorem eq_of_entries {first second : Criteria} (same : first.entries = second.entries) :
    first = second := by
  cases first
  cases second
  cases same
  rfl

theorem exists_pair_of_mem_ofRaw {pairs : List (String × String)} {entry : String × List String}
    (member : entry ∈ (ofRaw pairs).entries) :
    ∃ pair ∈ pairs, entry = (pair.1, splitValues pair.2) := by
  rw [entries_ofRaw] at member
  obtain ⟨pair, inside, same⟩ := List.mem_map.1 (Keyed.mem_of_mem_ofPairs member)
  exact ⟨pair, inside, same.symm⟩

theorem values_ne_nil_of_mem_ofRaw {pairs : List (String × String)}
    {entry : String × List String} (member : entry ∈ (ofRaw pairs).entries) : entry.2 ≠ [] := by
  obtain ⟨pair, _, rfl⟩ := exists_pair_of_mem_ofRaw member
  exact Text.split_ne_nil _ _

theorem entries_ofRaw_of_nodup {pairs : List (String × String)}
    (distinct : (pairs.map Prod.fst).Nodup) :
    (ofRaw pairs).entries = Keyed.mapValues splitValues pairs := by
  rw [entries_ofRaw]
  exact Keyed.ofPairs_of_nodup (by rwa [Keyed.keys_mapValues])

/-- Of a repeated field only the first place and the last values count. -/
theorem ofRaw_ofPairs (pairs : List (String × String)) :
    ofRaw (Keyed.ofPairs pairs) = ofRaw pairs := by
  apply eq_of_entries
  rw [entries_ofRaw, entries_ofRaw, Keyed.ofPairs_mapValues, Keyed.ofPairs_mapValues,
    Keyed.ofPairs_ofPairs]

/-! ## Accepted fields -/

/-- Reading on from criteria that are there: the first field that is not accepted is to blame. -/
theorem foldlM_addRaw (accepts : String → Bool) (pairs : List (String × String))
    (criteria : Criteria) :
    pairs.foldlM (addRaw accepts) criteria =
      match (Keyed.keys pairs).find? fun field => !accepts field with
      | some field => .error (.unknownFilterField field)
      | none => .ok ((Keyed.mapValues splitValues pairs).foldl
          (fun criteria pair => criteria.insert pair.1 pair.2) criteria) := by
  induction pairs generalizing criteria with
  | nil => rfl
  | cons pair rest ih =>
      rw [List.foldlM_cons, Keyed.keys_cons, List.find?_cons, addRaw]
      cases accepted : accepts pair.1 with
      | false => rfl
      | true => exact ih (criteria.insert pair.1 (splitValues pair.2))

theorem addAll_eq (accepts : String → Bool) (pairs : List (String × String)) :
    pairs.foldlM (addRaw accepts) empty =
      match (Keyed.keys pairs).find? fun field => !accepts field with
      | some field => .error (.unknownFilterField field)
      | none => .ok (ofRaw pairs) :=
  foldlM_addRaw accepts pairs empty

/-- A filter is read exactly when its text is and every field it asks for is accepted. -/
theorem ofFilter_eq_ok {accepts : String → Bool} {filter : FilterText} {criteria : Criteria} :
    ofFilter accepts filter = .ok criteria ↔
      ∃ pairs, requested filter = .ok pairs ∧ (∀ pair ∈ pairs, accepts pair.1 = true) ∧
        criteria = ofRaw pairs := by
  rw [ofFilter_eq, Traversal.bind_eq_ok]
  refine exists_congr fun pairs => and_congr_right fun _ => ?_
  rw [addAll_eq]
  cases found : (Keyed.keys pairs).find? fun field => !accepts field with
  | some field =>
      have refused : accepts field = false := by simpa using List.find?_some found
      obtain ⟨pair, member, same⟩ := List.mem_map.1 (List.mem_of_find?_eq_some found)
      constructor
      · intro absurdity
        cases absurdity
      · intro read
        obtain ⟨accepted, -⟩ := read
        rw [← same, accepted pair member] at refused
        cases refused
  | none =>
      have accepted : ∀ pair ∈ pairs, accepts pair.1 = true := by
        intro pair member
        simpa using List.find?_eq_none.1 found pair.1 (List.mem_map_of_mem member)
      constructor
      · intro same
        cases same
        exact ⟨accepted, rfl⟩
      · intro read
        obtain ⟨-, rfl⟩ := read
        rfl

/-- A filter is refused when its text is, or for the first field it asks for that is not
accepted. -/
theorem ofFilter_eq_error {accepts : String → Bool} {filter : FilterText} {error : RequestError} :
    ofFilter accepts filter = .error error ↔
      requested filter = .error error ∨
      ∃ before field raw after, requested filter = .ok (before ++ (field, raw) :: after) ∧
        (∀ pair ∈ before, accepts pair.1 = true) ∧ accepts field = false ∧
        error = .unknownFilterField field := by
  rw [ofFilter_eq, Traversal.bind_eq_error]
  refine or_congr_right ?_
  constructor
  · intro failing
    obtain ⟨pairs, asked, refused⟩ := failing
    rw [addAll_eq] at refused
    split at refused
    · next field found =>
        obtain ⟨unaccepted, before, after, split, accepted⟩ :=
          List.find?_eq_some_iff_append.1 found
        obtain ⟨earlier, rest, rfl, rfl, others⟩ := List.map_eq_append_iff.1 split
        obtain ⟨⟨name, raw⟩, later, rfl, rfl, -⟩ := List.map_eq_cons_iff.1 others
        cases refused
        refine ⟨earlier, name, raw, later, asked, ?_, by simpa using unaccepted, rfl⟩
        intro pair member
        simpa using accepted pair.1 (List.mem_map_of_mem member)
    · cases refused
  · intro blamed
    obtain ⟨before, field, raw, after, asked, accepted, unaccepted, rfl⟩ := blamed
    refine ⟨_, asked, ?_⟩
    have found : (Keyed.keys (before ++ (field, raw) :: after)).find?
        (fun name => !accepts name) = some field := by
      rw [List.find?_eq_some_iff_append]
      refine ⟨by rw [unaccepted]; rfl, Keyed.keys before, Keyed.keys after, ?_, ?_⟩
      · rw [Keyed.keys, List.map_append, List.map_cons, Keyed.keys, Keyed.keys]
      · intro name listed
        obtain ⟨pair, member, rfl⟩ := List.mem_map.1 listed
        rw [accepted pair member]
        rfl
    rw [addAll_eq, found]

theorem values_ne_nil_of_ofFilter {accepts : String → Bool} {filter : FilterText}
    {criteria : Criteria} (read : ofFilter accepts filter = .ok criteria) :
    ∀ entry ∈ criteria.entries, entry.2 ≠ [] := by
  obtain ⟨pairs, -, -, rfl⟩ := ofFilter_eq_ok.1 read
  intro entry member
  exact values_ne_nil_of_mem_ofRaw member

end Criteria

end Listing
