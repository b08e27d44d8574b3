import Listing.Proofs.Resource

set_option autoImplicit false

/-!
# Why requests are refused

The first thing that is wrong with a request decides its error: the filter text, then the fields
in the order of the request, then the values in the order of the criteria, then the sort parameter.
-/

namespace Listing

open Sql (Select)

/-- The domain lets a wanted value pass: it restricts nothing, or it has the value. -/
def ValueDomain.Admits (domain : ValueDomain) (wanted : List String) (value : String) : Prop :=
  domain.resolve wanted = [] ∨ value ∈ domain.resolve wanted

namespace Constraint

theorem outsider?_eq_none {domain : ValueDomain} {wanted : List String} :
    outsider? domain wanted = none ↔ ∀ value ∈ wanted, domain.Admits wanted value := by
  unfold outsider? ValueDomain.Admits
  cases domain.resolve wanted with
  | nil => simp
  | cons first others => simp [or_iff_not_imp_left]

theorem outsider?_eq_some {domain : ValueDomain} {wanted : List String} {value : String} :
    outsider? domain wanted = some value ↔
      ∃ before after, wanted = before ++ value :: after ∧
        (∀ earlier ∈ before, domain.Admits wanted earlier) ∧ ¬ domain.Admits wanted value := by
  unfold outsider? ValueDomain.Admits
  cases domain.resolve wanted with
  | nil => simp
  | cons first others =>
      simp only [List.find?_eq_some_iff_append]
      constructor
      · intro found
        obtain ⟨outside, before, after, split, inside⟩ := found
        exact ⟨before, after, split, by simpa using inside, by simpa using outside⟩
      · intro blamed
        obtain ⟨before, after, split, inside, outside⟩ := blamed
        exact ⟨by simpa using outside, before, after, split, by simpa using inside⟩

end Constraint

namespace Resource

/-- A filter may name the field: it is filterable, or it is a custom filter. -/
def Known (resource : Resource) (field : String) : Prop :=
  field ∈ resource.filterable.names ∨ field ∈ resource.filters.names

/-- If the entry belongs to a custom filter, its values may all be asked for. -/
def Admits (resource : Resource) (entry : String × List String) : Prop :=
  ∀ filter, resource.filters.get? entry.1 = some filter →
    ∀ value ∈ entry.2, filter.domain.Admits entry.2 value

/-- The error of a request that is refused. -/
inductive Refused (resource : Resource) (request : Request) : RequestError → Prop where
  | unreadable {reason : Malformation} :
      Criteria.requested request.filter = .error (Request.malformedFilter reason) →
      Refused resource request (Request.malformedFilter reason)
  | unknownField {before after : List (String × String)} {field raw : String} :
      Criteria.requested request.filter = .ok (before ++ (field, raw) :: after) →
      (∀ pair ∈ before, resource.Known pair.1) → ¬ resource.Known field →
      Refused resource request (.unknownFilterField field)
  | valueNotAllowed {pairs : List (String × String)} {before after : List (String × List String)}
      {field value : String} {good rest : List String} {filter : CustomFilter} :
      Criteria.requested request.filter = .ok pairs → (∀ pair ∈ pairs, resource.Known pair.1) →
      (Criteria.ofRaw pairs).entries = before ++ (field, good ++ value :: rest) :: after →
      (∀ entry ∈ before, resource.Admits entry) → resource.filters.get? field = some filter →
      (∀ earlier ∈ good, filter.domain.Admits (good ++ value :: rest) earlier) →
      ¬ filter.domain.Admits (good ++ value :: rest) value →
      Refused resource request (.valueNotAllowed field value)
  | badSort {pairs : List (String × String)} {text : String} {error : RequestError} :
      Criteria.requested request.filter = .ok pairs → (∀ pair ∈ pairs, resource.Known pair.1) →
      (∀ entry ∈ (Criteria.ofRaw pairs).entries, resource.Admits entry) →
      request.sort = some text → Text.isBlank text = false →
      SortSpec.ofText resource.sortable text = .error error →
      Refused resource request error

/-- The resources have the same fields and allow the same values. What their predicates do may
differ. -/
structure SameRules (first second : Resource) : Prop where
  filterable : first.filterable = second.filterable
  sortable : first.sortable = second.sortable
  domains : first.filters.mapValues CustomFilter.domain =
    second.filters.mapValues CustomFilter.domain

variable {resource : Resource} {request : Request}

theorem accepts_iff {field : String} : resource.accepts field = true ↔ resource.Known field := by
  rw [accepts, Known, Bool.or_eq_true, FieldSet.contains_iff_mem_names,
    NameMap.contains_iff_mem_names]

/-! ## Entries that resolve -/

theorem admits_of_plain {field : String} {values : List String}
    (plain : resource.filters.get? field = none) : resource.Admits (field, values) := by
  intro filter found
  rw [plain] at found
  cases found

/-- A known field that is no custom filter has a column. The parser accepts a field by membership
and the resolver looks its column up, so this is where the two have to agree. -/
theorem exists_column_of_plain {field : String} (known : resource.Known field)
    (plain : resource.filters.get? field = none) :
    ∃ column, resource.filterable.column? field = some column := by
  rw [← Option.isSome_iff_exists, ← FieldSet.contains_eq_isSome_column?]
  rcases known with filterable | named
  · exact FieldSet.contains_iff_mem_names.2 filterable
  · have found := NameMap.contains_iff_mem_names.2 named
    rw [NameMap.contains, plain] at found
    cases found

/-- The entry of a known field resolves exactly when its values may be asked for. -/
theorem exists_ofEntry {entry : String × List String} (known : resource.Known entry.1) :
    (∃ constraint, Constraint.ofEntry resource.filterable resource.filters entry =
      .ok constraint) ↔ resource.Admits entry := by
  obtain ⟨field, values⟩ := entry
  cases custom : resource.filters.get? field with
  | some filter =>
      have admits : resource.Admits (field, values) ↔
          Constraint.outsider? filter.domain values = none := by
        rw [Constraint.outsider?_eq_none]
        simp [Admits, custom]
      rw [admits]
      cases outside : Constraint.outsider? filter.domain values with
      | none => simp [Constraint.ofEntry, custom, outside]
      | some value => simp [Constraint.ofEntry, custom, outside]
  | none =>
      obtain ⟨column, bound⟩ := exists_column_of_plain known custom
      refine iff_of_true ?_ (admits_of_plain custom)
      simp only [Constraint.ofEntry, custom, bound]
      split
      · exact ⟨_, rfl⟩
      · exact ⟨_, rfl⟩

/-- The entry of a known field fails for the first value that may not be asked for, and for no
other reason. -/
theorem ofEntry_eq_error {field : String} {values : List String} {error : RequestError}
    (known : resource.Known field) :
    Constraint.ofEntry resource.filterable resource.filters (field, values) = .error error ↔
      ∃ filter good value rest, resource.filters.get? field = some filter ∧
        values = good ++ value :: rest ∧
        (∀ earlier ∈ good, filter.domain.Admits values earlier) ∧
        ¬ filter.domain.Admits values value ∧ error = .valueNotAllowed field value := by
  cases custom : resource.filters.get? field with
  | some filter =>
      cases outside : Constraint.outsider? filter.domain values with
      | none =>
          have allAdmitted := Constraint.outsider?_eq_none.1 outside
          constructor
          · intro failed
            simp [Constraint.ofEntry, custom, outside] at failed
          · intro blamed
            obtain ⟨_, good, value, rest, found, rfl, -, refused, -⟩ := blamed
            cases found
            exact absurd (allAdmitted value (by simp)) refused
      | some value =>
          have resolved : Constraint.ofEntry resource.filterable resource.filters (field, values) =
              .error (.valueNotAllowed field value) := by
            simp [Constraint.ofEntry, custom, outside]
          rw [resolved]
          constructor
          · intro same
            cases same
            obtain ⟨good, rest, split, admitted, refused⟩ := Constraint.outsider?_eq_some.1 outside
            exact ⟨filter, good, value, rest, rfl, split, admitted, refused, rfl⟩
          · intro blamed
            obtain ⟨_, good, other, rest, found, split, admitted, refused, rfl⟩ := blamed
            cases found
            have again := Constraint.outsider?_eq_some.2 ⟨good, rest, split, admitted, refused⟩
            rw [outside] at again
            cases again
            rfl
  | none =>
      obtain ⟨constraint, resolved⟩ := (exists_ofEntry known).2 (admits_of_plain custom)
      rw [resolved]
      constructor
      · intro absurdity
        cases absurdity
      · intro blamed
        obtain ⟨_, _, _, _, absurdity, -⟩ := blamed
        cases absurdity

/-! ## Requests that are refused -/

theorem known_of_mem_ofRaw {pairs : List (String × String)}
    (known : ∀ pair ∈ pairs, resource.Known pair.1) :
    ∀ entry ∈ (Criteria.ofRaw pairs).entries, resource.Known entry.1 := by
  intro entry member
  obtain ⟨pair, listed, rfl⟩ := Criteria.exists_pair_of_mem_ofRaw member
  exact known pair listed

theorem ofFilter_accepts_eq_ok {filter : FilterText} {criteria : Criteria} :
    Criteria.ofFilter resource.accepts filter = .ok criteria ↔
      ∃ pairs, Criteria.requested filter = .ok pairs ∧ (∀ pair ∈ pairs, resource.Known pair.1) ∧
        criteria = Criteria.ofRaw pairs := by
  simp only [Criteria.ofFilter_eq_ok, accepts_iff]

theorem resolve_ne_unknownFilterField {filter : FilterText} {criteria : Criteria}
    (read : Criteria.ofFilter resource.accepts filter = .ok criteria) (field : String) :
    criteria.resolve resource.filterable resource.filters ≠ .error (.unknownFilterField field) := by
  intro unresolved
  obtain ⟨pairs, -, known, rfl⟩ := ofFilter_accepts_eq_ok.1 read
  obtain ⟨before, ⟨name, values⟩, after, split, -, failed⟩ :=
    Traversal.mapM_eq_error.1 unresolved
  have member : (name, values) ∈ (Criteria.ofRaw pairs).entries := by simp [split]
  obtain ⟨_, _, _, _, -, -, -, -, absurdity⟩ :=
    (ofEntry_eq_error (known_of_mem_ofRaw known _ member)).1 failed
  cases absurdity

theorem exists_filter {select : Select} :
    (∃ filtered, resource.filter request select = .ok filtered) ↔
      ∃ pairs, Criteria.requested request.filter = .ok pairs ∧
        (∀ pair ∈ pairs, resource.Known pair.1) ∧
        ∀ entry ∈ (Criteria.ofRaw pairs).entries, resource.Admits entry := by
  constructor
  · intro succeeded
    obtain ⟨filtered, narrowed⟩ := succeeded
    obtain ⟨criteria, constraints, read, resolved, -⟩ := filter_eq_ok.1 narrowed
    obtain ⟨pairs, asked, known, rfl⟩ := ofFilter_accepts_eq_ok.1 read
    have each := Traversal.exists_mapM.1 ⟨constraints, Traversal.mapM_eq_ok.2 resolved⟩
    exact ⟨pairs, asked, known, fun entry member =>
      (exists_ofEntry (known_of_mem_ofRaw known entry member)).1 (each entry member)⟩
  · intro checked
    obtain ⟨pairs, asked, known, admitted⟩ := checked
    obtain ⟨constraints, resolved⟩ := Traversal.exists_mapM.2 fun entry member =>
      (exists_ofEntry (known_of_mem_ofRaw known entry member)).2 (admitted entry member)
    exact ⟨_, filter_eq_ok.2 ⟨_, constraints, ofFilter_accepts_eq_ok.2 ⟨pairs, asked, known, rfl⟩,
      Traversal.mapM_eq_ok.1 resolved, rfl⟩⟩

theorem refused_of_index {select : Select} {error : RequestError}
    (failed : resource.index request select = .error error) : Refused resource request error := by
  rcases index_eq_error.1 failed with unfiltered | ⟨narrowed, sorting⟩
  · rcases filter_eq_error.1 unfiltered with unread | ⟨criteria, read, unresolved⟩
    · rcases Criteria.ofFilter_eq_error.1 unread with
        unreadable | ⟨before, field, raw, after, asked, accepted, unaccepted, rfl⟩
      · obtain ⟨reason, rfl⟩ := Criteria.exists_reason_of_requested unreadable
        exact .unreadable unreadable
      · refine .unknownField asked (fun pair member => accepts_iff.1 (accepted pair member)) ?_
        intro known
        rw [accepts_iff.2 known] at unaccepted
        cases unaccepted
    · obtain ⟨pairs, asked, known, rfl⟩ := ofFilter_accepts_eq_ok.1 read
      obtain ⟨before, ⟨field, values⟩, after, split, resolved, unfit⟩ :=
        Traversal.mapM_eq_error.1 unresolved
      have knownEntries := known_of_mem_ofRaw known
      rw [split] at knownEntries
      have fieldKnown : resource.Known field := knownEntries (field, values) (by simp)
      obtain ⟨filter, good, value, rest, custom, rfl, admitted, refused, rfl⟩ :=
        (ofEntry_eq_error fieldKnown).1 unfit
      refine .valueNotAllowed asked known split ?_ custom admitted refused
      intro entry member
      exact (exists_ofEntry (knownEntries entry (List.mem_append_left _ member))).1
        (resolved entry member)
  · obtain ⟨pairs, asked, known, admitted⟩ := exists_filter.1 narrowed
    obtain ⟨text, present, blank, unreadable⟩ := sortSpec_eq_error.1 sorting
    exact .badSort asked known admitted present blank unreadable

theorem index_of_refused {error : RequestError} (refused : Refused resource request error)
    (select : Select) : resource.index request select = .error error := by
  rw [index_eq_error, filter_eq_error]
  cases refused with
  | unreadable unreadable =>
      exact .inl (.inl (Criteria.ofFilter_eq_error.2 (.inl unreadable)))
  | @unknownField before after field raw asked known unknown =>
      have unaccepted : resource.accepts field = false := by
        rw [Bool.eq_false_iff, ne_eq, accepts_iff]
        exact unknown
      exact .inl (.inl (Criteria.ofFilter_eq_error.2 (.inr ⟨before, field, raw, after, asked,
        fun pair member => accepts_iff.2 (known pair member), unaccepted, rfl⟩)))
  | @valueNotAllowed pairs before after field value good rest filter asked known split admitted
      custom goodAdmitted refused =>
      have knownEntries := known_of_mem_ofRaw known
      rw [split] at knownEntries
      have fieldKnown : resource.Known field :=
        knownEntries (field, good ++ value :: rest) (by simp)
      refine .inl (.inr ⟨Criteria.ofRaw pairs, ofFilter_accepts_eq_ok.2 ⟨pairs, asked, known, rfl⟩,
        Traversal.mapM_eq_error.2 ⟨before, _, after, split, ?_, ?_⟩⟩)
      · intro entry member
        exact (exists_ofEntry (knownEntries entry (List.mem_append_left _ member))).2
          (admitted entry member)
      · exact (ofEntry_eq_error fieldKnown).2
          ⟨filter, good, value, rest, custom, rfl, goodAdmitted, refused, rfl⟩
  | @badSort pairs text error asked known admitted present blank unreadable =>
      exact .inr ⟨exists_filter.2 ⟨pairs, asked, known, admitted⟩,
        sortSpec_eq_error.2 ⟨text, present, blank, unreadable⟩⟩

theorem index_eq_error_iff_refused {select : Select} {error : RequestError} :
    resource.index request select = .error error ↔ Refused resource request error :=
  ⟨refused_of_index, fun refused => index_of_refused refused select⟩

/-! ## Resources with the same rules -/

namespace SameRules

variable {first second : Resource}

theorem symm (same : SameRules first second) : SameRules second first :=
  ⟨same.filterable.symm, same.sortable.symm, same.domains.symm⟩

theorem known (same : SameRules first second) {field : String} (known : first.Known field) :
    second.Known field := by
  have names : first.filters.names = second.filters.names := by
    rw [← NameMap.names_mapValues first.filters CustomFilter.domain, same.domains,
      NameMap.names_mapValues]
  rw [Known, ← same.filterable, ← names]
  exact known

theorem exists_filter (same : SameRules first second) {name : String} {filter : CustomFilter}
    (found : first.filters.get? name = some filter) :
    ∃ other, second.filters.get? name = some other ∧ other.domain = filter.domain := by
  have domains := congrArg (fun domains => NameMap.get? domains name) same.domains
  simp only [NameMap.get?_mapValues, found, Option.map_some] at domains
  obtain ⟨other, otherFound, sameDomain⟩ := Option.map_eq_some_iff.1 domains.symm
  exact ⟨other, otherFound, sameDomain⟩

theorem admits (same : SameRules first second) {entry : String × List String}
    (admitted : first.Admits entry) : second.Admits entry := by
  intro filter found
  obtain ⟨other, otherFound, sameDomain⟩ := same.symm.exists_filter found
  rw [← sameDomain]
  exact admitted other otherFound

theorem refused (same : SameRules first second) {error : RequestError}
    (refused : Refused first request error) : Refused second request error := by
  cases refused with
  | unreadable unreadable => exact .unreadable unreadable
  | unknownField asked known unknown =>
      exact .unknownField asked (fun pair member => same.known (known pair member))
        (fun found => unknown (same.symm.known found))
  | valueNotAllowed asked known split admitted custom goodAdmitted refused =>
      obtain ⟨other, otherFound, sameDomain⟩ := same.exists_filter custom
      rw [← sameDomain] at goodAdmitted refused
      exact .valueNotAllowed asked (fun pair member => same.known (known pair member)) split
        (fun entry member => same.admits (admitted entry member)) otherFound goodAdmitted refused
  | badSort asked known admitted present blank unreadable =>
      rw [same.sortable] at unreadable
      exact .badSort asked (fun pair member => same.known (known pair member))
        (fun entry member => same.admits (admitted entry member)) present blank unreadable

end SameRules

/-- A request fails exactly with the error of the first thing wrong with it, and it is answered
when nothing is. A field that the parser accepts always resolves, and neither the selection nor
what the predicates do changes the error. -/
theorem index_verdict (resource : Resource) (request : Request) (select : Select) :
    (∀ error, resource.index request select = .error error ↔ Refused resource request error) ∧
      ((∃ answer, resource.index request select = .ok answer) ↔
        ∀ error, ¬ Refused resource request error) ∧
      (∀ criteria, Criteria.ofFilter resource.accepts request.filter = .ok criteria →
        ∀ field, criteria.resolve resource.filterable resource.filters ≠
          .error (.unknownFilterField field)) ∧
      ∀ other otherSelect error, SameRules resource other →
        (other.index request otherSelect = .error error ↔
          resource.index request select = .error error) := by
  refine ⟨fun error => index_eq_error_iff_refused, ?_,
    fun criteria read => resolve_ne_unknownFilterField read, ?_⟩
  · constructor
    · intro succeeded error refused
      obtain ⟨answer, answered⟩ := succeeded
      rw [index_of_refused refused select] at answered
      cases answered
    · intro unrefused
      cases verdict : resource.index request select with
      | ok answer => exact ⟨answer, rfl⟩
      | error error => exact absurd (refused_of_index verdict) (unrefused error)
  · intro other otherSelect error same
    rw [index_eq_error_iff_refused, index_eq_error_iff_refused]
    exact ⟨same.symm.refused, same.refused⟩

/-- The second pattern is to blame, although the sort parameter is wrong too, also if the predicate
did nothing. -/
theorem index_verdict_members :
    ∃ other, SameRules Members.resource other ∧
      Refused Members.resource ⟨.fields [("login", "x"), ("without", "a%,c%,d%")], some "age"⟩
        (.valueNotAllowed "without" "c%") ∧
      other.index ⟨.fields [("login", "x"), ("without", "a%,c%,d%")], some "age"⟩
        (Select.ofEntity Members.entity) = .error (.valueNotAllowed "without" "c%") := by
  let idle : CustomFilter := ⟨⟨1, fun select _ => select⟩, .list ["a%", "b%"], "nothing"⟩
  let other : Resource := { Members.resource with filters := NameMap.empty.insert "without" idle }
  let request : Request := ⟨.fields [("login", "x"), ("without", "a%,c%,d%")], some "age"⟩
  have same : SameRules Members.resource other := ⟨rfl, rfl, rfl⟩
  have failed : Members.resource.index request
      ((Select.ofEntity Members.entity).restrict (Members.matchesAny [])) =
        .error (.valueNotAllowed "without" "c%") := rfl
  obtain ⟨errors, -, -, independent⟩ := index_verdict Members.resource request
    ((Select.ofEntity Members.entity).restrict (Members.matchesAny []))
  exact ⟨other, same, (errors _).1 failed, (independent other _ _ same).2 failed⟩

end Resource

end Listing
