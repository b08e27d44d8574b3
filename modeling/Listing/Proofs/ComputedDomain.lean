import Listing.Proofs.Verdict

set_option autoImplicit false

/-!
# Computed domains

A domain that is computed by keeping the wanted values that pass a test. It restricts by what it
keeps, so a request in which some values pass and some do not is refused. If no value passes, it
keeps nothing, and no value at all means no restriction.
-/

namespace Listing

/-- The domain that keeps the wanted values that pass the test. -/
def ValueDomain.passing (key : Nat) (test : String → Bool) : ValueDomain :=
  .computed ⟨key, fun wanted => wanted.filter test⟩

variable {key : Nat} {test : String → Bool} {wanted : List String}

theorem ValueDomain.admits_passing {value : String} (listed : value ∈ wanted) :
    (passing key test).Admits wanted value ↔
      test value = true ∨ ∀ other ∈ wanted, test other = false := by
  simp [Admits, resolve, passing, List.filter_eq_nil_iff, List.mem_filter, listed, or_comm]

namespace Constraint

/-- Only a mixture of values that pass and values that do not is refused. -/
theorem outsider?_passing_eq_none :
    outsider? (.passing key test) wanted = none ↔
      (∀ value ∈ wanted, test value = true) ∨ ∀ value ∈ wanted, test value = false := by
  rw [outsider?_eq_none]
  constructor
  · intro admitted
    by_cases nothing : ∀ value ∈ wanted, test value = false
    · exact .inr nothing
    · refine .inl fun value listed => ?_
      exact ((ValueDomain.admits_passing listed).1 (admitted value listed)).resolve_right nothing
  · intro uniform value listed
    refine (ValueDomain.admits_passing listed).2 ?_
    exact uniform.imp_left fun passes => passes value listed

theorem outsider?_passing_eq_some {value : String} :
    outsider? (.passing key test) wanted = some value ↔
      ∃ good rest, wanted = good ++ value :: rest ∧ (∀ earlier ∈ good, test earlier = true) ∧
        test value = false ∧ ∃ other ∈ wanted, test other = true := by
  rw [outsider?_eq_some]
  refine exists_congr fun good => exists_congr fun rest => and_congr_right fun split => ?_
  have listed : value ∈ wanted := by simp [split]
  have earlierListed : ∀ earlier ∈ good, earlier ∈ wanted := by
    intro earlier member
    simp [split, member]
  rw [ValueDomain.admits_passing listed]
  constructor
  · intro blamed
    obtain ⟨admitted, refused⟩ := blamed
    rw [not_or, Bool.not_eq_true] at refused
    refine ⟨fun earlier member => ?_, refused.1, by simpa using refused.2⟩
    have passes := (ValueDomain.admits_passing (earlierListed earlier member)).1
      (admitted earlier member)
    exact passes.resolve_right refused.2
  · intro blamed
    obtain ⟨passes, fails, other, otherListed, otherPasses⟩ := blamed
    refine ⟨fun earlier member => ?_, ?_⟩
    · exact (ValueDomain.admits_passing (earlierListed earlier member)).2
        (.inl (passes earlier member))
    · rintro (absurdity | nothing)
      · rw [fails] at absurdity
        cases absurdity
      · rw [nothing other otherListed] at otherPasses
        cases otherPasses

/-- A custom filter takes its values unless one is outside of its domain. -/
theorem ofEntry_custom {fields : FieldSet} {filters : CustomFilters} {field : String}
    {filter : CustomFilter} (found : filters.get? field = some filter) (values : List String) :
    ofEntry fields filters (field, values) =
      match outsider? filter.domain values with
      | some value => .error (.valueNotAllowed field value)
      | none => .ok (.custom field filter.predicate values) := by
  cases outside : outsider? filter.domain values with
  | none => simp only [ofEntry, found, outside]
  | some value => simp only [ofEntry, found, outside]

end Constraint

namespace Criteria

section CustomEntry

variable {fields : FieldSet} {filters : CustomFilters} {field : String} {filter : CustomFilter}
  {criteria : Criteria} {before after : List (String × List String)}

/-- If every other entry is resolved, criteria fail as their entry for a custom filter does. -/
theorem resolve_custom_eq_error (found : filters.get? field = some filter)
    (entry : criteria.entries = before ++ (field, wanted) :: after)
    (others : ∀ other ∈ before ++ after,
      ∃ constraint, Constraint.ofEntry fields filters other = .ok constraint)
    {error : RequestError} :
    criteria.resolve fields filters = .error error ↔
      ∃ value, Constraint.outsider? filter.domain wanted = some value ∧
        error = .valueNotAllowed field value := by
  rw [resolve, entry, Traversal.mapM_eq_error_of_others others, Constraint.ofEntry_custom found]
  cases Constraint.outsider? filter.domain wanted with
  | none => simp
  | some value => simp [eq_comm]

theorem exists_resolve_custom_iff (found : filters.get? field = some filter)
    (entry : criteria.entries = before ++ (field, wanted) :: after)
    (others : ∀ other ∈ before ++ after,
      ∃ constraint, Constraint.ofEntry fields filters other = .ok constraint) :
    (∃ constraints, criteria.resolve fields filters = .ok constraints) ↔
      Constraint.outsider? filter.domain wanted = none := by
  cases outcome : criteria.resolve fields filters with
  | ok constraints =>
      refine iff_of_true ⟨constraints, rfl⟩ ?_
      by_contra outside
      obtain ⟨value, outside⟩ := Option.ne_none_iff_exists'.1 outside
      have refused := (resolve_custom_eq_error found entry others).2 ⟨value, outside, rfl⟩
      rw [outcome] at refused
      cases refused
  | error error =>
      obtain ⟨value, outside, -⟩ := (resolve_custom_eq_error found entry others).1 outcome
      simp [outside]

/-- What becomes of an entry for a filter with such a domain, if nothing else is wrong with the
criteria. Its values are accepted if all of them pass the test, and also if none does. Otherwise the
first that does not pass is refused. -/
theorem resolve_passing (found : filters.get? field = some filter)
    (domain : filter.domain = .passing key test)
    (entry : criteria.entries = before ++ (field, wanted) :: after)
    (others : ∀ other ∈ before ++ after,
      ∃ constraint, Constraint.ofEntry fields filters other = .ok constraint) :
    ((∃ constraints, criteria.resolve fields filters = .ok constraints) ↔
      (∀ value ∈ wanted, test value = true) ∨ ∀ value ∈ wanted, test value = false) ∧
    ∀ error, criteria.resolve fields filters = .error error ↔
      ∃ good value rest, wanted = good ++ value :: rest ∧
        (∀ earlier ∈ good, test earlier = true) ∧ test value = false ∧
        (∃ other ∈ wanted, test other = true) ∧ error = .valueNotAllowed field value := by
  refine ⟨?_, fun error => ?_⟩
  · rw [exists_resolve_custom_iff found entry others, domain, Constraint.outsider?_passing_eq_none]
  · rw [resolve_custom_eq_error found entry others, domain]
    simp only [Constraint.outsider?_passing_eq_some]
    constructor
    · intro outside
      obtain ⟨value, ⟨good, rest, split, passes, fails, mixed⟩, rfl⟩ := outside
      exact ⟨good, value, rest, split, passes, fails, mixed, rfl⟩
    · intro blamed
      obtain ⟨good, value, rest, split, passes, fails, mixed, rfl⟩ := blamed
      exact ⟨value, ⟨good, rest, split, passes, fails, mixed⟩, rfl⟩

end CustomEntry

end Criteria

/-! ## Even numbers of members -/

namespace Members

/-- Whether a decimal number is even. -/
def isEven (numeral : String) : Bool :=
  numeral.toList.getLast?.any fun digit => Decimal.digitValue digit % 2 = 0

/-- Takes even numbers only, it seems. -/
def paired : CustomFilters :=
  NameMap.empty.insert "paired" ⟨without, .passing 0 isEven, ""⟩

end Members

/-- Between an even number and an odd one the odd one is refused, behind a field without fault. -/
theorem Criteria.resolve_passing_mixed :
    Members.paired.get? "paired" = some ⟨Members.without, .passing 0 Members.isEven, ""⟩ ∧
      (∃ constraint, Constraint.ofEntry (.all Members.entity) Members.paired ("id", ["7"]) =
        .ok constraint) ∧
      (Criteria.ofPairs [("id", ["7"]), ("paired", ["12", "7", "4"])]).resolve
        (.all Members.entity) Members.paired = .error (.valueNotAllowed "paired" "7") := by
  have found : Members.paired.get? "paired" =
      some ⟨Members.without, .passing 0 Members.isEven, ""⟩ := rfl
  have others : ∀ other ∈ [("id", ["7"])] ++ [], ∃ constraint,
      Constraint.ofEntry (.all Members.entity) Members.paired other = .ok constraint := by
    intro other listed
    rw [List.mem_singleton.1 listed]
    exact ⟨_, rfl⟩
  refine ⟨found, others _ List.mem_cons_self, ?_⟩
  refine ((resolve_passing found rfl rfl others).2 _).2
    ⟨["12"], "7", ["4"], rfl, by decide, by decide, by decide, rfl⟩

/-- An odd number by itself is accepted, although the domain keeps even numbers only. -/
theorem Criteria.resolve_passing_odd :
    (Criteria.ofPairs [("paired", ["7"])]).resolve (.all Members.entity) Members.paired =
        .ok [.custom "paired" Members.without ["7"]] ∧
      (∃ filter, Members.paired.get? "paired" = some filter ∧
        filter.domain = .passing 0 Members.isEven) ∧ Members.isEven "7" = false :=
  ⟨rfl, ⟨_, rfl, rfl⟩, by decide⟩

end Listing
