import Listing.Proofs.Resource
import Listing.Proofs.Sql.Placeholders

set_option autoImplicit false

/-!
# Request values and statements

What a request wants of a plain field is bound to placeholders and nowhere else. Two requests that
differ in such values alone get the same statement, and what they bind differs at those
placeholders alone.
-/

namespace Listing

open Sql (Comparison Condition Interpretation Select)

/-- The values that an entry of the criteria binds, each with the plain field that it is a value
of. What a custom filter binds belongs to no field. -/
def entryBindings (fields : FieldSet) (filters : CustomFilters)
    (added : String → List String → List Condition) (entry : String × List String) :
    List (Option String × Value) :=
  if filters.contains entry.1 then
    ((added entry.1 entry.2).flatMap Condition.params).map fun value => (none, value)
  else
    match fields.column? entry.1 with
    | some column => entry.2.map fun raw => (some entry.1, Value.coerce column raw)
    | none => []

/-- The values that a filtered selection binds: those of the selection before, with those that are
new where its conditions end. -/
def Resource.bindings (resource : Resource) (added : String → List String → List Condition)
    (select : Select) (criteria : Criteria) : List (Option String × Value) :=
  (select.joinParams ++ Sql.whereParams select.condition).map (fun value => (none, value)) ++
    criteria.entries.flatMap (entryBindings resource.filterable resource.filters added) ++
    select.limitParams.map fun value => (none, value)

/-- The entries ask for the same field, and differ at most in the values of a plain field but not
in how many there are. -/
structure Alike (filters : CustomFilters) (first second : String × List String) : Prop where
  field : first.1 = second.1
  count : first.2.length = second.2.length
  custom : filters.contains first.1 = true → first.2 = second.2

/-- The values are bound for the same field, or for none and are the same. -/
def Agree (first second : Option String × Value) : Prop :=
  first.1 = second.1 ∧ (first.1 = none → first.2 = second.2)

variable {fields : FieldSet} {filters : CustomFilters}
  {added : String → List String → List Condition}

/-- The shape of the comparison of a plain field with some number of values. -/
def plainShape (column : Column) : (count : Nat) → Comparison
  | 1 => .equal column Sql.hole
  | count => .oneOf column (List.replicate count Sql.hole)

theorem SortSpec.shape_apply (spec : SortSpec) (select : Select) :
    (spec.apply select).shape = spec.apply select.shape := by
  rw [SortSpec.apply_eq, SortSpec.apply_eq]
  rfl

namespace Demands

theorem contains_of_custom {field : String} {filter : CustomFilter}
    (custom : filters.get? field = some filter) : filters.contains field = true := by
  rw [NameMap.contains, custom]
  rfl

theorem not_contains_of_plain {field : String} (plain : filters.get? field = none) :
    filters.contains field = false := by
  rw [NameMap.contains, plain]
  rfl

theorem params {entry : String × List String} {demanded : List Condition}
    (demands : Demands fields filters added entry demanded) :
    demanded.flatMap Condition.params =
      (entryBindings fields filters added entry).map Prod.snd := by
  cases demands with
  | custom custom =>
      rw [entryBindings, if_pos (contains_of_custom custom), List.map_map]
      exact (List.map_id _).symm
  | @equality field value column custom plain =>
      simp only [entryBindings, not_contains_of_plain custom, plain, Bool.false_eq_true, ↓reduceIte]
      rfl
  | @inclusion field first second rest column custom plain =>
      simp only [entryBindings, not_contains_of_plain custom, plain, Bool.false_eq_true, ↓reduceIte,
        List.map_map]
      exact List.append_nil _

theorem params_flatten {entries : List (String × List String)} {demanded : List (List Condition)}
    (demands : List.Forall₂ (Demands fields filters added) entries demanded) :
    demanded.flatten.flatMap Condition.params =
      (entries.flatMap (entryBindings fields filters added)).map Prod.snd := by
  induction demands with
  | nil => rfl
  | cons first _ ih =>
      rw [List.flatten_cons, List.flatMap_append, ih, first.params, List.flatMap_cons,
        List.map_append]

theorem eq_added {entry : String × List String} {demanded : List Condition}
    (demands : Demands fields filters added entry demanded)
    (custom : filters.contains entry.1 = true) : demanded = added entry.1 entry.2 := by
  cases demands with
  | custom _ => rfl
  | equality plain _ => rw [not_contains_of_plain plain] at custom; cases custom
  | inclusion plain _ => rw [not_contains_of_plain plain] at custom; cases custom

/-- The shape of what a plain field demands depends on its column and the number of values. -/
theorem exists_column_shape {entry : String × List String} {demanded : List Condition}
    (demands : Demands fields filters added entry demanded)
    (plain : filters.contains entry.1 = false) :
    ∃ column, fields.column? entry.1 = some column ∧
      demanded.map Condition.shape = [.compare (plainShape column entry.2.length)] := by
  cases demands with
  | custom custom => rw [contains_of_custom custom] at plain; cases plain
  | @equality _ _ column _ bound =>
      refine ⟨column, bound, ?_⟩
      simp [Condition.shape, Comparison.shape, plainShape]
  | @inclusion _ first second rest column _ bound =>
      refine ⟨column, bound, ?_⟩
      simp [Condition.shape, Comparison.shape, plainShape, List.replicate_succ, Function.comp_def]

theorem shape_eq {first second : String × List String}
    {firstDemanded secondDemanded : List Condition} (alike : Alike filters first second)
    (firstDemands : Demands fields filters added first firstDemanded)
    (secondDemands : Demands fields filters added second secondDemanded) :
    firstDemanded.map Condition.shape = secondDemanded.map Condition.shape := by
  cases custom : filters.contains first.1 with
  | true =>
      rw [firstDemands.eq_added custom, secondDemands.eq_added (alike.field ▸ custom), alike.field,
        alike.custom custom]
  | false =>
      obtain ⟨column, bound, shape⟩ := firstDemands.exists_column_shape custom
      obtain ⟨other, otherBound, otherShape⟩ :=
        secondDemands.exists_column_shape (alike.field ▸ custom)
      have sameColumn : column = other := by
        rw [alike.field, otherBound] at bound
        exact (Option.some.inj bound).symm
      rw [shape, otherShape, sameColumn, alike.count]

theorem shape_flatten {first second : List (String × List String)}
    {firstDemanded secondDemanded : List (List Condition)}
    (alike : List.Forall₂ (Alike filters) first second)
    (firstDemands : List.Forall₂ (Demands fields filters added) first firstDemanded)
    (secondDemands : List.Forall₂ (Demands fields filters added) second secondDemanded) :
    firstDemanded.flatten.map Condition.shape = secondDemanded.flatten.map Condition.shape := by
  induction alike generalizing firstDemanded secondDemanded with
  | nil =>
      cases firstDemands
      cases secondDemands
      rfl
  | cons same _ ih =>
      cases firstDemands with
      | cons firstHead firstTail =>
          cases secondDemands with
          | cons secondHead secondTail =>
              rw [List.flatten_cons, List.map_append, List.flatten_cons, List.map_append,
                shape_eq same firstHead secondHead, ih firstTail secondTail]

end Demands

theorem forall₂_agree_self (bindings : List (Option String × Value)) :
    List.Forall₂ Agree bindings bindings :=
  List.forall₂_same.2 fun _ _ => ⟨rfl, fun _ => rfl⟩

theorem Alike.agree {first second : String × List String} (alike : Alike filters first second) :
    List.Forall₂ Agree (entryBindings fields filters added first)
      (entryBindings fields filters added second) := by
  cases custom : filters.contains first.1 with
  | true =>
      have same : first = second := Prod.ext alike.field (alike.custom custom)
      rw [same]
      exact forall₂_agree_self _
  | false =>
      rw [entryBindings, entryBindings, ← alike.field, custom]
      cases fields.column? first.1 with
      | none => exact .nil
      | some column =>
          simp only [Bool.false_eq_true, ↓reduceIte, List.forall₂_map_left_iff,
            List.forall₂_map_right_iff]
          refine List.forall₂_of_length_eq_of_get alike.count ?_
          intro position _ _
          exact ⟨rfl, fun absurdity => by cases absurdity⟩

namespace Resource

theorem agree_bindings (resource : Resource) (added : String → List String → List Condition)
    (select : Select) {first second : Criteria}
    (alike : List.Forall₂ (Alike resource.filters) first.entries second.entries) :
    List.Forall₂ Agree (resource.bindings added select first)
      (resource.bindings added select second) := by
  refine List.rel_append (List.rel_append (forall₂_agree_self _) ?_) (forall₂_agree_self _)
  exact List.rel_flatMap alike fun _ _ same => same.agree

theorem params_index {resource : Resource} {added : String → List String → List Condition}
    (adds : resource.filters.Add added) {request : Request} {select answer : Select}
    {criteria : Criteria} (accepted : resource.index request select = .ok answer)
    (read : Criteria.ofFilter resource.accepts request.filter = .ok criteria) :
    answer.params = (resource.bindings added select criteria).map Prod.snd := by
  obtain ⟨filtered, spec, narrowed, -, rfl⟩ := index_eq_ok.1 accepted
  obtain ⟨others, demanded, otherRead, demands, rfl⟩ := exists_demands_of_filter adds narrowed
  rw [read] at otherRead
  cases otherRead
  have ordered : (spec.apply (demanded.flatten.foldl Select.restrict select)).params =
      (demanded.flatten.foldl Select.restrict select).params := by
    rw [SortSpec.apply_eq]
    rfl
  have foreign (values : List Value) :
      (values.map fun value => ((none : Option String), value)).map Prod.snd = values := by
    rw [List.map_map]
    exact List.map_id values
  rw [ordered, Select.params_foldl_restrict, Demands.params_flatten demands, bindings,
    List.map_append, List.map_append, foreign, foreign]

/-- Requests for the same ordering whose criteria differ in the values of plain fields alone get
the same text. Placeholder by placeholder they bind values for the same plain field, as its column
coerces them, or the same value. -/
theorem text_index_eq {resource : Resource} {added : String → List String → List Condition}
    (adds : resource.filters.Add added) {first second : Request}
    {select firstAnswer secondAnswer : Select} {firstCriteria secondCriteria : Criteria}
    (sameSort : first.sort = second.sort)
    (firstAccepted : resource.index first select = .ok firstAnswer)
    (secondAccepted : resource.index second select = .ok secondAnswer)
    (firstRead : Criteria.ofFilter resource.accepts first.filter = .ok firstCriteria)
    (secondRead : Criteria.ofFilter resource.accepts second.filter = .ok secondCriteria)
    (alike : List.Forall₂ (Alike resource.filters) firstCriteria.entries secondCriteria.entries) :
    firstAnswer.text = secondAnswer.text ∧
      firstAnswer.params.length = secondAnswer.params.length ∧
      firstAnswer.params = (resource.bindings added select firstCriteria).map Prod.snd ∧
      secondAnswer.params = (resource.bindings added select secondCriteria).map Prod.snd ∧
      List.Forall₂ Agree (resource.bindings added select firstCriteria)
        (resource.bindings added select secondCriteria) := by
  have agree := agree_bindings resource added select alike
  have firstParams := params_index adds firstAccepted firstRead
  have secondParams := params_index adds secondAccepted secondRead
  refine ⟨?_, ?_, firstParams, secondParams, agree⟩
  · obtain ⟨firstFiltered, firstSpec, firstNarrowed, firstSorted, rfl⟩ := index_eq_ok.1 firstAccepted
    obtain ⟨secondFiltered, secondSpec, secondNarrowed, secondSorted, rfl⟩ :=
      index_eq_ok.1 secondAccepted
    obtain ⟨_, firstDemanded, firstAgain, firstDemands, rfl⟩ :=
      exists_demands_of_filter adds firstNarrowed
    obtain ⟨_, secondDemanded, secondAgain, secondDemands, rfl⟩ :=
      exists_demands_of_filter adds secondNarrowed
    rw [firstRead] at firstAgain
    rw [secondRead] at secondAgain
    cases firstAgain
    cases secondAgain
    have sameSpec : firstSpec = secondSpec := by
      rw [sortSpec, Request.sortText?, sameSort] at firstSorted
      rw [sortSpec, Request.sortText?, firstSorted] at secondSorted
      exact Except.ok.inj secondSorted
    rw [← Select.text_shape, ← Select.text_shape (secondSpec.apply _), sameSpec]
    rw [SortSpec.shape_apply, SortSpec.shape_apply, Select.shape_foldl_restrict,
      Select.shape_foldl_restrict, Demands.shape_flatten alike firstDemands secondDemands]
  · rw [firstParams, secondParams, List.length_map, List.length_map, agree.length_eq]

theorem text_index_eq_members :
    ∃ firstAnswer secondAnswer,
      Members.resource.index (Members.request "x" "1,2") (Select.ofEntity Members.entity) =
        .ok firstAnswer ∧
      Members.resource.index (Members.request "\"; --" "x,3") (Select.ofEntity Members.entity) =
        .ok secondAnswer ∧
      firstAnswer.text = secondAnswer.text ∧
      firstAnswer.params.length = secondAnswer.params.length := by
  let answer (login : String) (numbers : List Value) : Select :=
    ((((Select.ofEntity Members.entity).whereEqual Members.loginColumn (.text login)).exclude
      (Members.matchesAny ["a%", "b%"])).whereOneOf Members.idColumn numbers).orderBy
      Members.idColumn .desc
  let criteria (login : String) (numbers : List String) : Criteria :=
    Criteria.ofPairs [("login", [login]), ("without", ["a%", "b%"]), ("id", numbers)]
  have sameSort : (Members.request "x" "1,2").sort = (Members.request "\"; --" "x,3").sort := rfl
  have firstAccepted : Members.resource.index (Members.request "x" "1,2")
      (Select.ofEntity Members.entity) = .ok (answer "x" [.int64 1, .int64 2]) := rfl
  have secondAccepted : Members.resource.index (Members.request "\"; --" "x,3")
      (Select.ofEntity Members.entity) = .ok (answer "\"; --" [.text "x", .int64 3]) := rfl
  have firstRead : Criteria.ofFilter Members.resource.accepts (Members.request "x" "1,2").filter =
      .ok (criteria "x" ["1", "2"]) := rfl
  have secondRead : Criteria.ofFilter Members.resource.accepts
      (Members.request "\"; --" "x,3").filter = .ok (criteria "\"; --" ["x", "3"]) := rfl
  have alike : List.Forall₂ (Alike Members.resource.filters) (criteria "x" ["1", "2"]).entries
      (criteria "\"; --" ["x", "3"]).entries :=
    .cons ⟨rfl, rfl, by decide⟩ (.cons ⟨rfl, rfl, fun _ => rfl⟩ (.cons ⟨rfl, rfl, by decide⟩ .nil))
  obtain ⟨text, count, -⟩ :=
    text_index_eq Members.adds sameSort firstAccepted secondAccepted firstRead secondRead alike
  exact ⟨_, _, firstAccepted, secondAccepted, text, count⟩

end Resource

end Listing
