import Listing.Proofs.Confinement
import Mathlib.Data.List.Induction
import Mathlib.Data.List.Nodup

set_option autoImplicit false

/-!
# Sort specifications from pushes

What is left of a run of pushes. An entry puts together what three moments of the run bring: its
place and its column come from the first push of the field, its direction from the last one.
-/

namespace Listing

open Sql (Direction OrderTerm Select)

/-- No column is bound to two names. -/
def FieldSet.Separates (set : FieldSet) : Prop :=
  ∀ name other column, set.column? name = some column → set.column? other = some column →
    name = other

theorem FieldSet.Faithful.separates {entity : Entity} {set : FieldSet}
    (faithful : set.Faithful entity) : set.Separates := by
  intro name other column bound otherBound
  rw [← (faithful.reaches bound).named, ← (faithful.reaches otherBound).named]

namespace SortSpec

/-- The term has the column of the first push of the field and the direction of the last one. -/
structure Settles (pushes : List (String × OrderTerm)) (field : String) (term : OrderTerm) :
    Prop where
  first : ∃ before direction after, pushes = before ++ (field, ⟨term.column, direction⟩) :: after ∧
    field ∉ Keyed.keys before
  last : ∃ before column after, pushes = before ++ (field, ⟨column, term.direction⟩) :: after ∧
    field ∉ Keyed.keys after

/-- Each pushed field stands once, where it was first pushed, with its settled term. The directions
and the terms that are added to an order come in the same sequence. -/
structure Arranges (pushes : List (String × OrderTerm)) (spec : SortSpec) : Prop where
  nodup : (Keyed.keys spec.fields).Nodup
  fields : List.Forall₂ (fun name field => field.1 = name ∧ Settles pushes name field.2)
    (Keyed.keys pushes).eraseDups spec.fields
  directions : List.Forall₂
    (fun name field => field.1 = name ∧ ∃ column, Settles pushes name ⟨column, field.2⟩)
    (Keyed.keys pushes).eraseDups spec.directions
  order : ∀ select : Select, ∃ terms,
    spec.apply select = { select with order := select.order ++ terms } ∧
      List.Forall₂ (Settles pushes) (Keyed.keys pushes).eraseDups terms

variable {pushes : List (String × OrderTerm)} {sortable : FieldSet}

/-! ## One push after the others -/

theorem pushAll_concat (pushes : List (String × OrderTerm)) (push : String × OrderTerm) :
    pushAll (pushes ++ [push]) empty =
      (pushAll pushes empty).push push.1 push.2.column push.2.direction :=
  List.foldl_concat ..

theorem get?_push (name field : String) (column : Column) (direction : Direction)
    (spec : SortSpec) :
    Keyed.get? name (spec.push field column direction).fields =
      if name = field then some (renew column direction (Keyed.get? field spec.fields))
      else Keyed.get? name spec.fields :=
  Keyed.get?_upsert field name _ spec.fields

theorem column_renew (column : Column) (direction : Direction) (present : Option OrderTerm) :
    (renew column direction present).column = (present.map OrderTerm.column).getD column := by
  cases present <;> rfl

theorem direction_renew (column : Column) (direction : Direction) (present : Option OrderTerm) :
    (renew column direction present).direction = direction := by
  cases present <;> rfl

/-! ## Places, columns and directions -/

theorem keys_pushAll (pushes : List (String × OrderTerm)) :
    Keyed.keys (pushAll pushes empty).fields = (Keyed.keys pushes).eraseDups := by
  rw [fields_pushAll]
  exact Keyed.keys_upsertAll_nil _ pushes

theorem column_get?_pushAll (name : String) (pushes : List (String × OrderTerm)) :
    (Keyed.get? name (pushAll pushes empty).fields).map OrderTerm.column =
      (Keyed.get? name pushes).map OrderTerm.column := by
  induction pushes using List.reverseRecOn with
  | nil => rfl
  | append_singleton pushes push ih =>
      rw [pushAll_concat, get?_push, Keyed.get?_append]
      by_cases same : name = push.1
      · subst same
        rw [if_pos rfl, Option.map_some, column_renew, ih, Keyed.get?, if_pos rfl]
        cases Keyed.get? push.1 pushes <;> rfl
      · rw [if_neg same, ih, Keyed.get?, if_neg (Ne.symm same), Keyed.get?, Option.or_none]

theorem direction_get?_pushAll (name : String) (pushes : List (String × OrderTerm)) :
    (Keyed.get? name (pushAll pushes empty).fields).map OrderTerm.direction =
      (Keyed.get? name pushes.reverse).map OrderTerm.direction := by
  induction pushes using List.reverseRecOn with
  | nil => rfl
  | append_singleton pushes push ih =>
      rw [pushAll_concat, get?_push, List.reverse_append, List.reverse_singleton,
        List.singleton_append, Keyed.get?]
      by_cases same : name = push.1
      · rw [if_pos same, if_pos same.symm, Option.map_some, Option.map_some, direction_renew]
      · rw [if_neg same, if_neg (Ne.symm same), ih]

theorem get?_pushAll_eq_some_iff {name : String} {term : OrderTerm} :
    Keyed.get? name (pushAll pushes empty).fields = some term ↔ Settles pushes name term := by
  have columns := column_get?_pushAll name pushes
  have directions := direction_get?_pushAll name pushes
  constructor
  · intro found
    rw [found, Option.map_some, eq_comm, Option.map_eq_some_iff] at columns directions
    obtain ⟨⟨column, direction⟩, first, rfl⟩ := columns
    obtain ⟨⟨other, last⟩, final, rfl⟩ := directions
    obtain ⟨before, after, split, absent⟩ := Keyed.get?_eq_some_iff.1 first
    obtain ⟨earlier, later, cut, gone⟩ := Keyed.get?_reverse_eq_some_iff.1 final
    exact ⟨⟨before, direction, after, split, absent⟩, ⟨earlier, other, later, cut, gone⟩⟩
  · rintro ⟨⟨before, direction, after, split, absent⟩, ⟨earlier, column, later, cut, gone⟩⟩
    rw [Keyed.get?_eq_some_iff.2 ⟨before, after, split, absent⟩] at columns
    rw [Keyed.get?_reverse_eq_some_iff.2 ⟨earlier, later, cut, gone⟩] at directions
    cases found : Keyed.get? name (pushAll pushes empty).fields with
    | none => rw [found] at columns; cases columns
    | some settled =>
        rw [found] at columns directions
        obtain ⟨column, direction⟩ := settled
        cases columns
        cases directions
        rfl

theorem Settles.unique {name : String} {term other : OrderTerm}
    (settles : Settles pushes name term) (again : Settles pushes name other) : term = other := by
  rw [← get?_pushAll_eq_some_iff] at settles again
  exact Option.some.inj (settles.symm.trans again)

theorem forall₂_settles (pushes : List (String × OrderTerm)) :
    List.Forall₂ (fun name field => field.1 = name ∧ Settles pushes name field.2)
      (Keyed.keys pushes).eraseDups (pushAll pushes empty).fields := by
  rw [← keys_pushAll, Keyed.keys, List.forall₂_map_left_iff, List.forall₂_same]
  intro field member
  exact ⟨rfl, get?_pushAll_eq_some_iff.1 (Keyed.get?_of_mem (pushAll pushes empty).distinct member)⟩

theorem arranges_pushAll (pushes : List (String × OrderTerm)) :
    Arranges pushes (pushAll pushes empty) where
  nodup := (pushAll pushes empty).distinct
  fields := forall₂_settles pushes
  directions := by
    rw [directions, List.forall₂_map_right_iff]
    exact (forall₂_settles pushes).imp fun name field settled =>
      ⟨settled.1, field.2.column, settled.2⟩
  order select := by
    refine ⟨_, (pushAll pushes empty).apply_eq select, ?_⟩
    rw [List.forall₂_map_right_iff]
    exact (forall₂_settles pushes).imp fun _ _ settled => settled.2

/-! ## Distinct columns -/

theorem BoundBy.nodup_columns {spec : SortSpec} (bound : spec.BoundBy sortable)
    (separates : sortable.Separates) :
    ((spec.fields.map Prod.snd).map OrderTerm.column).Nodup := by
  rw [List.map_map]
  have distinct : spec.fields.Nodup := List.Nodup.of_map _ spec.distinct
  refine distinct.map_on ?_
  intro field member other otherMember same
  refine List.inj_on_of_nodup_map spec.distinct member otherMember ?_
  have otherBound := bound other otherMember
  rw [← show field.2.column = other.2.column from same] at otherBound
  exact separates _ _ _ (bound field member) otherBound

/-- A run of pushes arranges the fields where they are first pushed, each once, with the column of
the first push and the direction of the last. If a set that separates its columns binds every push,
no column comes twice among the terms that are added to an order. -/
theorem pushAll_history (pushes : List (String × OrderTerm)) :
    Arranges pushes (pushAll pushes empty) ∧
      ∀ sortable : FieldSet, sortable.Separates →
        (∀ push ∈ pushes, sortable.column? push.1 = some push.2.column) →
        ∀ select, ∃ terms,
          (pushAll pushes empty).apply select = { select with order := select.order ++ terms } ∧
            (terms.map OrderTerm.column).Nodup := by
  refine ⟨arranges_pushAll pushes, fun sortable separates bound select => ?_⟩
  have columns := (boundBy_empty.pushAll bound).nodup_columns separates
  exact ⟨_, (pushAll pushes empty).apply_eq select, columns⟩

end SortSpec

namespace Members

def pushes (column : Column) : List (String × OrderTerm) :=
  [("login", ⟨loginColumn, .asc⟩), ("id", ⟨idColumn, .asc⟩), ("login", ⟨column, .desc⟩)]

end Members

namespace SortSpec

/-- The last push changes the direction of the login, and not its column. -/
theorem pushAll_history_logins :
    (pushAll (Members.pushes Members.idColumn) empty).fields =
        [("login", ⟨Members.loginColumn, .desc⟩), ("id", ⟨Members.idColumn, .asc⟩)] ∧
      (FieldSet.all Members.entity).Separates ∧
      ∃ terms,
        (pushAll (Members.pushes Members.loginColumn) empty).apply (.ofEntity Members.entity) =
            { Select.ofEntity Members.entity with order := [] ++ terms } ∧
          (terms.map OrderTerm.column).Nodup := by
  have separates : (FieldSet.all Members.entity).Separates := FieldSet.faithful_all.separates
  refine ⟨?_, separates, ?_⟩
  · have login : Settles (Members.pushes Members.idColumn) "login" ⟨Members.loginColumn, .desc⟩ :=
      ⟨⟨[], .asc, _, rfl, by decide⟩, ⟨_ :: [_], Members.idColumn, [], rfl, by decide⟩⟩
    have id : Settles (Members.pushes Members.idColumn) "id" ⟨Members.idColumn, .asc⟩ :=
      ⟨⟨[_], .asc, _, rfl, by decide⟩, ⟨[_], Members.idColumn, _, rfl, by decide⟩⟩
    have arranged := (pushAll_history (Members.pushes Members.idColumn)).1.fields
    have names : (Keyed.keys (Members.pushes Members.idColumn)).eraseDups = ["login", "id"] := by
      decide
    rw [names] at arranged
    generalize (pushAll (Members.pushes Members.idColumn) empty).fields = fields at arranged ⊢
    rcases arranged with _ | ⟨⟨loginName, loginTerm⟩, _ | ⟨⟨idName, idTerm⟩, _ | _⟩⟩
    exact congrArg₂ (fun first second => [first, second])
      (Prod.ext loginName (loginTerm.unique login)) (Prod.ext idName (idTerm.unique id))
  · exact (pushAll_history _).2 _ separates (by decide) (.ofEntity Members.entity)

end SortSpec

/-- No request makes a resource order by a column twice, and neither does its default ordering. -/
theorem Resource.nodup_columns_of_sort {draft : Resource.Draft} {resource : Resource}
    (configured : draft.Configured) (built : draft.build = .ok resource) {request : Request}
    {select sorted : Select} (answered : resource.sort request select = .ok sorted) :
    ∃ terms, sorted = { select with order := select.order ++ terms } ∧
      (terms.map OrderTerm.column).Nodup := by
  have boundDefault := Draft.boundBy_defaultSort built
  obtain ⟨_, _, -, -, rfl⟩ := Draft.build_eq_ok.1 built
  rw [sort_eq] at answered
  obtain ⟨spec, chosen, same⟩ := Traversal.bind_eq_ok.1 answered
  cases same
  exact ⟨_, spec.apply_eq select, (boundBy_sortSpec boundDefault chosen).nodup_columns
    configured.sortableSet.faithful.separates⟩

end Listing
