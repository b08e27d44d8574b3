import Listing.Proofs.FieldSet
import Listing.Proofs.Json.Lists
import Listing.Sort

set_option autoImplicit false

/-!
# Sort specifications

Whichever way a specification comes about, from a sort parameter or as the default ordering, it is a
run of pushes, and each of its fields has the column that the set of sortable fields binds to it. A
parameter is refused for its form or for a field that is not in the set.
-/

namespace Listing

open Sql (Direction OrderTerm)

namespace SortSpec

variable {sortable : FieldSet}

def BoundBy (sortable : FieldSet) (spec : SortSpec) : Prop :=
  ∀ field ∈ spec.fields, sortable.column? field.1 = some field.2.column

theorem boundBy_empty : BoundBy sortable empty := by
  intro field member
  cases member

theorem BoundBy.push {spec : SortSpec} (bound : BoundBy sortable spec) {field : String}
    {column : Column} (found : sortable.column? field = some column) (direction : Direction) :
    BoundBy sortable (spec.push field column direction) := by
  intro entry member
  rcases Keyed.mem_upsert member with rfl | present
  · cases before : Keyed.get? field spec.fields with
    | none => exact found
    | some term => exact bound (field, term) (Keyed.mem_of_get? before)
  · exact bound entry present

/-! ## Runs of pushes -/

/-- The specification after some pushes in turn, each of a field with a column and a direction. -/
def pushAll (pushes : List (String × OrderTerm)) (spec : SortSpec) : SortSpec :=
  pushes.foldl (fun spec push => spec.push push.1 push.2.column push.2.direction) spec

theorem pushAll_cons (push : String × OrderTerm) (pushes : List (String × OrderTerm))
    (spec : SortSpec) :
    pushAll (push :: pushes) spec =
      pushAll pushes (spec.push push.1 push.2.column push.2.direction) := rfl

theorem fields_pushAll (pushes : List (String × OrderTerm)) (spec : SortSpec) :
    (pushAll pushes spec).fields =
      Keyed.upsertAll (fun term => renew term.column term.direction) pushes spec.fields := by
  induction pushes generalizing spec with
  | nil => rfl
  | cons push rest ih => exact ih (spec.push push.1 push.2.column push.2.direction)

theorem eq_of_fields {first second : SortSpec} (same : first.fields = second.fields) :
    first = second := by
  cases first
  cases second
  cases same
  rfl

/-- A specification is what its own fields come to when they are pushed in turn. -/
theorem pushAll_fields (spec : SortSpec) : pushAll spec.fields empty = spec := by
  refine eq_of_fields ?_
  rw [fields_pushAll]
  exact (Keyed.upsertAll_of_nodup _ spec.distinct).trans (List.map_id' spec.fields)

theorem BoundBy.pushAll {spec : SortSpec} (bound : BoundBy sortable spec)
    {pushes : List (String × OrderTerm)}
    (each : ∀ push ∈ pushes, sortable.column? push.1 = some push.2.column) :
    BoundBy sortable (pushAll pushes spec) := by
  induction pushes generalizing spec with
  | nil => exact bound
  | cons push rest ih =>
      rw [List.forall_mem_cons] at each
      exact ih (bound.push each.1 push.2.direction) each.2

/-- The entry is the field with its direction and the column that the set binds to it. -/
structure Binds (sortable : FieldSet) (field : String × Direction) (entry : String × OrderTerm) :
    Prop where
  name : entry.1 = field.1
  bound : sortable.column? field.1 = some entry.2.column
  direction : entry.2.direction = field.2

variable {fields : List (String × Direction)} {entries : List (String × OrderTerm)}

theorem keys_of_binds (binds : List.Forall₂ (Binds sortable) fields entries) :
    Keyed.keys entries = fields.map Prod.fst := by
  induction binds with
  | nil => rfl
  | cons first _ ih => rw [Keyed.keys_cons, List.map_cons, ih, first.name]

theorem mapValues_of_binds (binds : List.Forall₂ (Binds sortable) fields entries) :
    Keyed.mapValues OrderTerm.direction entries = fields := by
  rw [Keyed.mapValues]
  induction binds with
  | nil => rfl
  | cons first _ ih => rw [List.map_cons, ih, first.name, first.direction]

theorem column?_of_binds (binds : List.Forall₂ (Binds sortable) fields entries) :
    ∀ entry ∈ entries, sortable.column? entry.1 = some entry.2.column := by
  intro entry member
  obtain ⟨field, -, first⟩ := Traversal.exists_of_mem_results binds member
  rw [first.name, first.bound]

theorem known_of_binds (binds : List.Forall₂ (Binds sortable) fields entries) :
    ∀ field ∈ fields, field.1 ∈ sortable.names := by
  induction binds with
  | nil => exact List.forall_mem_nil _
  | cons first _ ih =>
      exact List.forall_mem_cons.2 ⟨FieldSet.mem_names_of_column? first.bound, ih⟩

theorem exists_binds (known : ∀ field ∈ fields, field.1 ∈ sortable.names) :
    ∃ entries, List.Forall₂ (Binds sortable) fields entries := by
  induction fields with
  | nil => exact ⟨[], .nil⟩
  | cons field rest ih =>
      obtain ⟨entries, binds⟩ := ih fun other member => known other (List.mem_cons_of_mem _ member)
      obtain ⟨column, bound⟩ := FieldSet.exists_column?_iff.2 (known field List.mem_cons_self)
      exact ⟨(field.1, ⟨column, field.2⟩) :: entries, .cons ⟨rfl, bound, rfl⟩ binds⟩

/-- A field is pushed with the column that the set binds to it, and is an error if there is none.
Requests and default orderings differ in their errors only. -/
structure PushesBound {ε : Type} (sortable : FieldSet)
    (step : SortSpec → String × Direction → Except ε SortSpec) : Prop where
  push : ∀ spec field column, sortable.column? field.1 = some column →
    step spec field = .ok (spec.push field.1 column field.2)
  fail : ∀ spec field, sortable.column? field.1 = none → ∃ error, step spec field = .error error

theorem pushesBound_addField : PushesBound sortable (addField sortable) where
  push spec field column bound := by rw [addField, bound]
  fail spec field unbound := ⟨_, by rw [addField, unbound]⟩

theorem PushesBound.foldlM_eq_ok_iff {ε : Type}
    {step : SortSpec → String × Direction → Except ε SortSpec} (pushes : PushesBound sortable step)
    {spec final : SortSpec} :
    fields.foldlM step spec = .ok final ↔
      ∃ entries, List.Forall₂ (Binds sortable) fields entries ∧ final = pushAll entries spec := by
  induction fields generalizing spec with
  | nil =>
      constructor
      · intro ran
        cases ran
        exact ⟨[], .nil, rfl⟩
      · rintro ⟨_, binds, rfl⟩
        cases binds
        rfl
  | cons field rest ih =>
      rw [List.foldlM_cons, Traversal.bind_eq_ok]
      constructor
      · rintro ⟨next, added, continued⟩
        obtain ⟨entries, binds, rfl⟩ := ih.1 continued
        cases found : sortable.column? field.1 with
        | none =>
            obtain ⟨error, failed⟩ := pushes.fail spec field found
            rw [failed] at added
            cases added
        | some column =>
            rw [pushes.push spec field column found] at added
            cases added
            exact ⟨(field.1, ⟨column, field.2⟩) :: entries, .cons ⟨rfl, found, rfl⟩ binds, rfl⟩
      · rintro ⟨_, binds, rfl⟩
        cases binds with
        | cons first others =>
            refine ⟨_, pushes.push spec field _ first.bound, ih.2 ⟨_, others, ?_⟩⟩
            rw [pushAll_cons, first.name, first.direction]

theorem PushesBound.exists_foldlM_iff {ε : Type}
    {step : SortSpec → String × Direction → Except ε SortSpec} (pushes : PushesBound sortable step)
    (spec : SortSpec) :
    (∃ final, fields.foldlM step spec = .ok final) ↔
      ∀ field ∈ fields, field.1 ∈ sortable.names := by
  constructor
  · rintro ⟨final, ran⟩
    obtain ⟨entries, binds, -⟩ := pushes.foldlM_eq_ok_iff.1 ran
    exact known_of_binds binds
  · intro known
    obtain ⟨entries, binds⟩ := exists_binds known
    exact ⟨_, pushes.foldlM_eq_ok_iff.2 ⟨entries, binds, rfl⟩⟩

theorem PushesBound.boundBy {ε : Type} {step : SortSpec → String × Direction → Except ε SortSpec}
    (pushes : PushesBound sortable step) {final : SortSpec}
    (ran : fields.foldlM step empty = .ok final) : BoundBy sortable final := by
  obtain ⟨entries, binds, rfl⟩ := pushes.foldlM_eq_ok_iff.1 ran
  exact boundBy_empty.pushAll (column?_of_binds binds)

theorem boundBy_of_ofText {raw : String} {spec : SortSpec}
    (read : ofText sortable raw = .ok spec) : BoundBy sortable spec := by
  obtain ⟨fields, -, added⟩ := Traversal.bind_eq_ok.1 read
  exact pushesBound_addField.boundBy added

/-! ## Parameters that are refused -/

theorem exists_reason_of_readFields {raw : String} {error : RequestError}
    (failed : readFields raw = .error error) : ∃ reason, error = malformed reason := by
  unfold readFields at failed
  split at failed
  · unfold readList at failed
    split at failed
    · cases failed
      exact ⟨_, rfl⟩
    · cases failed
    · split at failed
      · cases failed
      · cases failed
        exact ⟨_, rfl⟩
    · cases failed
      exact ⟨_, rfl⟩
  · cases failed

theorem ofText_eq_error {raw : String} {error : RequestError}
    (failed : ofText sortable raw = .error error) :
    (∃ reason, error = malformed reason) ∨ ∃ field, error = .unknownSortField field := by
  rcases Traversal.bind_eq_error.1 failed with unread | ⟨fields, -, unadded⟩
  · exact .inl (exists_reason_of_readFields unread)
  · obtain ⟨_, field, -, step⟩ := Traversal.exists_of_foldlM_error unadded
    unfold addField at step
    split at step
    · cases step
    · cases step
      exact .inr ⟨field.1, rfl⟩

/-! ## Lists as parameters -/

theorem isBlankChar_of_blank {chars : List Char} (blank : Json.Blank chars) :
    ∀ char ∈ chars, Text.isBlankChar char = true := by
  intro char member
  rcases blank.cases member with rfl | rfl | rfl | rfl <;> decide

/-- Blanks around a list are cut off, and what is left is read as a list. -/
theorem exists_readFields_eq_readList {texts : List String} {raw : String}
    (spells : Json.SpellsList texts raw.toList) :
    ∃ list : String, Json.SpellsList texts list.toList ∧ readFields raw = readList list := by
  generalize written : raw.toList = chars at spells
  cases spells with
  | @mk before content after noBefore spells noAfter =>
      refine ⟨String.ofList ('[' :: (content ++ [']'])), ?_, ?_⟩
      · rw [String.toList_ofList]
        exact .mk Json.blank_nil spells Json.blank_nil
      · rw [readFields, written, Text.trimChars_between (isBlankChar_of_blank noBefore)
          (isBlankChar_of_blank noAfter) (by decide) (by decide)]
        rfl

end SortSpec

namespace DefaultSort

variable {sortable : FieldSet}

theorem pushesBound_addField (resource : String) :
    SortSpec.PushesBound sortable (addField resource sortable) where
  push spec field column bound := by rw [addField, bound]
  fail spec field unbound := ⟨_, by rw [addField, unbound]⟩

theorem boundBy_of_resolve {sort : DefaultSort} {resource : String} {spec : SortSpec}
    (resolved : sort.resolve resource sortable = .ok spec) : spec.BoundBy sortable := by
  cases sort with
  | unsorted =>
      cases resolved
      exact SortSpec.boundBy_empty
  | implicit =>
      simp only [resolve] at resolved
      split at resolved
      · next column found =>
          cases resolved
          exact SortSpec.boundBy_empty.push found .desc
      · cases resolved
        exact SortSpec.boundBy_empty
  | explicit fields => exact (pushesBound_addField resource).boundBy resolved

end DefaultSort

end Listing
