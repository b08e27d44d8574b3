import Listing.Proofs.Description
import Listing.Proofs.Request

set_option autoImplicit false

/-!
# Sort parameters written from fields

Fields with their directions are written as a sort parameter and read back from it. What is read is
the specification that the same fields have as a default ordering, so a request may as well spell
the default ordering out.
-/

namespace Listing

open Sql (Direction OrderTerm)

namespace SortDirection

def sign : SortDirection → Char
  | .asc => '+'
  | .desc => '-'

/-- The word for a direction in a sort parameter. -/
def word : SortDirection → String
  | .asc => "ASC"
  | .desc => "DESC"

theorem sign_cases (direction : SortDirection) :
    direction.sign = '+' ∨ direction.sign = '-' := by
  cases direction with
  | asc => exact .inl rfl
  | desc => exact .inr rfl

end SortDirection

namespace SortSpec

/-- Fields to order by, up or down as it is shown. -/
def directed (fields : List (String × SortDirection)) : List (String × Direction) :=
  Keyed.mapValues SortDirection.direction fields

/-- A field behind the sign of its direction. -/
def signedField (field : String × SortDirection) : List Char :=
  field.2.sign :: field.1.toList

def signedText (fields : List (String × SortDirection)) : String :=
  String.ofList (Text.joinChars ',' (fields.map signedField))

/-- The name survives as a token: it has no comma, and no blanks at its end to be cut off. In front
it may have anything, since the sign comes first. -/
structure Signable (name : String) : Prop where
  noComma : ',' ∉ name.toList
  noBlankEnd : ∀ char ∈ name.toList.getLast?, Text.isBlankChar char = false

variable {sortable : FieldSet} {fields : List (String × SortDirection)}

/-! ## Reading tokens -/

theorem isBlankChar_sign (direction : SortDirection) : Text.isBlankChar direction.sign = false := by
  rcases direction.sign_cases with same | same <;> rw [same] <;> rfl

theorem noBlankEnd_signedField {field : String × SortDirection} (signable : Signable field.1) :
    ∀ char ∈ (signedField field).getLast?, Text.isBlankChar char = false := by
  intro char last
  rw [signedField, List.getLast?_cons, Option.mem_some_iff] at last
  cases ends : field.1.toList.getLast? with
  | none =>
      rw [ends, Option.getD_none] at last
      exact last ▸ isBlankChar_sign field.2
  | some char =>
      rw [ends, Option.getD_some] at last
      exact last ▸ signable.noBlankEnd char ends

theorem trimChars_signedField {field : String × SortDirection} (signable : Signable field.1) :
    Text.trimChars (signedField field) = signedField field := by
  refine Text.trimChars_of_ends ?_ (noBlankEnd_signedField signable)
  intro char first
  cases first
  exact isBlankChar_sign field.2

theorem comma_not_mem_signedField {field : String × SortDirection} (signable : Signable field.1) :
    ',' ∉ signedField field := by
  rw [signedField, List.mem_cons, not_or]
  refine ⟨?_, signable.noComma⟩
  rcases field.2.sign_cases with same | same <;> rw [same] <;> decide

theorem readToken_signedField (field : String × SortDirection) :
    readToken (signedField field) = (field.1, field.2.direction) := by
  obtain ⟨name, direction⟩ := field
  cases direction <;>
    simp [signedField, SortDirection.sign, SortDirection.direction, readToken]

theorem splitChars_signed (signable : ∀ field ∈ fields, Signable field.1) (present : fields ≠ []) :
    Text.splitChars ',' (Text.joinChars ',' (fields.map signedField)) = fields.map signedField := by
  refine Text.splitChars_joinChars (mt List.map_eq_nil_iff.1 present) ?_
  intro segment member
  obtain ⟨field, listed, rfl⟩ := List.mem_map.1 member
  exact comma_not_mem_signedField (signable field listed)

theorem readTokens_signed (signable : ∀ field ∈ fields, Signable field.1) :
    readTokens (Text.joinChars ',' (fields.map signedField)) = directed fields := by
  by_cases present : fields = []
  · subst present
    rfl
  · have trimmed : (fields.map signedField).map Text.trimChars = fields.map signedField := by
      rw [List.map_map]
      exact List.map_congr_left fun field listed => trimChars_signedField (signable field listed)
    have kept : (fields.map signedField).filter (fun token => !token.isEmpty) =
        fields.map signedField := by
      rw [List.filter_eq_self]
      intro token member
      obtain ⟨field, -, rfl⟩ := List.mem_map.1 member
      rfl
    rw [readTokens, splitChars_signed signable present, trimmed, kept, List.map_map]
    exact List.map_congr_left fun field _ => readToken_signedField field

theorem trimChars_signed (signable : ∀ field ∈ fields, Signable field.1) :
    Text.trimChars (Text.joinChars ',' (fields.map signedField)) =
      Text.joinChars ',' (fields.map signedField) := by
  refine Text.trimChars_of_ends ?_ ?_
  · intro char first
    cases fields with
    | nil => cases first
    | cons field rest =>
        have sign : char = field.2.sign := by
          cases rest <;> exact (Option.some.inj first).symm
        exact sign ▸ isBlankChar_sign field.2
  · intro char last
    have present : ∀ segment ∈ fields.map signedField, segment ≠ [] := by
      intro segment member
      obtain ⟨field, -, rfl⟩ := List.mem_map.1 member
      exact List.cons_ne_nil _ _
    obtain ⟨segment, member, ends⟩ := Text.getLast?_joinChars present last
    obtain ⟨field, listed, rfl⟩ := List.mem_map.1 member
    exact noBlankEnd_signedField (signable field listed) char ends

/-- A sign is no bracket, so the text is never taken for a list. -/
theorem readFields_signedText (signable : ∀ field ∈ fields, Signable field.1) :
    readFields (signedText fields) = .ok (directed fields) := by
  rw [readFields, signedText, String.toList_ofList, trimChars_signed signable]
  split
  · next rest bracket =>
      exfalso
      cases fields with
      | nil => cases bracket
      | cons field others =>
          have sign : field.2.sign = '[' := by
            cases others <;> exact (List.cons.inj bracket).1
          rcases field.2.sign_cases with same | same <;> rw [same] at sign <;> cases sign
  · rw [readTokens_signed signable]

/-! ## Binding fields -/

section Binding

variable {ordered : List (String × Direction)}

theorem directions_of_binds {spec : SortSpec}
    (binds : List.Forall₂ (Binds sortable) ordered spec.fields) : spec.directions = ordered :=
  mapValues_of_binds binds

theorem BoundBy.binds {spec : SortSpec} (bound : spec.BoundBy sortable) :
    List.Forall₂ (Binds sortable) spec.directions spec.fields := by
  rw [directions, List.forall₂_map_left_iff, List.forall₂_same]
  exact fun field member => ⟨rfl, bound field member, rfl⟩

theorem ofText_of_binds {raw : String} (read : readFields raw = .ok ordered) {spec : SortSpec}
    (binds : List.Forall₂ (Binds sortable) ordered spec.fields) :
    ofText sortable raw = .ok spec := by
  rw [ofText, read]
  exact pushesBound_addField.foldlM_eq_ok_iff.2 ⟨spec.fields, binds, (pushAll_fields spec).symm⟩

theorem resolve_of_binds {spec : SortSpec}
    (binds : List.Forall₂ (Binds sortable) ordered spec.fields) (resource : String) :
    (DefaultSort.explicit ordered).resolve resource sortable = .ok spec :=
  (DefaultSort.pushesBound_addField resource).foldlM_eq_ok_iff.2
    ⟨spec.fields, binds, (pushAll_fields spec).symm⟩

end Binding

/-! ## Lists of a field and a direction -/

theorem direction?_word (direction : SortDirection) :
    direction? direction.word = some direction.direction := by
  cases direction <;> rfl

theorem readFields_spelledPair {field raw : String} {direction : SortDirection}
    (spells : Json.SpellsList [field, direction.word] raw.toList) :
    readFields raw = .ok [(field, direction.direction)] := by
  obtain ⟨list, spells, read⟩ := exists_readFields_eq_readList spells
  rw [read, readList, Json.parseTexts_spelled spells]
  simp only [direction?_word]

end SortSpec

namespace Resource

variable {resource : Resource}

theorem directed_describe (plain : ∀ field ∈ resource.defaultSort.directions, field.2.Plain) :
    SortSpec.directed resource.describe.defaultSort = resource.defaultSort.directions := by
  rw [SortSpec.directed, Keyed.mapValues, describe, SortSpec.directions, List.map_map,
    List.map_inj_left]
  intro field member
  have shown := Direction.plain_iff.1 (plain _ (List.mem_map_of_mem member))
  exact congrArg (Prod.mk field.1) shown.symm

/-- A blank text asks for nothing, so the default ordering applies; any other is read as the default
ordering. -/
theorem sort_signedText (bound : resource.defaultSort.BoundBy resource.sortable)
    (plain : ∀ field ∈ resource.defaultSort.directions, field.2.Plain)
    (signable : ∀ field ∈ resource.describe.defaultSort, SortSpec.Signable field.1)
    (filter : FilterText) (select : Sql.Select) :
    resource.sort ⟨filter, some (SortSpec.signedText resource.describe.defaultSort)⟩ select =
      .ok (resource.defaultSort.apply select) := by
  have read : SortSpec.ofText resource.sortable
      (SortSpec.signedText resource.describe.defaultSort) = .ok resource.defaultSort := by
    refine SortSpec.ofText_of_binds (SortSpec.readFields_signedText signable) ?_
    rw [directed_describe plain]
    exact bound.binds
  cases blank : Text.isBlank (SortSpec.signedText resource.describe.defaultSort) with
  | true =>
      have unasked : Request.sortText?
          ⟨filter, some (SortSpec.signedText resource.describe.defaultSort)⟩ = none := by
        refine Request.sortText?_eq_none_iff.2 ?_
        intro text same
        cases same
        exact blank
      rw [sort, unasked]
  | false =>
      have asked : Request.sortText?
          ⟨filter, some (SortSpec.signedText resource.describe.defaultSort)⟩ =
            some (SortSpec.signedText resource.describe.defaultSort) :=
        Request.sortText?_eq_some_iff.2 ⟨rfl, blank⟩
      rw [sort, asked]
      exact Traversal.bind_eq_ok.2 ⟨_, read, rfl⟩

end Resource

/-- Distinct sortable names, each behind the sign of its direction, are read as the specification of
these names with their columns and directions, which is also what they are as a default ordering. So
a request that spells out the described default ordering is answered as one that does not sort, if
that ordering goes up and down only. The list of a name and a direction asks for this one name,
whatever characters it has. -/
theorem SortSpec.ofText_signedText (sortable : FieldSet) :
    (∀ fields : List (String × SortDirection), (fields.map Prod.fst).Nodup →
      (∀ field ∈ fields, field.1 ∈ sortable.names ∧ Signable field.1) →
      ∃ spec, ofText sortable (signedText fields) = .ok spec ∧
        List.Forall₂ (Binds sortable) (directed fields) spec.fields ∧
        ∀ resource, (DefaultSort.explicit (directed fields)).resolve resource sortable =
          .ok spec) ∧
    (∀ (draft : Resource.Draft) (resource : Resource), draft.build = .ok resource →
      (∀ field ∈ resource.defaultSort.directions, field.2.Plain) →
      (∀ field ∈ resource.describe.defaultSort, Signable field.1) →
      ∀ request select, request.sortText? = none →
        ∃ sorted, resource.sort request select = .ok sorted ∧
          resource.sort { request with sort := some (signedText resource.describe.defaultSort) }
            select = .ok sorted) ∧
    ∀ name ∈ sortable.names, ∀ (direction : SortDirection) (text : String),
      Json.SpellsList [name, direction.word] text.toList →
      ∃ column, sortable.column? name = some column ∧
        ofText sortable text = .ok (empty.push name column direction.direction) := by
  refine ⟨?_, ?_, ?_⟩
  · intro fields distinct sortableNames
    have known : ∀ field ∈ directed fields, field.1 ∈ sortable.names := by
      intro field member
      obtain ⟨shown, listed, rfl⟩ := List.mem_map.1 member
      exact (sortableNames shown listed).1
    obtain ⟨entries, binds⟩ := exists_binds known
    have names : Keyed.keys entries = fields.map Prod.fst :=
      (keys_of_binds binds).trans (Keyed.keys_mapValues _ fields)
    have apart : (Keyed.keys entries).Nodup := names.symm ▸ distinct
    have read := readFields_signedText fun field member => (sortableNames field member).2
    exact ⟨⟨entries, apart⟩, ofText_of_binds read binds, binds, resolve_of_binds binds⟩
  · intro draft resource built plain signable request select unasked
    have bound := Resource.Draft.boundBy_defaultSort built
    refine ⟨_, ?_, Resource.sort_signedText bound plain signable request.filter select⟩
    rw [Resource.sort, unasked]
  · intro name sortableName direction text spells
    obtain ⟨column, bound⟩ := FieldSet.exists_column?_iff.2 sortableName
    refine ⟨column, bound, ?_⟩
    rw [ofText, readFields_spelledPair spells]
    simp only [bind, Except.bind, List.foldlM_cons, List.foldlM_nil, addField, bound]
    rfl

/-! ## Measurements with odd names -/

namespace Measurements

def negColumn : Column := ⟨"measurements", "-neg", .signed⟩

def pairColumn : Column := ⟨"measurements", " [a,b] ", .text⟩

def markColumn : Column := ⟨"measurements", "[x]", .text⟩

def entity : Entity := ⟨"measurements", "measurements", [negColumn, pairColumn, markColumn]⟩

def draft : Resource.Draft where
  entity := entity
  ordering := .explicit [("[x]", .asc), ("-neg", .desc)]

end Measurements

/-- The first name begins like a list, and the second one with a sign of its own. -/
theorem SortSpec.ofText_signedText_measurements :
    (∃ spec, ofText (.all Measurements.entity) "+[x],--neg" = .ok spec ∧
      spec.directions = [("[x]", .asc), ("-neg", .desc)]) ∧
    (∃ resource, Measurements.draft.build = .ok resource ∧
      ∀ select, ∃ sorted, resource.sort {} select = .ok sorted ∧
        resource.sort { sort := some "+[x],--neg" } select = .ok sorted) ∧
    ofText (.all Measurements.entity) (Json.compact (Json.ofTexts [" [a,b] ", "DESC"])) =
      .ok (empty.push " [a,b] " Measurements.pairColumn .desc) := by
  let fields : List (String × SortDirection) := [("[x]", .asc), ("-neg", .desc)]
  have signable : ∀ field ∈ fields, Signable field.1 := by
    intro field member
    simp only [fields, List.mem_cons, List.not_mem_nil, or_false] at member
    rcases member with rfl | rfl
    · exact ⟨by decide, by rintro last ⟨⟩; rfl⟩
    · exact ⟨by decide, by rintro last ⟨⟩; rfl⟩
  have listed : ∀ field ∈ fields, field.1 ∈ (FieldSet.all Measurements.entity).names := by decide
  obtain ⟨tokens, defaults, lists⟩ := ofText_signedText (.all Measurements.entity)
  refine ⟨?_, ?_, ?_⟩
  · obtain ⟨spec, read, binds, -⟩ := tokens fields (by decide) fun field member =>
      ⟨listed field member, signable field member⟩
    exact ⟨spec, read, directions_of_binds binds⟩
  · let spec : SortSpec := (SortSpec.empty.push "[x]" Measurements.markColumn .asc).push
      "-neg" Measurements.negColumn .desc
    let resource : Resource := ⟨Measurements.entity, .all Measurements.entity,
      .all Measurements.entity, spec, NameMap.empty⟩
    have built : Measurements.draft.build = .ok resource := rfl
    have plain : ∀ field ∈ resource.defaultSort.directions, field.2.Plain := by
      intro field member
      simp only [show resource.defaultSort.directions = directed fields from rfl] at member
      obtain ⟨shown, -, rfl⟩ := List.mem_map.1 member
      exact shown.2.plain_direction
    exact ⟨resource, built, fun select => defaults _ resource built plain signable {} select rfl⟩
  · obtain ⟨column, bound, read⟩ := lists " [a,b] " (by decide) .desc _ (Json.spellsList_compact _)
    cases bound
    exact read

end Listing
