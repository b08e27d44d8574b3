import Listing.Proofs.Request
import Listing.Proofs.SortText

set_option autoImplicit false

/-!
# Resources that order by default

A resource with a default ordering leaves a selection without an order of its own for one kind of
request only: one whose sort parameter is there but has nothing between its commas.
-/

namespace Listing

open Sql (Direction Select)

/-- The sort parameter is not blank, and still all its segments are. -/
def Request.SortsByNothing (request : Request) : Prop :=
  ∃ text, request.sort = some text ∧ Text.isBlank text = false ∧
    ∀ segment ∈ Text.splitChars ',' text.toList, Text.Blanks segment

namespace SortSpec

variable {sortable : FieldSet}

/-- Segments without a visible character cannot begin a list. -/
theorem head?_trimChars_of_blanks {text : List Char}
    (blank : ∀ segment ∈ Text.splitChars ',' text, Text.Blanks segment) :
    (Text.trimChars text).head? ≠ some '[' := by
  obtain ⟨segment, segments, cut⟩ := List.exists_cons_of_ne_nil (Text.splitChars_ne_nil ',' text)
  have first : Text.trimChars segment = [] :=
    Text.trimChars_eq_nil_iff_blanks.2 (blank segment (cut ▸ List.mem_cons_self))
  rw [Ne, head?_trimChars_of_splitChars cut, first]
  simp

theorem readFields_eq_nil_iff {raw : String} :
    readFields raw = .ok [] ↔
      ∀ segment ∈ Text.splitChars ',' raw.toList, Text.Blanks segment := by
  constructor
  · intro read
    cases readFields_eq_ok_iff.1 read with
    | tokens _ asks =>
        have nothing := asks.readSegments_eq
        rwa [← readTokens_eq, readTokens_trimChars, readTokens_eq, readSegments_eq_nil_iff] at nothing
  · intro blank
    have nothing : readTokens raw.toList = [] := readSegments_eq_nil_iff.2 blank
    rw [readFields_of_no_bracket (head?_trimChars_of_blanks blank), readTokens_trimChars, nothing]

theorem Collects.fields_eq_nil_iff {fields : List (String × Direction)} {spec : SortSpec}
    (collects : Collects sortable fields spec) : spec.fields = [] ↔ fields = [] := by
  have names := collects.names
  constructor
  · intro nothing
    rw [nothing] at names
    cases fields with
    | nil => rfl
    | cons field rest =>
        rw [Keyed.keys_cons, List.eraseDups_cons] at names
        cases names
  · rintro rfl
    exact List.map_eq_nil_iff.1 names

theorem ofText_eq_nil_iff {raw : String} {spec : SortSpec}
    (read : ofText sortable raw = .ok spec) :
    spec.fields = [] ↔ ∀ segment ∈ Text.splitChars ',' raw.toList, Text.Blanks segment := by
  obtain ⟨fields, fieldsRead, collects⟩ := exists_collects_of_ofText read
  rw [collects.fields_eq_nil_iff, ← readFields_eq_nil_iff, fieldsRead, Except.ok.injEq]

end SortSpec

namespace Resource

variable {resource : Resource}

theorem sort_of_sortsByNothing {request : Request} (nothing : request.SortsByNothing)
    (select : Select) : resource.sort request select = .ok select := by
  obtain ⟨text, present, visible, blank⟩ := nothing
  have read : SortSpec.ofText resource.sortable text = .ok .empty := by
    rw [SortSpec.ofText, SortSpec.readFields_eq_nil_iff.2 blank]
    rfl
  rw [sort, Request.sortText?_eq_some_iff.2 ⟨present, visible⟩]
  exact Traversal.bind_eq_ok.2 ⟨.empty, read, rfl⟩

/-- The default has fields, so an ordering without fields can only come from the request. -/
theorem sortSpec_eq_nil_iff (ordered : resource.defaultSort.fields ≠ []) {request : Request}
    {spec : SortSpec} (chosen : resource.sortSpec request = .ok spec) :
    spec.fields = [] ↔ request.SortsByNothing := by
  unfold sortSpec at chosen
  split at chosen
  · next unasked =>
      cases chosen
      refine iff_of_false ordered ?_
      rintro ⟨text, present, visible, -⟩
      rw [Request.sortText?_eq_none_iff.1 unasked text present] at visible
      cases visible
  · next text asked =>
      obtain ⟨present, visible⟩ := Request.sortText?_eq_some_iff.1 asked
      rw [SortSpec.ofText_eq_nil_iff chosen]
      constructor
      · intro blank
        exact ⟨text, present, visible, blank⟩
      · rintro ⟨other, otherPresent, -, blank⟩
        rw [present] at otherPresent
        cases otherPresent
        exact blank

/-- A request without a sort parameter, or with a blank one, is ordered by default. Of the other
requests, those whose parameter has nothing but blanks and commas are answered without an order,
and everything else that is answered gets at least one term. -/
theorem sort_adds_terms (ordered : resource.defaultSort.fields ≠ []) (request : Request)
    (select : Select) :
    ((∀ text, request.sort = some text → Text.isBlank text = true) →
      resource.sort request select =
        .ok { select with order := select.order ++ resource.defaultSort.fields.map Prod.snd }) ∧
    (request.SortsByNothing → resource.sort request select = .ok select) ∧
    ∀ sorted, resource.sort request select = .ok sorted →
      ∃ added, sorted = { select with order := select.order ++ added } ∧
        (added = [] ↔ request.SortsByNothing) := by
  refine ⟨?_, fun nothing => sort_of_sortsByNothing nothing select, ?_⟩
  · intro blank
    rw [sort, Request.sortText?_eq_none_iff.2 blank, ← SortSpec.apply_eq]
  · intro sorted answered
    rw [sort_eq] at answered
    obtain ⟨spec, chosen, same⟩ := Traversal.bind_eq_ok.1 answered
    cases same
    refine ⟨spec.fields.map Prod.snd, spec.apply_eq select, ?_⟩
    rw [List.map_eq_nil_iff, sortSpec_eq_nil_iff ordered chosen]

/-- The members are ordered by default once they are built. -/
theorem sort_adds_terms_members :
    ∃ resource, Draft.build { entity := Members.entity } = .ok resource ∧
      resource.defaultSort.fields ≠ [] ∧
      (∃ sorted, resource.sort { sort := some " \t" } (.ofEntity Members.entity) = .ok sorted ∧
        sorted.order = [⟨Members.idColumn, .desc⟩]) ∧
      (∃ sorted, resource.sort { sort := some ",login" } (.ofEntity Members.entity) = .ok sorted ∧
        sorted.order ≠ []) ∧
      resource.sort { sort := some " ,, " } (.ofEntity Members.entity) =
        .ok (.ofEntity Members.entity) := by
  let spec : SortSpec := SortSpec.empty.push "id" Members.idColumn .desc
  let resource : Resource :=
    ⟨Members.entity, .all Members.entity, .all Members.entity, spec, NameMap.empty⟩
  have ordered : resource.defaultSort.fields ≠ [] := List.cons_ne_nil _ _
  have adds := sort_adds_terms ordered
  refine ⟨resource, rfl, ordered, ?_, ?_, ?_⟩
  · refine ⟨_, (adds { sort := some " \t" } (.ofEntity Members.entity)).1 ?_, rfl⟩
    rintro text ⟨⟩
    decide
  · have asked : ¬ Request.SortsByNothing { sort := some ",login" } := by
      rintro ⟨text, ⟨⟩, -, blank⟩
      exact absurd (blank "login".toList (by decide)) (by decide)
    obtain ⟨spec, read, -⟩ : ∃ spec, SortSpec.ofText resource.sortable ",login" = .ok spec ∧ _ :=
      SortSpec.ofText_of_known (SortSpec.readFields_of_no_bracket (by decide)) (by decide)
    obtain ⟨sorted, answered⟩ : ∃ sorted, resource.sort { sort := some ",login" }
        (.ofEntity Members.entity) = .ok sorted := by
      rw [sort, Request.sortText?_eq_some_iff.2 ⟨rfl, by decide⟩]
      exact ⟨_, Traversal.bind_eq_ok.2 ⟨spec, read, rfl⟩⟩
    obtain ⟨added, same, nothing⟩ :=
      (adds { sort := some ",login" } (.ofEntity Members.entity)).2.2 sorted answered
    refine ⟨sorted, answered, fun unordered => asked (nothing.1 ?_)⟩
    rw [same] at unordered
    exact (List.append_eq_nil_iff.1 unordered).2
  · exact (adds { sort := some " ,, " } (.ofEntity Members.entity)).2.1
      ⟨_, rfl, by decide, by decide⟩

/-- A comma by itself asks for nothing, but it is not blank. -/
theorem sort_of_comma_members :
    ∃ resource, Draft.build { entity := Members.entity } = .ok resource ∧
      resource.defaultSort.fields = [("id", ⟨Members.idColumn, .desc⟩)] ∧
      resource.sort { sort := some "," } (.ofEntity Members.entity) =
        .ok (.ofEntity Members.entity) ∧
      (Select.ofEntity Members.entity).order = [] :=
  ⟨_, rfl, rfl, by rfl, rfl⟩

end Resource

end Listing
