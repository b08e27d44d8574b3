import Listing.Proofs.Description

set_option autoImplicit false

/-!
# Builder calls in any order

A draft is made by calls, each of which sets something or declares a custom filter. Of the settings
the last one counts, and of the declarations which ones there are: their order shows neither in
whether the draft can be built nor in what the resource tells and answers.
-/

namespace Listing

/-! ## Default orderings that can be resolved -/

namespace DefaultSort

theorem exists_resolve {sort : DefaultSort} {resource : String} {sortable : FieldSet} :
    (∃ spec, sort.resolve resource sortable = .ok spec) ↔
      ∀ fields, sort = .explicit fields → ∀ field ∈ fields, field.1 ∈ sortable.names := by
  cases sort with
  | unsorted => simp [resolve]
  | implicit =>
      cases found : sortable.column? "id" <;> simp [resolve, found]
  | explicit fields =>
      rw [resolve, (pushesBound_addField resource).exists_foldlM_iff]
      simp

end DefaultSort

namespace Resource.Draft

/-! ## Declarations that can be taken in -/

theorem declare_eq_ok {resource : String} {declared after : NameMap Declaration}
    {declaration : String × Declaration} :
    declare resource declared declaration = .ok after ↔
      Text.isBlank declaration.1 = false ∧ declaration.1 ∉ declared.names ∧
        after = declared.insert declaration.1 declaration.2 := by
  rw [← NameMap.contains_iff_mem_names, declare]
  split
  · next blank => simp [blank]
  · next named =>
      split
      · next taken => simp [taken]
      · next free =>
          simp only [named, free, Except.ok.injEq, Bool.false_eq_true, not_false_eq_true, true_and]
          exact eq_comm

theorem foldlM_declare_eq_ok {resource : String} {declared final : NameMap Declaration}
    {declarations : List (String × Declaration)} :
    declarations.foldlM (declare resource) declared = .ok final ↔
      (∀ declaration ∈ declarations, Text.isBlank declaration.1 = false) ∧
        (Keyed.keys declarations).Nodup ∧
        (∀ declaration ∈ declarations, declaration.1 ∉ declared.names) ∧
        final = declared.insertAll declarations := by
  induction declarations generalizing declared with
  | nil =>
      simp only [List.foldlM_nil, pure, Except.pure, Except.ok.injEq, NameMap.insertAll,
        List.foldl_nil, Keyed.keys_nil, List.nodup_nil, List.not_mem_nil, false_implies,
        implies_true, true_and]
      exact eq_comm
  | cons first rest ih =>
      rw [List.foldlM_cons, Traversal.bind_eq_ok, List.forall_mem_cons, List.forall_mem_cons,
        Keyed.keys_cons, List.nodup_cons]
      constructor
      · intro ran
        obtain ⟨after, step, continued⟩ := ran
        obtain ⟨named, free, rfl⟩ := declare_eq_ok.1 step
        obtain ⟨restNamed, distinct, restFree, rfl⟩ := ih.1 continued
        simp only [NameMap.names_insert, not_or] at restFree
        refine ⟨⟨named, restNamed⟩, ⟨?_, distinct⟩,
          ⟨free, fun later member => (restFree later member).2⟩, rfl⟩
        intro again
        obtain ⟨later, member, same⟩ := List.mem_map.1 again
        exact (restFree later member).1 same
      · intro checked
        obtain ⟨⟨named, restNamed⟩, ⟨once, distinct⟩, ⟨free, restFree⟩, rfl⟩ := checked
        refine ⟨_, declare_eq_ok.2 ⟨named, free, rfl⟩, ih.2 ⟨restNamed, distinct, ?_, rfl⟩⟩
        intro later member taken
        rcases NameMap.names_insert.1 taken with same | taken
        · exact once (same ▸ List.mem_map_of_mem member)
        · exact restFree later member taken

theorem foldlM_declare_empty {resource : String} {final : NameMap Declaration}
    {declarations : List (String × Declaration)} :
    declarations.foldlM (declare resource) .empty = .ok final ↔
      (∀ declaration ∈ declarations, Text.isBlank declaration.1 = false) ∧
        (Keyed.keys declarations).Nodup ∧ final = .ofPairs declarations := by
  rw [foldlM_declare_eq_ok]
  exact and_congr_right fun _ => and_congr_right fun _ =>
    and_iff_right fun _ _ => List.not_mem_nil

/-! ## Calls -/

inductive Call where
  | filterable (fields : FieldSet)
  | sortable (fields : FieldSet)
  | defaultSort (ordering : DefaultSort)
  | customFilter (name : String) (declaration : Declaration)

namespace Call

def apply (draft : Draft) : Call → Draft
  | .filterable fields => draft.filterable fields
  | .sortable fields => draft.sortable fields
  | .defaultSort ordering => draft.defaultSort ordering
  | .customFilter name declaration => draft.customFilter name declaration

def filterable? : Call → Option FieldSet
  | .filterable fields => some fields
  | _ => none

def sortable? : Call → Option FieldSet
  | .sortable fields => some fields
  | _ => none

def ordering? : Call → Option DefaultSort
  | .defaultSort ordering => some ordering
  | _ => none

def customFilter? : Call → Option (String × Declaration)
  | .customFilter name declaration => some (name, declaration)
  | _ => none

end Call

/-- The draft for an entity that calls make, one after the other. -/
def ofCalls (entity : Entity) (calls : List Call) : Draft :=
  calls.foldl Call.apply { entity := entity }

/-- What the last of the calls that set something sets, or the default. -/
def lastSetting {α : Type} (setting? : Call → Option α) (default : α) (calls : List Call) : α :=
  (calls.filterMap setting?).getLast?.getD default

def customFilters (calls : List Call) : List (String × Declaration) :=
  calls.filterMap Call.customFilter?

def sortableAfter (entity : Entity) (calls : List Call) : FieldSet :=
  lastSetting Call.sortable? (.all entity) calls

/-- The calls set the same in the end, and declare the same custom filters in any order. -/
structure SameSettings (entity : Entity) (calls others : List Call) : Prop where
  filterable : lastSetting Call.filterable? (.all entity) calls =
    lastSetting Call.filterable? (.all entity) others
  sortable : sortableAfter entity calls = sortableAfter entity others
  ordering : lastSetting Call.ordering? .implicit calls =
    lastSetting Call.ordering? .implicit others
  customFilters : (customFilters calls).Perm (customFilters others)

/-- Every field of an explicit default ordering can be sorted by, and custom filters have names
of their own that are not blank. -/
structure Acceptable (entity : Entity) (calls : List Call) : Prop where
  sortable : ∀ fields, lastSetting Call.ordering? .implicit calls = .explicit fields →
    ∀ field ∈ fields, field.1 ∈ (sortableAfter entity calls).names
  named : ∀ declaration ∈ customFilters calls, Text.isBlank declaration.1 = false
  distinct : (Keyed.keys (customFilters calls)).Nodup

/-! ## What calls make of a draft -/

variable {entity : Entity} {calls others : List Call}

theorem entity_foldl (draft : Draft) (calls : List Call) :
    (calls.foldl Call.apply draft).entity = draft.entity := by
  induction calls generalizing draft with
  | nil => rfl
  | cons call rest ih =>
      rw [List.foldl_cons, ih]
      cases call <;> rfl

theorem declarations_foldl (draft : Draft) (calls : List Call) :
    (calls.foldl Call.apply draft).declarations = draft.declarations ++ customFilters calls := by
  induction calls generalizing draft with
  | nil => exact (List.append_nil _).symm
  | cons call rest ih =>
      rw [List.foldl_cons, ih]
      cases call with
      | filterable | sortable | defaultSort => rfl
      | customFilter name declaration => exact List.append_assoc ..

theorem entity_ofCalls : (ofCalls entity calls).entity = entity :=
  entity_foldl _ calls

theorem filterableSet_ofCalls :
    (ofCalls entity calls).filterableSet =
      lastSetting Call.filterable? (.all entity) calls :=
  Traversal.setting_foldl _ (fun _ call => by cases call <;> rfl) _ calls

theorem sortableSet_ofCalls :
    (ofCalls entity calls).sortableSet = sortableAfter entity calls :=
  Traversal.setting_foldl _ (fun _ call => by cases call <;> rfl) _ calls

theorem ordering_ofCalls :
    (ofCalls entity calls).ordering = lastSetting Call.ordering? .implicit calls :=
  Traversal.setting_foldl _ (fun _ call => by cases call <;> rfl) _ calls

theorem declarations_ofCalls : (ofCalls entity calls).declarations = customFilters calls :=
  declarations_foldl _ calls

/-! ## Building -/

theorem build_ofCalls_eq_ok {resource : Resource} :
    (ofCalls entity calls).build = .ok resource ↔
      ∃ spec, (lastSetting Call.ordering? .implicit calls).resolve entity.table
          (sortableAfter entity calls) = .ok spec ∧
        (∀ declaration ∈ customFilters calls, Text.isBlank declaration.1 = false) ∧
        (Keyed.keys (customFilters calls)).Nodup ∧
        resource = ⟨entity, lastSetting Call.filterable? (.all entity) calls,
          sortableAfter entity calls, spec,
          CustomFilters.normalize (.ofPairs (customFilters calls))⟩ := by
  rw [build_eq_ok]
  simp only [entity_ofCalls, filterableSet_ofCalls, sortableSet_ofCalls, ordering_ofCalls,
    declarations_ofCalls, foldlM_declare_empty]
  refine exists_congr fun spec => ?_
  constructor
  · intro built
    obtain ⟨declared, resolved, ⟨named, distinct, rfl⟩, same⟩ := built
    exact ⟨resolved, named, distinct, same⟩
  · intro built
    obtain ⟨resolved, named, distinct, same⟩ := built
    exact ⟨_, resolved, ⟨named, distinct, rfl⟩, same⟩

theorem exists_build_iff :
    (∃ resource, (ofCalls entity calls).build = .ok resource) ↔ Acceptable entity calls := by
  constructor
  · intro built
    obtain ⟨resource, built⟩ := built
    obtain ⟨spec, resolved, named, distinct, -⟩ := build_ofCalls_eq_ok.1 built
    exact ⟨DefaultSort.exists_resolve.1 ⟨spec, resolved⟩, named, distinct⟩
  · intro acceptable
    obtain ⟨spec, resolved⟩ := DefaultSort.exists_resolve.2 acceptable.sortable
    exact ⟨_, build_ofCalls_eq_ok.2 ⟨spec, resolved, acceptable.named, acceptable.distinct, rfl⟩⟩

/-- The order of the calls leaves no trace in the resource. -/
theorem SameSettings.build_eq_ok (same : SameSettings entity calls others) {resource : Resource}
    (built : (ofCalls entity calls).build = .ok resource) :
    (ofCalls entity others).build = .ok resource := by
  obtain ⟨spec, resolved, named, distinct, rfl⟩ := build_ofCalls_eq_ok.1 built
  refine build_ofCalls_eq_ok.2 ⟨spec, ?_, ?_, ?_, ?_⟩
  · rw [← same.ordering, ← same.sortable]
    exact resolved
  · intro declaration member
    exact named declaration (same.customFilters.mem_iff.2 member)
  · exact (same.customFilters.map Prod.fst).nodup_iff.1 distinct
  · rw [same.filterable, same.sortable,
      NameMap.ofPairs_eq_of_perm distinct same.customFilters]

theorem SameSettings.symm (same : SameSettings entity calls others) :
    SameSettings entity others calls :=
  ⟨same.filterable.symm, same.sortable.symm, same.ordering.symm, same.customFilters.symm⟩

theorem perm_entries_normalize {declarations : List (String × Declaration)}
    (distinct : (Keyed.keys declarations).Nodup) :
    (CustomFilters.normalize (.ofPairs declarations)).entries.Perm
      (declarations.map fun declaration => (declaration.1, declaration.2.normalize)) :=
  (NameMap.perm_entries_ofPairs distinct).map _

/-- Calls that set the same in the end can be built together or not at all, and the resources they
build tell and answer the same. Custom filters are described in the order of their names, in
whichever order they are kept. -/
theorem build_ofCalls {entity : Entity} {calls others : List Call}
    (same : SameSettings entity calls others) :
    ((∃ resource, (ofCalls entity calls).build = .ok resource) ↔
      ∃ other, (ofCalls entity others).build = .ok other) ∧
    ((∃ resource, (ofCalls entity calls).build = .ok resource) ↔ Acceptable entity calls) ∧
    ∀ resource other, (ofCalls entity calls).build = .ok resource →
      (ofCalls entity others).build = .ok other →
      resource.describe = other.describe ∧
      (∀ request select,
        resource.filter request select = other.filter request select ∧
        resource.sort request select = other.sort request select ∧
        resource.index request select = other.index request select) ∧
      ∀ listing : List (String × CustomFilter),
        listing.Perm ((customFilters others).map fun declaration =>
          (declaration.1, declaration.2.normalize)) →
        FilterDescription.sorted listing = resource.describe.customFilters := by
  refine ⟨⟨?_, ?_⟩, exists_build_iff, ?_⟩
  · intro built
    obtain ⟨resource, built⟩ := built
    exact ⟨resource, same.build_eq_ok built⟩
  · intro built
    obtain ⟨other, built⟩ := built
    exact ⟨other, same.symm.build_eq_ok built⟩
  · intro resource other built otherBuilt
    obtain rfl : resource = other := Except.ok.inj ((same.build_eq_ok built).symm.trans otherBuilt)
    refine ⟨rfl, fun request select => ⟨rfl, rfl, rfl⟩, fun listing listed => ?_⟩
    obtain ⟨spec, -, -, distinct, rfl⟩ := build_ofCalls_eq_ok.1 otherBuilt
    exact sorted_eq_customFilters (listed.trans (perm_entries_normalize distinct).symm)

end Resource.Draft

namespace Members

open Resource.Draft (Call)

/-- The sortable fields are set twice, and two custom filters are declared. -/
def calls : List Call :=
  [.customFilter "without" (.withValues without (.list ["a%", "b%"])), .sortable .none,
    .customFilter "absent" (.bare without), .sortable (.all entity),
    .defaultSort (.explicit [("id", .asc)])]

/-- Without the setting that is overwritten and the one that is the default, and with the custom
filters the other way round. -/
def rearranged : List Call :=
  [.defaultSort (.explicit [("id", .asc)]), .customFilter "absent" (.bare without),
    .customFilter "without" (.withValues without (.list ["a%", "b%"]))]

end Members

open Members in
theorem Resource.Draft.build_ofCalls_members :
    ∃ resource other,
      (ofCalls Members.entity calls).build = .ok resource ∧
      (ofCalls Members.entity rearranged).build = .ok other ∧
      resource.describe = other.describe ∧
      ∀ request select, resource.index request select = other.index request select := by
  have same : SameSettings Members.entity calls rearranged := ⟨rfl, rfl, rfl, .swap _ _ []⟩
  have accepted : Acceptable Members.entity calls := by
    refine ⟨?_, by decide, by decide⟩
    intro fields explicit field member
    cases explicit
    cases List.mem_singleton.1 member
    decide
  obtain ⟨both, acceptable, alike⟩ := Resource.Draft.build_ofCalls same
  obtain ⟨resource, built⟩ := acceptable.2 accepted
  obtain ⟨other, otherBuilt⟩ := both.1 ⟨resource, built⟩
  obtain ⟨described, answered, -⟩ := alike resource other built otherBuilt
  exact ⟨resource, other, built, otherBuilt, described,
    fun request select => (answered request select).2.2⟩

end Listing
