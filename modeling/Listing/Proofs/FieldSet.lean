import Listing.FieldSet
import Listing.Proofs.Traversal

set_option autoImplicit false

/-!
# Configured field sets

The field sets that the constructors make for an entity. Whichever constructor is used, a name is
bound to the column of the entity that has this name.
-/

namespace Listing.FieldSet

variable {entity : Entity} {set : FieldSet}

/-- A set that one of the constructors makes for the entity. -/
inductive Configured (entity : Entity) : FieldSet → Prop where
  | all : Configured entity (.all entity)
  | none : Configured entity .none
  | only {names : List String} {set : FieldSet} :
      FieldSet.only entity names = .ok set → Configured entity set
  | except {names : List String} {set : FieldSet} :
      FieldSet.except entity names = .ok set → Configured entity set

/-- Names are bound to columns of the entity that have these names. -/
def Faithful (entity : Entity) (set : FieldSet) : Prop :=
  ∀ field ∈ set.fields, field.2 ∈ entity.columns ∧ field.2.name = field.1

/-! ## Looking a column up -/

theorem mem_fields_of_column? {name : String} {column : Column}
    (bound : set.column? name = some column) : (name, column) ∈ set.fields := by
  obtain ⟨field, found, rfl⟩ := Option.map_eq_some_iff.1 bound
  have same : field.1 = name := by simpa using List.find?_some found
  subst same
  exact List.mem_of_find?_eq_some found

theorem mem_names_of_column? {name : String} {column : Column}
    (bound : set.column? name = some column) : name ∈ set.names :=
  List.mem_map_of_mem (mem_fields_of_column? bound)

theorem exists_column?_iff {name : String} :
    (∃ column, set.column? name = some column) ↔ name ∈ set.names := by
  rw [← Option.isSome_iff_exists, ← contains_eq_isSome_column?, contains_iff_mem_names]

/-- What a set lets a request reach under a name: the entity's own column of that name. -/
structure Reaches (entity : Entity) (set : FieldSet) (name : String) (column : Column) : Prop where
  listed : name ∈ set.names
  own : column ∈ entity.columns
  named : column.name = name

theorem Faithful.reaches (faithful : Faithful entity set) {name : String} {column : Column}
    (bound : set.column? name = some column) : Reaches entity set name column := by
  obtain ⟨own, named⟩ := faithful _ (mem_fields_of_column? bound)
  exact ⟨mem_names_of_column? bound, own, named⟩

/-! ## What the constructors make -/

theorem faithful_all : Faithful entity (.all entity) := by
  intro field member
  obtain ⟨column, own, rfl⟩ := List.mem_map.1 member
  exact ⟨own, rfl⟩

theorem entry_eq_ok {name : String} {field : String × Column} :
    entry entity name = .ok field ↔
      field.1 = name ∧ (all entity).column? name = some field.2 := by
  obtain ⟨other, column⟩ := field
  unfold entry
  split
  · next present found => simp [found, eq_comm]
  · next missing => simp [missing]

theorem only_eq_ok {names : List String} :
    only entity names = .ok set ↔
      List.Forall₂ (fun name field => field.1 = name ∧ (all entity).column? name = some field.2)
        names set.fields := by
  simp only [← entry_eq_ok, ← Traversal.mapM_eq_ok, only]
  cases names.mapM (entry entity) with
  | error error => simp [Except.map]
  | ok fields =>
      obtain ⟨others⟩ := set
      simp [Except.map]

theorem except_eq_ok {names : List String} :
    except entity names = .ok set ↔
      (∀ name ∈ names, name ∈ (all entity).names) ∧
        set.fields = (all entity).fields.filter fun field => !names.contains field.1 := by
  unfold except
  split
  · next unknown found =>
      have absent : unknown ∉ (all entity).names := by
        rw [← contains_iff_mem_names]
        simpa using List.find?_some found
      have named := List.mem_of_find?_eq_some found
      constructor
      · intro absurdity
        cases absurdity
      · intro known
        exact absurd (known.1 unknown named) absent
  · next known =>
      obtain ⟨others⟩ := set
      have present : ∀ name ∈ names, name ∈ (all entity).names := by
        intro name named
        rw [← contains_iff_mem_names]
        simpa using List.find?_eq_none.1 known name named
      simp only [Except.ok.injEq, mk.injEq, and_iff_right present, eq_comm]

theorem Configured.faithful (configured : Configured entity set) : Faithful entity set := by
  cases configured with
  | all => exact faithful_all
  | none =>
      intro field member
      cases member
  | @only names _ made =>
      intro field member
      obtain ⟨name, -, rfl, bound⟩ := Traversal.exists_of_mem_results (only_eq_ok.1 made) member
      have reached := faithful_all.reaches bound
      exact ⟨reached.own, reached.named⟩
  | @except names _ made =>
      intro field member
      rw [(except_eq_ok.1 made).2] at member
      exact faithful_all field (List.mem_filter.1 member).1

end Listing.FieldSet
