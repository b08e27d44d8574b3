import Listing.Proofs.FieldSet
import Listing.Proofs.Resource
import Mathlib.Data.List.Nodup

set_option autoImplicit false

/-!
# Named columns and the others

The set of some named columns and the set of all but these share the columns of an entity between
them, and a name that is no column is refused for both in the same way.
-/

namespace Listing.FieldSet

variable {entity : Entity} {names : List String}

theorem names_all : (all entity).names = entity.columnNames := by
  rw [all, FieldSet.names, List.map_map]
  rfl

theorem entry_eq_error {name : String} {error : ConfigError} :
    entry entity name = .error error ↔
      name ∉ entity.columnNames ∧ error = .unknownField entity.table name := by
  rw [← names_all, ← exists_column?_iff, ← Option.isSome_iff_exists, entry]
  cases (all entity).column? name with
  | some column => simp
  | none => simp [eq_comm]

theorem exists_entry_iff {name : String} :
    (∃ field, entry entity name = .ok field) ↔ name ∈ entity.columnNames := by
  rw [← names_all, ← exists_column?_iff, entry]
  cases (all entity).column? name with
  | some column => simp
  | none => simp

/-- The first of the names that is no column of the entity. -/
def FirstUnknown (entity : Entity) (names : List String) (unknown : String) : Prop :=
  ∃ before after, names = before ++ unknown :: after ∧
    (∀ earlier ∈ before, earlier ∈ entity.columnNames) ∧ unknown ∉ entity.columnNames

theorem only_eq_error {error : ConfigError} :
    only entity names = .error error ↔
      ∃ unknown, FirstUnknown entity names unknown ∧
        error = .unknownField entity.table unknown := by
  have mapped : only entity names = .error error ↔
      names.mapM (entry entity) = .error error := by
    unfold only
    cases names.mapM (entry entity) <;> simp [Except.map]
  simp only [mapped, Traversal.mapM_eq_error, exists_entry_iff, entry_eq_error]
  constructor
  · intro failed
    obtain ⟨before, unknown, after, split, known, absent, rfl⟩ := failed
    exact ⟨unknown, ⟨before, after, split, known, absent⟩, rfl⟩
  · intro blamed
    obtain ⟨unknown, ⟨before, after, split, known, absent⟩, rfl⟩ := blamed
    exact ⟨before, unknown, after, split, known, absent, rfl⟩

theorem find?_unknown {unknown : String} :
    (names.find? fun name => !(all entity).contains name) = some unknown ↔
      FirstUnknown entity names unknown := by
  have known (name : String) :
      (all entity).contains name = true ↔ name ∈ entity.columnNames := by
    rw [contains_iff_mem_names, names_all]
  simp only [List.find?_eq_some_iff_append, Bool.not_not, Bool.not_eq_true', known,
    ← Bool.not_eq_true]
  constructor
  · intro found
    obtain ⟨absent, before, after, split, earlier⟩ := found
    exact ⟨before, after, split, earlier, absent⟩
  · intro first
    obtain ⟨before, after, split, earlier, absent⟩ := first
    exact ⟨absent, before, after, split, earlier⟩

theorem except_eq_error {error : ConfigError} :
    except entity names = .error error ↔
      ∃ unknown, FirstUnknown entity names unknown ∧
        error = .unknownField entity.table unknown := by
  simp only [← find?_unknown, except]
  cases names.find? fun name => !(all entity).contains name with
  | some unknown => simp [eq_comm]
  | none => simp

/-! ## What the two sets list -/

variable {set listed others : FieldSet}

theorem names_of_only (made : only entity names = .ok set) : set.names = names := by
  have pointwise : List.Forall₂ (· = ·) names set.names :=
    List.forall₂_map_right_iff.2 ((only_eq_ok.1 made).imp fun _ _ bound => bound.1.symm)
  rw [List.forall₂_eq_eq_eq] at pointwise
  exact pointwise.symm

theorem names_of_except (made : except entity names = .ok set) :
    set.names = entity.columnNames.filter fun name => name ∉ names := by
  rw [FieldSet.names, (except_eq_ok.1 made).2, ← names_all, FieldSet.names, List.filter_map]
  simp [Function.comp_def]

/-- As long as no two columns have the same name, a name can only be bound to its own column. -/
theorem Configured.column?_eq (configured : Configured entity set)
    (distinct : entity.columnNames.Nodup) {column : Column} (own : column ∈ entity.columns)
    (contained : set.contains column.name = true) : set.column? column.name = some column := by
  obtain ⟨other, bound⟩ := exists_column?_iff.2 (contains_iff_mem_names.1 contained)
  have reached := configured.faithful.reaches bound
  rw [bound, List.inj_on_of_nodup_map distinct reached.own own reached.named]

/-- The columns of the entity are divided between the two sets. The first lists the names that are
given, the second the others in the order of the entity. -/
structure Divides (entity : Entity) (names : List String) (listed others : FieldSet) : Prop where
  names_listed : listed.names = names
  names_others : others.names = entity.columnNames.filter fun name => name ∉ names
  once : ∀ name ∈ entity.columnNames, others.contains name = !listed.contains name
  foreign : ∀ name, name ∉ entity.columnNames →
    listed.contains name = false ∧ others.contains name = false
  own : ∀ column ∈ entity.columns,
    (listed.contains column.name = true → listed.column? column.name = some column) ∧
      (others.contains column.name = true → others.column? column.name = some column)

theorem divides_of_only_except (distinct : entity.columnNames.Nodup)
    (only : only entity names = .ok listed) (except : except entity names = .ok others) :
    Divides entity names listed others where
  names_listed := names_of_only only
  names_others := names_of_except except
  once name column := by
    rw [Bool.eq_iff_iff, Bool.not_eq_true', ← Bool.not_eq_true, contains_iff_mem_names,
      contains_iff_mem_names, names_of_only only, names_of_except except, List.mem_filter]
    simp [column]
  foreign name absent := by
    simp only [← Bool.not_eq_true, contains_iff_mem_names, names_of_only only,
      names_of_except except]
    refine ⟨fun named => absent ?_, fun kept => absent (List.mem_filter.1 kept).1⟩
    rw [← names_all]
    exact (except_eq_ok.1 except).1 name named
  own column own :=
    ⟨(Configured.only only).column?_eq distinct own,
      (Configured.except except).column?_eq distinct own⟩

/-- The first name that is no column is refused for both sets. If there is none, the columns are
divided between the set of the named ones and the set of all others. -/
theorem only_except (distinct : entity.columnNames.Nodup) (names : List String) :
    (∃ unknown, FirstUnknown entity names unknown ∧
      only entity names = .error (.unknownField entity.table unknown) ∧
      except entity names = .error (.unknownField entity.table unknown)) ∨
    ∃ listed others, only entity names = .ok listed ∧ except entity names = .ok others ∧
      Divides entity names listed others := by
  cases only : only entity names with
  | error error =>
      obtain ⟨unknown, first, rfl⟩ := only_eq_error.1 only
      exact .inl ⟨unknown, first, rfl, except_eq_error.2 ⟨unknown, first, rfl⟩⟩
  | ok listed =>
      cases except : except entity names with
      | error error =>
          rw [only_eq_error.2 (except_eq_error.1 except)] at only
          cases only
      | ok others =>
          exact .inr ⟨listed, others, rfl, rfl, divides_of_only_except distinct only except⟩

/-- A name may be given twice. Of two names that are no columns the first is to blame. -/
theorem only_except_members :
    Members.entity.columnNames.Nodup ∧
      (∃ listed others, only Members.entity ["login", "login"] = .ok listed ∧
        except Members.entity ["login", "login"] = .ok others ∧
        listed.names = ["login", "login"] ∧ others.names = ["id"] ∧
        listed.column? "login" = some Members.loginColumn ∧ others.contains "login" = false) ∧
      only Members.entity ["login", "age", "name"] = .error (.unknownField "members" "age") ∧
      except Members.entity ["login", "age", "name"] = .error (.unknownField "members" "age") := by
  have distinct : Members.entity.columnNames.Nodup := by decide
  have known : ∀ unknown, ¬ FirstUnknown Members.entity ["login", "login"] unknown := by
    intro unknown first
    have refused := only_eq_error.2 ⟨unknown, first, rfl⟩
    cases refused
  refine ⟨distinct, ?_, ?_⟩
  · obtain ⟨unknown, first, -⟩ | ⟨listed, others, only, except, divides⟩ :=
      only_except distinct ["login", "login"]
    · exact absurd first (known unknown)
    · have listedLogin : listed.contains "login" = true := by
        rw [contains_iff_mem_names, divides.names_listed]
        exact List.mem_cons_self
      refine ⟨listed, others, only, except, divides.names_listed, divides.names_others,
        (divides.own Members.loginColumn (by decide)).1 listedLogin, ?_⟩
      rw [divides.once "login" (by decide), listedLogin]
      rfl
  · have age : FirstUnknown Members.entity ["login", "age", "name"] "age" :=
      ⟨["login"], ["name"], rfl, by decide, by decide⟩
    exact ⟨only_eq_error.2 ⟨"age", age, rfl⟩, except_eq_error.2 ⟨"age", age, rfl⟩⟩

end Listing.FieldSet
