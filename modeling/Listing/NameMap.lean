import Listing.Keyed

set_option autoImplicit false

namespace Listing

/-!
# Maps by name

Values found by name and listed in ascending order of the names. The order in which entries
arrive leaves no trace, so two maps with the same entries are the same.
-/

/-- Entries in ascending order of their names, no two of which are the same. -/
structure NameMap (α : Type) where
  entries : List (String × α)
  ascending : (Keyed.keys entries).Pairwise (· < ·)

namespace NameMap

variable {α β : Type}

/-! ## Entries in order -/

/-- Puts an entry where its name belongs, in place of one of the same name. -/
def insertInto (name : String) (value : α) : List (String × α) → List (String × α)
  | [] => [(name, value)]
  | (other, present) :: rest =>
    if name = other then (name, value) :: rest
    else if name < other then (name, value) :: (other, present) :: rest
    else (other, present) :: insertInto name value rest

/-- Putting an entry in adds its name and no other. -/
theorem mem_keys_insertInto {name other : String} {value : α} {entries : List (String × α)} :
    other ∈ Keyed.keys (insertInto name value entries) ↔
      other = name ∨ other ∈ Keyed.keys entries := by
  induction entries with
  | nil => simp [insertInto]
  | cons entry rest ih =>
    obtain ⟨first, present⟩ := entry
    simp only [insertInto]
    split
    · next same => simp [same]
    · split
      · simp
      · simp only [Keyed.keys_cons, List.mem_cons, ih]
        exact or_left_comm

/-- The name put in has the value, every other name what it had before. -/
theorem get?_insertInto (name other : String) (value : α) (entries : List (String × α)) :
    Keyed.get? other (insertInto name value entries) =
      if other = name then some value else Keyed.get? other entries := by
  induction entries with
  | nil =>
    by_cases same : other = name
    · simp [insertInto, Keyed.get?, same]
    · simp [insertInto, Keyed.get?, same, Ne.symm same]
  | cons entry rest ih =>
    obtain ⟨first, present⟩ := entry
    by_cases here : name = first
    · subst here
      by_cases same : other = name
      · simp [insertInto, Keyed.get?, same]
      · simp [insertInto, Keyed.get?, same, Ne.symm same]
    · by_cases same : other = name
      · subst same
        by_cases below : other < first <;>
          simp [insertInto, Keyed.get?, here, Ne.symm here, below, ih]
      · by_cases below : name < first <;>
          simp [insertInto, Keyed.get?, here, below, ih, same, Ne.symm same]

theorem ascending_insertInto {name : String} {value : α} {entries : List (String × α)}
    (ascending : (Keyed.keys entries).Pairwise (· < ·)) :
    (Keyed.keys (insertInto name value entries)).Pairwise (· < ·) := by
  induction entries with
  | nil => simp [insertInto]
  | cons entry rest ih =>
    obtain ⟨first, present⟩ := entry
    rw [Keyed.keys_cons, List.pairwise_cons] at ascending
    obtain ⟨above, ascending⟩ := ascending
    simp only [insertInto]
    split
    · next same =>
      subst same
      exact List.pairwise_cons.2 ⟨above, ascending⟩
    · next different =>
      split
      · next below =>
        refine List.pairwise_cons.2 ⟨?_, List.pairwise_cons.2 ⟨above, ascending⟩⟩
        intro other member
        rcases List.mem_cons.1 member with same | member
        · exact same ▸ below
        · exact String.lt_trans below (above other member)
      · next notBelow =>
        refine List.pairwise_cons.2 ⟨?_, ih ascending⟩
        intro other member
        rcases mem_keys_insertInto.1 member with same | member
        · subst same
          exact Std.lt_of_le_of_ne (String.not_lt.1 notBelow) (Ne.symm different)
        · exact above other member

/-! ## Operations -/

def empty : NameMap α := ⟨[], List.Pairwise.nil⟩

def insert (map : NameMap α) (name : String) (value : α) : NameMap α :=
  ⟨insertInto name value map.entries, ascending_insertInto map.ascending⟩

/-- The map of a list of pairs: of a repeated name the last value. -/
def ofPairs (pairs : List (String × α)) : NameMap α :=
  pairs.foldl (fun map pair => map.insert pair.1 pair.2) empty

def get? (map : NameMap α) (name : String) : Option α :=
  Keyed.get? name map.entries

def contains (map : NameMap α) (name : String) : Bool :=
  (map.get? name).isSome

def names (map : NameMap α) : List String :=
  Keyed.keys map.entries

def mapValues (map : NameMap α) (image : α → β) : NameMap β where
  entries := map.entries.map fun entry => (entry.1, image entry.2)
  ascending := by
    simpa [Keyed.keys, Function.comp_def] using map.ascending

/-! ## Looking a name up -/

theorem contains_iff_mem_names {map : NameMap α} {name : String} :
    map.contains name = true ↔ name ∈ map.names := by
  rw [contains, names, get?, Option.isSome_iff_ne_none, ne_eq, Keyed.get?_eq_none_iff,
    Decidable.not_not]

theorem get?_insert (map : NameMap α) (name other : String) (value : α) :
    (map.insert name value).get? other = if other = name then some value else map.get? other :=
  get?_insertInto name other value map.entries

theorem names_mapValues (map : NameMap α) (image : α → β) :
    (map.mapValues image).names = map.names := by
  simp [names, mapValues, Keyed.keys, Function.comp_def]

theorem get?_mapValues (map : NameMap α) (image : α → β) (name : String) :
    (map.mapValues image).get? name = (map.get? name).map image := by
  simp only [get?, mapValues]
  induction map.entries with
  | nil => rfl
  | cons entry rest ih =>
    by_cases same : entry.1 = name <;> simp [Keyed.get?, same, ih]

end NameMap

end Listing
