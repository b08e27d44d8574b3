import Listing.NameMap
import Listing.Proofs.Keyed
import Mathlib.Data.List.Pairwise

set_option autoImplicit false

/-!
# Maps from entries in any order

A map keeps the entries that go in, as long as no name comes twice, and it is known by its entries
alone. So the order in which they go in does not show.
-/

namespace Listing.NameMap

variable {α : Type} {map other : NameMap α} {pairs others : List (String × α)}

theorem perm_insertInto {name : String} {value : α} {entries : List (String × α)}
    (fresh : name ∉ Keyed.keys entries) :
    (insertInto name value entries).Perm ((name, value) :: entries) := by
  induction entries with
  | nil => exact .refl _
  | cons entry rest ih =>
      rw [Keyed.keys_cons, List.mem_cons, not_or] at fresh
      rw [insertInto, if_neg fresh.1]
      split
      · exact .refl _
      · exact ((ih fresh.2).cons entry).trans (.swap _ _ rest)

theorem names_insert {name wanted : String} {value : α} :
    wanted ∈ (map.insert name value).names ↔ wanted = name ∨ wanted ∈ map.names :=
  mem_keys_insertInto

theorem nodup_names (map : NameMap α) : map.names.Nodup :=
  map.ascending.imp String.ne_of_lt

theorem get?_of_mem {entry : String × α} (member : entry ∈ map.entries) :
    map.get? entry.1 = some entry.2 :=
  Keyed.get?_of_mem map.nodup_names member

/-! ## Entries that go in -/

def insertAll (map : NameMap α) (pairs : List (String × α)) : NameMap α :=
  pairs.foldl (fun map pair => map.insert pair.1 pair.2) map

theorem perm_entries_insertAll (distinct : (Keyed.keys pairs).Nodup)
    (fresh : ∀ pair ∈ pairs, pair.1 ∉ map.names) :
    (map.insertAll pairs).entries.Perm (pairs ++ map.entries) := by
  induction pairs generalizing map with
  | nil => exact .refl _
  | cons pair rest ih =>
      rw [Keyed.keys_cons, List.nodup_cons] at distinct
      have restFresh : ∀ later ∈ rest, later.1 ∉ (map.insert pair.1 pair.2).names := by
        intro later member taken
        rcases names_insert.1 taken with same | taken
        · exact distinct.1 (same ▸ List.mem_map_of_mem member)
        · exact fresh later (List.mem_cons_of_mem _ member) taken
      have added : (map.insert pair.1 pair.2).entries.Perm (pair :: map.entries) :=
        perm_insertInto (fresh pair List.mem_cons_self)
      exact (ih distinct.2 restFresh).trans
        ((added.append_left rest).trans List.perm_middle)

theorem perm_entries_ofPairs (distinct : (Keyed.keys pairs).Nodup) :
    (ofPairs pairs).entries.Perm pairs := by
  have inserted : ((empty : NameMap α).insertAll pairs).entries.Perm (pairs ++ []) :=
    perm_entries_insertAll distinct fun pair _ => List.not_mem_nil
  rwa [List.append_nil] at inserted

/-! ## Entries that come out -/

/-- Names ascend strictly, so there is one order for the same entries. -/
theorem eq_of_perm (same : map.entries.Perm other.entries) : map = other := by
  obtain ⟨entries, ascending⟩ := map
  obtain ⟨otherEntries, otherAscending⟩ := other
  have below : entries.Pairwise fun first second => first.1 < second.1 :=
    List.pairwise_map.1 ascending
  have otherBelow : otherEntries.Pairwise fun first second => first.1 < second.1 :=
    List.pairwise_map.1 otherAscending
  have entriesSame : entries = otherEntries := by
    refine same.eq_of_pairwise ?_ below otherBelow
    intro first second _ _ less greater
    exact absurd less (String.lt_asymm greater)
  subst entriesSame
  rfl

theorem ofPairs_eq_of_perm (distinct : (Keyed.keys pairs).Nodup) (same : pairs.Perm others) :
    ofPairs pairs = ofPairs others := by
  have othersDistinct : (Keyed.keys others).Nodup := (same.map Prod.fst).nodup_iff.1 distinct
  exact eq_of_perm ((perm_entries_ofPairs distinct).trans
    (same.trans (perm_entries_ofPairs othersDistinct).symm))

end Listing.NameMap
