import Listing.Keyed

set_option autoImplicit false

/-!
# Lists of pairs as keyed entries

What is left of a list of pairs in which keys may repeat.
-/

namespace Listing.Keyed

variable {κ α β : Type} [DecidableEq κ]

def insertAll (pairs : List (κ × α)) (entries : List (κ × α)) : List (κ × α) :=
  pairs.foldl (fun entries pair => insert pair.1 pair.2 entries) entries

theorem insertAll_cons (pair : κ × α) (pairs entries : List (κ × α)) :
    insertAll (pair :: pairs) entries = insertAll pairs (insert pair.1 pair.2 entries) := rfl

/-- The entries after some steps in turn. Each step writes to its key what it makes of the value
that is there. -/
def upsertAll (update : α → Option β → β) (steps : List (κ × α)) (entries : List (κ × β)) :
    List (κ × β) :=
  steps.foldl (fun entries step => upsert step.1 (update step.2) entries) entries

theorem upsertAll_cons (update : α → Option β → β) (step : κ × α) (steps : List (κ × α))
    (entries : List (κ × β)) :
    upsertAll update (step :: steps) entries =
      upsertAll update steps (upsert step.1 (update step.2) entries) := rfl

/-! ## Where entries come from -/

/-- A look-up stops at the first place of the key. -/
theorem get?_eq_some_iff {key : κ} {value : α} {entries : List (κ × α)} :
    get? key entries = some value ↔
      ∃ before after, entries = before ++ (key, value) :: after ∧ key ∉ keys before := by
  constructor
  · intro found
    induction entries with
    | nil => cases found
    | cons first rest ih =>
        by_cases same : first.1 = key
        · subst same
          rw [get?, if_pos rfl] at found
          cases found
          exact ⟨[], rest, rfl, List.not_mem_nil⟩
        · rw [get?, if_neg same] at found
          obtain ⟨before, after, rfl, absent⟩ := ih found
          refine ⟨first :: before, after, rfl, ?_⟩
          rw [keys_cons, List.mem_cons, not_or]
          exact ⟨Ne.symm same, absent⟩
  · rintro ⟨before, after, rfl, absent⟩
    rw [get?_append, get?_eq_none_iff.2 absent, Option.none_or, get?, if_pos rfl]

theorem mem_of_get? {key : κ} {value : α} {entries : List (κ × α)}
    (found : get? key entries = some value) : (key, value) ∈ entries := by
  obtain ⟨before, after, rfl, -⟩ := get?_eq_some_iff.1 found
  exact List.mem_append_right _ List.mem_cons_self

theorem get?_of_mem {entries : List (κ × α)} (distinct : (keys entries).Nodup) {entry : κ × α}
    (member : entry ∈ entries) : get? entry.1 entries = some entry.2 := by
  induction entries with
  | nil => cases member
  | cons first rest ih =>
      obtain ⟨other, present⟩ := first
      rw [keys_cons, List.nodup_cons] at distinct
      rcases List.mem_cons.1 member with rfl | later
      · rw [get?, if_pos rfl]
      · have different : other ≠ entry.1 := by
          intro same
          exact distinct.1 (List.mem_map.2 ⟨entry, later, same.symm⟩)
        rw [get?, if_neg different]
        exact ih distinct.2 later

theorem mem_iff_get? {entries : List (κ × α)} (distinct : (keys entries).Nodup) {entry : κ × α} :
    entry ∈ entries ↔ get? entry.1 entries = some entry.2 :=
  ⟨get?_of_mem distinct, mem_of_get?⟩

theorem mem_upsert {key : κ} {update : Option α → α} {entries : List (κ × α)} {entry : κ × α}
    (member : entry ∈ upsert key update entries) :
    entry = (key, update (get? key entries)) ∨ entry ∈ entries := by
  induction entries with
  | nil => simpa [upsert, get?] using member
  | cons first rest ih =>
      obtain ⟨other, present⟩ := first
      by_cases same : other = key
      · subst same
        rw [upsert, if_pos rfl] at member
        rw [get?, if_pos rfl]
        rcases List.mem_cons.1 member with rfl | member
        · exact .inl rfl
        · exact .inr (List.mem_cons_of_mem _ member)
      · rw [upsert, if_neg same] at member
        rw [get?, if_neg same]
        rcases List.mem_cons.1 member with rfl | member
        · exact .inr List.mem_cons_self
        · exact (ih member).imp_right (List.mem_cons_of_mem _)

theorem mem_insert {key : κ} {value : α} {entries : List (κ × α)} {entry : κ × α}
    (member : entry ∈ insert key value entries) : entry = (key, value) ∨ entry ∈ entries :=
  mem_upsert member

theorem mem_insertAll {pairs entries : List (κ × α)} {entry : κ × α}
    (member : entry ∈ insertAll pairs entries) : entry ∈ pairs ∨ entry ∈ entries := by
  induction pairs generalizing entries with
  | nil => exact .inr member
  | cons pair rest ih =>
      rcases ih member with inRest | inserted
      · exact .inl (List.mem_cons_of_mem _ inRest)
      · rcases mem_insert inserted with rfl | present
        · exact .inl List.mem_cons_self
        · exact .inr present

theorem mem_of_mem_ofPairs {pairs : List (κ × α)} {entry : κ × α} (member : entry ∈ ofPairs pairs) :
    entry ∈ pairs := by
  rcases mem_insertAll member with inPairs | nowhere
  · exact inPairs
  · cases nowhere

/-! ## Distinct keys -/

theorem upsert_append_of_not_mem {key : κ} {update : Option α → α} {entries : List (κ × α)}
    (absent : key ∉ keys entries) (more : List (κ × α)) :
    upsert key update (entries ++ more) = entries ++ upsert key update more := by
  induction entries with
  | nil => rfl
  | cons first rest ih =>
      rw [keys_cons, List.mem_cons, not_or] at absent
      rw [List.cons_append, upsert, if_neg (Ne.symm absent.1), ih absent.2, List.cons_append]

theorem upsert_of_not_mem {key : κ} {update : Option α → α} {entries : List (κ × α)}
    (absent : key ∉ keys entries) :
    upsert key update entries = entries ++ [(key, update none)] := by
  have appended : upsert key update (entries ++ []) = entries ++ upsert key update [] :=
    upsert_append_of_not_mem absent []
  rwa [List.append_nil] at appended

theorem insertAll_append_of_not_mem {pairs entries : List (κ × α)}
    (absent : ∀ pair ∈ pairs, pair.1 ∉ keys entries) (more : List (κ × α)) :
    insertAll pairs (entries ++ more) = entries ++ insertAll pairs more := by
  induction pairs generalizing more with
  | nil => rfl
  | cons pair rest ih =>
      have first : insert pair.1 pair.2 (entries ++ more) = entries ++ insert pair.1 pair.2 more :=
        upsert_append_of_not_mem (absent pair List.mem_cons_self) more
      rw [insertAll_cons, insertAll_cons, first]
      exact ih (fun other member => absent other (List.mem_cons_of_mem _ member)) _

/-- Two lists with no key in common make their entries apart from each other. -/
theorem ofPairs_append {first second : List (κ × α)}
    (apart : ∀ pair ∈ first, ∀ other ∈ second, pair.1 ≠ other.1) :
    ofPairs (first ++ second) = ofPairs first ++ ofPairs second := by
  have absent : ∀ pair ∈ second, pair.1 ∉ keys (ofPairs first) := by
    intro pair member present
    obtain ⟨entry, listed, same⟩ := List.mem_map.1 present
    exact apart entry (mem_of_mem_ofPairs listed) pair member same
  have appended := insertAll_append_of_not_mem absent []
  rw [List.append_nil] at appended
  rw [ofPairs, List.foldl_append]
  exact appended

theorem upsertAll_append_of_nodup (update : α → Option β → β) {steps : List (κ × α)}
    {entries : List (κ × β)} (distinct : (keys entries ++ keys steps).Nodup) :
    upsertAll update steps entries =
      entries ++ steps.map fun step => (step.1, update step.2 none) := by
  induction steps generalizing entries with
  | nil => rw [List.map_nil, List.append_nil]; rfl
  | cons step rest ih =>
      have absent : step.1 ∉ keys entries := by
        intro present
        exact (List.nodup_append.1 distinct).2.2 _ present _ List.mem_cons_self rfl
      rw [upsertAll_cons, upsert_of_not_mem absent, ih]
      · rw [List.map_cons, List.append_assoc, List.singleton_append]
      · rw [keys_append, List.append_assoc]
        exact distinct

theorem upsertAll_of_nodup (update : α → Option β → β) {steps : List (κ × α)}
    (distinct : (keys steps).Nodup) :
    upsertAll update steps [] = steps.map fun step => (step.1, update step.2 none) := by
  have apart : (keys ([] : List (κ × β)) ++ keys steps).Nodup := distinct
  rw [upsertAll_append_of_nodup update apart, List.nil_append]

/-- Pairs with distinct keys are the entries they make. -/
theorem ofPairs_of_nodup {pairs : List (κ × α)} (distinct : (keys pairs).Nodup) :
    ofPairs pairs = pairs :=
  (upsertAll_of_nodup (fun value _ => value) distinct).trans (List.map_id' pairs)

theorem nodup_keys_insertAll {pairs entries : List (κ × α)} (distinct : (keys entries).Nodup) :
    (keys (insertAll pairs entries)).Nodup := by
  induction pairs generalizing entries with
  | nil => exact distinct
  | cons pair rest ih => exact ih (nodup_keys_insert distinct)

theorem nodup_keys_ofPairs (pairs : List (κ × α)) : (keys (ofPairs pairs)).Nodup :=
  nodup_keys_insertAll List.nodup_nil

theorem ofPairs_ofPairs (pairs : List (κ × α)) : ofPairs (ofPairs pairs) = ofPairs pairs :=
  ofPairs_of_nodup (nodup_keys_ofPairs pairs)

/-! ## Images of the values -/

def mapValues (image : α → β) (entries : List (κ × α)) : List (κ × β) :=
  entries.map fun entry => (entry.1, image entry.2)

omit [DecidableEq κ] in
@[simp] theorem keys_mapValues (image : α → β) (entries : List (κ × α)) :
    keys (mapValues image entries) = keys entries := by
  simp [keys, mapValues, Function.comp_def]

theorem get?_mapValues (image : α → β) (key : κ) (entries : List (κ × α)) :
    get? key (mapValues image entries) = (get? key entries).map image := by
  induction entries with
  | nil => rfl
  | cons first rest ih =>
      rw [mapValues, List.map_cons, get?, get?]
      by_cases same : first.1 = key
      · rw [if_pos same, if_pos same, Option.map_some]
      · rw [if_neg same, if_neg same, ← ih, mapValues]

omit [DecidableEq κ] in
theorem mapValues_reverse (image : α → β) (entries : List (κ × α)) :
    mapValues image entries.reverse = (mapValues image entries).reverse :=
  List.map_reverse

theorem insert_mapValues (image : α → β) (key : κ) (value : α) (entries : List (κ × α)) :
    insert key (image value) (mapValues image entries) =
      mapValues image (insert key value entries) := by
  induction entries with
  | nil => rfl
  | cons first rest ih =>
      by_cases same : first.1 = key
      · simp [insert, upsert, mapValues, same]
      · simpa [insert, upsert, mapValues, same] using ih

theorem insertAll_mapValues (image : α → β) (pairs entries : List (κ × α)) :
    insertAll (mapValues image pairs) (mapValues image entries) =
      mapValues image (insertAll pairs entries) := by
  induction pairs generalizing entries with
  | nil => rfl
  | cons pair rest ih =>
      rw [insertAll_cons, ← ih, ← insert_mapValues]
      rfl

theorem ofPairs_mapValues (image : α → β) (pairs : List (κ × α)) :
    ofPairs (mapValues image pairs) = mapValues image (ofPairs pairs) :=
  insertAll_mapValues image pairs []

/-! ## The first key of a kind -/

theorem find?_keys_insert (wanted : κ → Bool) (key : κ) (value : α) (entries : List (κ × α)) :
    (keys (insert key value entries)).find? wanted = (keys entries ++ [key]).find? wanted := by
  rw [keys_insert]
  split
  · next present =>
      cases found : (keys entries).find? wanted with
      | some first => rw [List.find?_append, found, Option.some_or]
      | none =>
          have unwanted := List.find?_eq_none.1 found key present
          simp [List.find?_append, found, unwanted]
  · rfl

theorem find?_keys_insertAll (wanted : κ → Bool) (pairs entries : List (κ × α)) :
    (keys (insertAll pairs entries)).find? wanted = (keys entries ++ keys pairs).find? wanted := by
  induction pairs generalizing entries with
  | nil => simp [insertAll]
  | cons pair rest ih =>
      rw [insertAll_cons, ih, List.find?_append, find?_keys_insert, ← List.find?_append,
        List.append_assoc]
      rfl

/-- Of the keys of one kind the one that arrives first is also the first in order. -/
theorem find?_keys_ofPairs (wanted : κ → Bool) (pairs : List (κ × α)) :
    (keys (ofPairs pairs)).find? wanted = (keys pairs).find? wanted :=
  find?_keys_insertAll wanted pairs []

/-! ## First places and last values -/

theorem keys_upsertAll (update : α → Option β → β) (steps : List (κ × α))
    (entries : List (κ × β)) :
    keys (upsertAll update steps entries) =
      keys entries ++ ((keys steps).filter fun key => key ∉ keys entries).eraseDups := by
  induction steps generalizing entries with
  | nil => simp [upsertAll]
  | cons step rest ih =>
      rw [upsertAll_cons, ih, keys_upsert, keys_cons]
      by_cases present : step.1 ∈ keys entries
      · rw [if_pos present, List.filter_cons_of_neg (by simpa using present)]
      · rw [if_neg present, List.filter_cons_of_pos (by simpa using present), List.eraseDups_cons,
          List.filter_filter, List.append_assoc, List.singleton_append]
        congr 3
        refine List.filter_congr fun key _ => ?_
        by_cases same : key = step.1
        · simp [same]
        · simp [same]

/-- Whatever is written, the keys are listed where they are first met. -/
theorem keys_upsertAll_nil (update : α → Option β → β) (steps : List (κ × α)) :
    keys (upsertAll update steps []) = (keys steps).eraseDups := by
  rw [keys_upsertAll, List.filter_eq_self.2 (by simp)]
  rfl

theorem keys_ofPairs (pairs : List (κ × α)) : keys (ofPairs pairs) = (keys pairs).eraseDups :=
  keys_upsertAll_nil (fun value _ => value) pairs

theorem get?_insertAll (key : κ) (pairs entries : List (κ × α)) :
    get? key (insertAll pairs entries) = (get? key pairs.reverse).or (get? key entries) := by
  induction pairs generalizing entries with
  | nil => rfl
  | cons pair rest ih =>
      rw [insertAll_cons, ih, get?_insert, List.reverse_cons, get?_append, Option.or_assoc]
      by_cases same : pair.1 = key
      · rw [if_pos same.symm, get?, if_pos same, Option.some_or]
      · rw [if_neg (Ne.symm same), get?, if_neg same, get?, Option.none_or]

theorem get?_ofPairs (key : κ) (pairs : List (κ × α)) :
    get? key (ofPairs pairs) = get? key pairs.reverse :=
  (get?_insertAll key pairs []).trans Option.or_none

omit [DecidableEq κ] in
theorem mem_keys_reverse {key : κ} {pairs : List (κ × α)} :
    key ∈ keys pairs.reverse ↔ key ∈ keys pairs := by
  rw [keys, List.map_reverse, List.mem_reverse, keys]

/-- From the end, a look-up stops at the last place of the key. -/
theorem get?_reverse_eq_some_iff {key : κ} {value : α} {pairs : List (κ × α)} :
    get? key pairs.reverse = some value ↔
      ∃ before after, pairs = before ++ (key, value) :: after ∧ key ∉ keys after := by
  rw [get?_eq_some_iff]
  constructor
  · rintro ⟨after, before, split, last⟩
    refine ⟨before.reverse, after.reverse, ?_, mt mem_keys_reverse.1 last⟩
    rw [← List.reverse_reverse pairs, split]
    simp
  · rintro ⟨before, after, rfl, last⟩
    exact ⟨after.reverse, before.reverse, by simp, mt mem_keys_reverse.1 last⟩

theorem mem_ofPairs_iff {pairs : List (κ × α)} {entry : κ × α} :
    entry ∈ ofPairs pairs ↔
      ∃ before after, pairs = before ++ entry :: after ∧ entry.1 ∉ keys after := by
  rw [mem_iff_get? (nodup_keys_ofPairs pairs), get?_ofPairs, get?_reverse_eq_some_iff]

/-- What is looked up depends on the pairs of the key alone. -/
theorem get?_filter (key : κ) (pairs : List (κ × α)) :
    get? key (pairs.filter fun pair => pair.1 = key) = get? key pairs := by
  induction pairs with
  | nil => rfl
  | cons pair rest ih =>
      by_cases same : pair.1 = key
      · rw [List.filter_cons_of_pos (by simpa using same), get?, get?, if_pos same, if_pos same]
      · rw [List.filter_cons_of_neg (by simpa using same), ih, get?, if_neg same]

end Listing.Keyed
