set_option autoImplicit false

namespace Listing.Keyed

/-!
# Keyed entries

Lists of entries in which each key occurs once, in order of first arrival. Writing to a key that
is present changes its entry in place; writing to a new key appends one. The view of such a list
is the pair of its `keys` and its look-up `get?`, and every operation says what it does to both.
-/

variable {κ α : Type}

def keys (entries : List (κ × α)) : List κ :=
  entries.map Prod.fst

@[simp] theorem keys_nil : keys ([] : List (κ × α)) = [] := rfl

@[simp] theorem keys_cons (entry : κ × α) (rest : List (κ × α)) :
    keys (entry :: rest) = entry.1 :: keys rest := rfl

theorem keys_append (entries others : List (κ × α)) :
    keys (entries ++ others) = keys entries ++ keys others :=
  List.map_append

variable [DecidableEq κ]

def get? (key : κ) : List (κ × α) → Option α
  | [] => none
  | (other, value) :: rest => if other = key then some value else get? key rest

/-- Replaces the value of the key in place, computed from the present one, or appends an entry. -/
def upsert (key : κ) (update : Option α → α) : List (κ × α) → List (κ × α)
  | [] => [(key, update none)]
  | (other, value) :: rest =>
    if other = key then (other, update (some value)) :: rest
    else (other, value) :: upsert key update rest

/-- Sets the value of a key, in place if it is present. -/
def insert (key : κ) (value : α) (entries : List (κ × α)) : List (κ × α) :=
  upsert key (fun _ => value) entries

/-- The entries of a list of pairs: of a repeated key the first place and the last value. -/
def ofPairs (pairs : List (κ × α)) : List (κ × α) :=
  pairs.foldl (fun entries pair => insert pair.1 pair.2 entries) []

/-! ## What writing does to the keys and to the look-up -/

theorem get?_eq_none_iff {key : κ} {entries : List (κ × α)} :
    get? key entries = none ↔ key ∉ keys entries := by
  induction entries with
  | nil => simp [get?]
  | cons entry rest ih =>
    obtain ⟨other, value⟩ := entry
    by_cases same : other = key
    · simp [get?, same]
    · simp [get?, same, ih, Ne.symm same]

theorem get?_append (key : κ) (entries others : List (κ × α)) :
    get? key (entries ++ others) = (get? key entries).or (get? key others) := by
  induction entries with
  | nil => rfl
  | cons entry rest ih =>
    by_cases same : entry.1 = key <;> simp [get?, same, ih]

/-- Writing to a present key moves nothing; writing to a new one appends it. -/
theorem keys_upsert (key : κ) (update : Option α → α) (entries : List (κ × α)) :
    keys (upsert key update entries) =
      if key ∈ keys entries then keys entries else keys entries ++ [key] := by
  induction entries with
  | nil => simp [upsert]
  | cons entry rest ih =>
    obtain ⟨other, value⟩ := entry
    by_cases same : other = key
    · simp [upsert, same]
    · by_cases member : key ∈ keys rest <;> simp [upsert, same, Ne.symm same, ih, member]

/-- The key written to holds the computed value, every other key what it held before. -/
theorem get?_upsert (key other : κ) (update : Option α → α) (entries : List (κ × α)) :
    get? other (upsert key update entries) =
      if other = key then some (update (get? key entries)) else get? other entries := by
  induction entries with
  | nil =>
    by_cases same : other = key
    · simp [upsert, get?, same]
    · simp [upsert, get?, same, Ne.symm same]
  | cons entry rest ih =>
    obtain ⟨first, value⟩ := entry
    by_cases here : first = key
    · subst here
      by_cases same : other = first
      · simp [upsert, get?, same]
      · simp [upsert, get?, same, Ne.symm same]
    · by_cases same : other = key
      · subst same
        simp [upsert, get?, here, ih]
      · by_cases found : first = other <;> simp [upsert, get?, here, found, ih, same]

/-- Writing keeps the keys apart. -/
theorem nodup_keys_upsert {key : κ} {update : Option α → α} {entries : List (κ × α)}
    (distinct : (keys entries).Nodup) : (keys (upsert key update entries)).Nodup := by
  rw [keys_upsert]
  split
  · exact distinct
  · next absent =>
    rw [List.nodup_append]
    exact ⟨distinct, by simp, by
      intro first inside second last
      simp only [List.mem_singleton] at last
      subst last
      exact fun same => absent (same ▸ inside)⟩

theorem keys_insert (key : κ) (value : α) (entries : List (κ × α)) :
    keys (insert key value entries) =
      if key ∈ keys entries then keys entries else keys entries ++ [key] :=
  keys_upsert key _ entries

theorem get?_insert (key other : κ) (value : α) (entries : List (κ × α)) :
    get? other (insert key value entries) =
      if other = key then some value else get? other entries :=
  get?_upsert key other _ entries

theorem nodup_keys_insert {key : κ} {value : α} {entries : List (κ × α)}
    (distinct : (keys entries).Nodup) : (keys (insert key value entries)).Nodup :=
  nodup_keys_upsert distinct

end Listing.Keyed
