import Listing.Proofs.Request
import Mathlib.Data.Prod.Basic

set_option autoImplicit false

/-!
# The grammar of query pairs

Which query pairs make a request, and which request they make. The filter and the ordering are read
apart from each other and pairs with other keys do not count, so all that matters is the order of
the filter parameters among themselves and of the sort parameters among themselves.
-/

namespace Listing.Request

/-! ## Keys -/

/-- The key goes on with a bracket behind the name of the filter parameter. -/
def Opens (key : String) : Prop :=
  "filter[".toList <+: key.toList

instance : DecidablePred Opens :=
  fun key => inferInstanceAs (Decidable ("filter[".toList <+: key.toList))

def NamesFilter (key : String) : Prop :=
  key = filterParameter ∨ Opens key

instance : DecidablePred NamesFilter :=
  fun key => inferInstanceAs (Decidable (key = filterParameter ∨ Opens key))

theorem not_opens_filterParameter : ¬ Opens filterParameter := by
  decide

theorem not_namesFilter_sortParameter : ¬ NamesFilter sortParameter := by
  decide

theorem toList_bracketedKey (field : String) :
    (bracketedKey field).toList = "filter[".toList ++ (field.toList ++ [']']) := by
  simp [bracketedKey]

theorem opens_bracketedKey (field : String) : Opens (bracketedKey field) :=
  ⟨_, (toList_bracketedKey field).symm⟩

theorem bracketedKey_injective : Function.Injective bracketedKey := by
  intro field other same
  have chars := congrArg String.toList same
  simp only [toList_bracketedKey, List.append_cancel_left_eq, List.append_cancel_right_eq] at chars
  exact String.toList_injective chars

/-- What is between the brackets of a key is read as a field if it can stand there. -/
theorem bracketedField?_eq_some {rest : List Char} {field : String}
    (read : bracketedField? ('[' :: rest) = some field) :
    Bracketable field ∧ rest = field.toList ++ [']'] := by
  simp only [bracketedField?, List.drop_succ_cons, List.drop_zero,
    Option.ite_none_right_eq_some, Option.some.injEq] at read
  obtain ⟨⟨-, closed, present, noOpening, noClosing⟩, rfl⟩ := read
  rw [String.toList_ofList]
  refine ⟨⟨?_, by simpa using noOpening, by simpa using noClosing⟩, ?_⟩
  · intro empty
    exact present (by simpa using congrArg String.toList empty)
  · exact (List.dropLast_append_getLast? _ closed).symm

/-- The ways in which a key can count. -/
inductive Form : String → Prop where
  | filter : Form filterParameter
  | field {field : String} : Bracketable field → Form (bracketedKey field)
  | malformed {key : String} :
      Opens key → (∀ field, Bracketable field → key ≠ bracketedKey field) → Form key
  | sort : Form sortParameter
  | unrelated {key : String} : ¬ NamesFilter key → key ≠ sortParameter → Form key

theorem form (key : String) : Form key := by
  by_cases filter : key = filterParameter
  · exact filter ▸ .filter
  by_cases opens : Opens key
  · by_cases bracketed : ∃ field, Bracketable field ∧ key = bracketedKey field
    · obtain ⟨field, bracketable, rfl⟩ := bracketed
      exact .field bracketable
    · exact .malformed opens fun field bracketable same => bracketed ⟨field, bracketable, same⟩
  by_cases sort : key = sortParameter
  · exact sort ▸ .sort
  exact .unrelated (by simp [NamesFilter, filter, opens]) sort

/-! ## One parameter -/

theorem addPair_filter (request : Request) (text : String) :
    addPair request (filterParameter, text) =
      match request.filter with
      | .fields _ => .error (malformedFilter .mixedEncodings)
      | _ => .ok { request with filter := .json text } := rfl

theorem addPair_sort (request : Request) (text : String) :
    addPair request (sortParameter, text) = .ok { request with sort := some text } := by
  have sort : Key.ofText sortParameter = .sort := by decide
  simp only [addPair, sort]

theorem addPair_malformed {key : String} (opens : Opens key)
    (malformed : ∀ field, Bracketable field → key ≠ bracketedKey field) (value : String)
    (request : Request) :
    addPair request (key, value) = .error (malformedFilter (.badKey key)) := by
  obtain ⟨rest, chars⟩ := opens
  have other : key ≠ filterParameter := by
    rintro rfl
    exact not_opens_filterParameter ⟨rest, chars⟩
  have bracketed : Key.ofText key = .bracketed ('[' :: rest) := by
    rw [Key.ofText, if_neg other, ← chars]
    rfl
  have unread : bracketedField? ('[' :: rest) = none := by
    cases read : bracketedField? ('[' :: rest) with
    | none => rfl
    | some field =>
        obtain ⟨bracketable, rfl⟩ := bracketedField?_eq_some read
        refine absurd ?_ (malformed field bracketable)
        exact String.toList_injective (chars.symm.trans (toList_bracketedKey field).symm)
  simp only [addPair, bracketed, unread]

theorem addPair_unrelated {key : String} (other : ¬ NamesFilter key) (notSort : key ≠ sortParameter)
    (value : String) (request : Request) : addPair request (key, value) = .ok request := by
  simp only [NamesFilter, not_or] at other
  have unrelated : Key.ofText key = .unrelated := by
    rw [Key.ofText, if_neg other.1, if_neg, if_neg notSort]
    rw [List.isPrefixOf_iff_prefix]
    exact other.2
  simp only [addPair, unrelated]

/-! ## Filter and ordering apart -/

/-- What a parameter makes of the filter that is read before it. -/
def addFilter (filter : FilterText) (pair : String × String) : Except RequestError FilterText :=
  (addPair ⟨filter, none⟩ pair).map Request.filter

theorem addFilter_filter (filter : FilterText) (text : String) :
    addFilter filter (filterParameter, text) =
      match filter with
      | .fields _ => .error (malformedFilter .mixedEncodings)
      | _ => .ok (.json text) := by
  cases filter <;> rfl

theorem addFilter_field {field : String} (bracketable : Bracketable field) (filter : FilterText)
    (value : String) :
    addFilter filter (bracketedKey field, value) =
      match filter with
      | .absent => .ok (.fields [(field, value)])
      | .fields pairs => .ok (.fields (pairs ++ [(field, value)]))
      | .json _ => .error (malformedFilter .mixedEncodings) := by
  simp only [addFilter, addPair_bracketed bracketable]
  cases filter <;> rfl

theorem addFilter_malformed {key : String} (opens : Opens key)
    (malformed : ∀ field, Bracketable field → key ≠ bracketedKey field) (value : String)
    (filter : FilterText) :
    addFilter filter (key, value) = .error (malformedFilter (.badKey key)) := by
  rw [addFilter, addPair_malformed opens malformed]
  rfl

theorem addFilter_other {key : String} (other : ¬ NamesFilter key) (value : String)
    (filter : FilterText) : addFilter filter (key, value) = .ok filter := by
  by_cases sort : key = sortParameter
  · rw [sort, addFilter, addPair_sort]
    rfl
  · rw [addFilter, addPair_unrelated other sort]
    rfl

theorem addPair_eq (request : Request) (pair : String × String) :
    addPair request pair =
      (addFilter request.filter pair).map fun filter =>
        ⟨filter, if pair.1 = sortParameter then some pair.2 else request.sort⟩ := by
  obtain ⟨filter, sort⟩ := request
  obtain ⟨key, value⟩ := pair
  have notSort {key : String} (names : NamesFilter key) : key ≠ sortParameter := by
    rintro rfl
    exact not_namesFilter_sortParameter names
  cases form key with
  | filter =>
      rw [addPair_filter, addFilter_filter, if_neg (notSort (.inl rfl))]
      cases filter <;> rfl
  | field bracketable =>
      rw [addPair_bracketed bracketable, addFilter_field bracketable,
        if_neg (notSort (.inr (opens_bracketedKey _)))]
      cases filter <;> rfl
  | malformed opens malformed =>
      rw [addPair_malformed opens malformed, addFilter_malformed opens malformed]
      rfl
  | sort =>
      rw [addPair_sort, addFilter_other not_namesFilter_sortParameter, if_pos rfl]
      rfl
  | unrelated other different =>
      rw [addPair_unrelated other different, addFilter_other other, if_neg different]
      rfl

/-- The values of a parameter, in order. -/
def values (parameter : String) (pairs : List (String × String)) : List String :=
  (pairs.filter fun pair => pair.1 = parameter).map Prod.snd

@[simp] theorem values_nil (parameter : String) : values parameter [] = [] := rfl

theorem values_append (parameter : String) (pairs others : List (String × String)) :
    values parameter (pairs ++ others) = values parameter pairs ++ values parameter others := by
  simp [values]

theorem values_cons (parameter : String) (pair : String × String)
    (pairs : List (String × String)) :
    values parameter (pair :: pairs) =
      if pair.1 = parameter then pair.2 :: values parameter pairs else values parameter pairs := by
  by_cases same : pair.1 = parameter <;> simp [values, same]

theorem foldlM_addPair (pairs : List (String × String)) (request : Request) :
    pairs.foldlM addPair request =
      (pairs.foldlM addFilter request.filter).map fun filter =>
        ⟨filter, (values sortParameter pairs).getLast?.or request.sort⟩ := by
  induction pairs generalizing request with
  | nil => rfl
  | cons pair rest ih =>
      rw [List.foldlM_cons, List.foldlM_cons, addPair_eq, values_cons]
      cases addFilter request.filter pair with
      | error error => rfl
      | ok filter =>
          refine (ih _).trans ?_
          split
          · simp [bind, Except.bind, List.getLast?_cons, Option.or_some]
          · rfl

theorem foldlM_addFilter_filter (pairs : List (String × String)) (filter : FilterText) :
    (pairs.filter fun pair => NamesFilter pair.1).foldlM addFilter filter =
      pairs.foldlM addFilter filter := by
  induction pairs generalizing filter with
  | nil => rfl
  | cons pair rest ih =>
      by_cases names : NamesFilter pair.1
      · rw [List.filter_cons_of_pos (by simpa using names), List.foldlM_cons, List.foldlM_cons]
        exact congrArg _ (funext ih)
      · rw [List.filter_cons_of_neg (by simpa using names), List.foldlM_cons, ih,
          addFilter_other names]
        rfl

/-- The filter is read from all pairs in order, and the last sort parameter counts. -/
theorem ofPairs_eq (pairs : List (String × String)) :
    ofPairs pairs =
      (pairs.foldlM addFilter .absent).map fun filter =>
        ⟨filter, (values sortParameter pairs).getLast?⟩ := by
  rw [ofPairs, foldlM_addPair]
  simp

/-- Pairs ask for the same if they have the same filter parameters in the same order and the same
sort parameters in the same order. -/
theorem ofPairs_congr {pairs others : List (String × String)}
    (sameFilters : (others.filter fun pair => NamesFilter pair.1) =
      pairs.filter fun pair => NamesFilter pair.1)
    (sameSorts : values sortParameter others = values sortParameter pairs) :
    ofPairs others = ofPairs pairs := by
  rw [ofPairs_eq, ofPairs_eq, ← foldlM_addFilter_filter, sameFilters, foldlM_addFilter_filter,
    sameSorts]

/-! ## The grammar -/

/-- The pairs whose key goes on with a bracket, in order. -/
def bracketed (pairs : List (String × String)) : List (String × String) :=
  pairs.filter fun pair => Opens pair.1

/-- A key that goes on with a bracket has a field between its brackets, and only one of the
encodings of the filter occurs. -/
structure Readable (pairs : List (String × String)) : Prop where
  fields : ∀ pair ∈ pairs, Opens pair.1 → ∃ field, Bracketable field ∧ pair.1 = bracketedKey field
  unmixed : (∃ pair ∈ pairs, pair.1 = filterParameter) → ∀ pair ∈ pairs, ¬ Opens pair.1

/-- The filter that query pairs ask for: the last text, or all bracketed fields with their values in
order. -/
inductive AsksFor (pairs : List (String × String)) : FilterText → Prop where
  | absent : values filterParameter pairs = [] → bracketed pairs = [] → AsksFor pairs .absent
  | json {text : String} :
      (values filterParameter pairs).getLast? = some text → AsksFor pairs (.json text)
  | fields {asked : List (String × String)} :
      values filterParameter pairs = [] → asked ≠ [] →
      bracketed pairs = asked.map (fun pair => (bracketedKey pair.1, pair.2)) →
      AsksFor pairs (.fields asked)

variable {pairs : List (String × String)}

theorem values_eq_nil_iff {parameter : String} :
    values parameter pairs = [] ↔ ∀ pair ∈ pairs, pair.1 ≠ parameter := by
  simp [values]

theorem bracketed_eq_nil_iff : bracketed pairs = [] ↔ ∀ pair ∈ pairs, ¬ Opens pair.1 := by
  simp [bracketed]

theorem bracketed_append_singleton (pair : String × String) :
    bracketed (pairs ++ [pair]) = bracketed pairs ++ if Opens pair.1 then [pair] else [] := by
  by_cases opens : Opens pair.1 <;> simp [bracketed, opens]

theorem AsksFor.unique {filter other : FilterText} (asks : AsksFor pairs filter)
    (asksOther : AsksFor pairs other) : filter = other := by
  cases asks with
  | absent none bare =>
      cases asksOther with
      | absent => rfl
      | json last => simp [none] at last
      | fields _ present written => simp [bare, present] at written
  | json last =>
      cases asksOther with
      | absent none => simp [none] at last
      | json otherLast => rw [Option.some.inj (last.symm.trans otherLast)]
      | fields none => simp [none] at last
  | fields none present written =>
      cases asksOther with
      | absent _ bare => simp [bare, present] at written
      | json last => simp [none] at last
      | fields _ _ otherWritten =>
          have write : Function.Injective fun pair : String × String =>
              (bracketedKey pair.1, pair.2) :=
            bracketedKey_injective.prodMap Function.injective_id
          rw [List.map_injective_iff.2 write (written.symm.trans otherWritten)]

theorem Readable.of_append {others : List (String × String)}
    (readable : Readable (pairs ++ others)) : Readable pairs where
  fields pair member := readable.fields pair (List.mem_append_left _ member)
  unmixed := by
    rintro ⟨pair, member, filter⟩ other listed
    exact readable.unmixed ⟨pair, List.mem_append_left _ member, filter⟩ other
      (List.mem_append_left _ listed)

theorem readable_append_singleton {pair : String × String} :
    Readable (pairs ++ [pair]) ↔
      Readable pairs ∧
      (Opens pair.1 → (∃ field, Bracketable field ∧ pair.1 = bracketedKey field) ∧
        values filterParameter pairs = []) ∧
      (pair.1 = filterParameter → bracketed pairs = []) := by
  rw [values_eq_nil_iff, bracketed_eq_nil_iff]
  constructor
  · intro readable
    have inside {other : String × String} (member : other ∈ pairs) : other ∈ pairs ++ [pair] :=
      List.mem_append_left _ member
    have last : pair ∈ pairs ++ [pair] := by simp
    refine ⟨readable.of_append, ?_, ?_⟩
    · intro opens
      refine ⟨readable.fields pair last opens, fun other member filter => ?_⟩
      exact readable.unmixed ⟨other, inside member, filter⟩ pair last opens
    · intro filter other member
      exact readable.unmixed ⟨pair, last, filter⟩ other (inside member)
  · rintro ⟨readable, opening, filtering⟩
    constructor
    · intro other member opens
      rcases List.mem_append.1 member with member | member
      · exact readable.fields other member opens
      · rw [List.mem_singleton.1 member] at opens ⊢
        exact (opening opens).1
    · rintro ⟨filter, filterMember, filterSame⟩ other otherMember opens
      rcases List.mem_append.1 filterMember with filterMember | filterMember
      · rcases List.mem_append.1 otherMember with otherMember | otherMember
        · exact readable.unmixed ⟨filter, filterMember, filterSame⟩ other otherMember opens
        · rw [List.mem_singleton.1 otherMember] at opens
          exact (opening opens).2 filter filterMember filterSame
      · rw [List.mem_singleton.1 filterMember] at filterSame
        rcases List.mem_append.1 otherMember with otherMember | otherMember
        · exact filtering filterSame other otherMember opens
        · rw [List.mem_singleton.1 otherMember, filterSame] at opens
          exact not_opens_filterParameter opens

theorem AsksFor.append_field (asked : List (String × String))
    (none : values filterParameter pairs = [])
    (written : bracketed pairs = asked.map fun pair => (bracketedKey pair.1, pair.2))
    (field value : String) :
    AsksFor (pairs ++ [(bracketedKey field, value)]) (.fields (asked ++ [(field, value)])) := by
  have other : bracketedKey field ≠ filterParameter := by
    intro same
    exact not_opens_filterParameter (same ▸ opens_bracketedKey field)
  refine .fields ?_ (by simp) ?_
  · simp [values_append, values_cons, none, other]
  · simp [bracketed_append_singleton, written, opens_bracketedKey]

theorem AsksFor.append_other {filter : FilterText} (asks : AsksFor pairs filter) {key : String}
    (other : ¬ NamesFilter key) (value : String) : AsksFor (pairs ++ [(key, value)]) filter := by
  simp only [NamesFilter, not_or] at other
  have sameValues : values filterParameter (pairs ++ [(key, value)]) =
      values filterParameter pairs := by
    simp [values_append, values_cons, other.1]
  have sameBracketed : bracketed (pairs ++ [(key, value)]) = bracketed pairs := by
    simp [bracketed_append_singleton, other.2]
  cases asks with
  | absent none bare => exact .absent (sameValues.trans none) (sameBracketed.trans bare)
  | json last => exact .json (sameValues ▸ last)
  | fields none present written =>
      exact .fields (sameValues.trans none) present (sameBracketed.trans written)

/-- The filter in the state is the one that the pairs so far ask for, and a further pair is taken
exactly if it leaves them readable. -/
theorem addFilter_cases {filter : FilterText} (readable : Readable pairs)
    (asks : AsksFor pairs filter) (pair : String × String) :
    (∃ next, addFilter filter pair = .ok next ∧ Readable (pairs ++ [pair]) ∧
      AsksFor (pairs ++ [pair]) next) ∨
    ∃ error, addFilter filter pair = .error error ∧ ¬ Readable (pairs ++ [pair]) := by
  obtain ⟨key, value⟩ := pair
  rw [readable_append_singleton]
  by_cases names : NamesFilter key
  case neg =>
    exact .inl ⟨filter, addFilter_other names value filter,
      ⟨readable, fun opens => absurd (.inr opens) names, fun same => absurd (.inl same) names⟩,
      asks.append_other names value⟩
  cases form key with
  | filter =>
      have closed (opens : Opens filterParameter) : False := not_opens_filterParameter opens
      have last : (values filterParameter (pairs ++ [(filterParameter, value)])).getLast? =
          some value := by
        simp [values_append, values_cons]
      rw [addFilter_filter]
      cases asks with
      | absent none bare =>
          exact .inl ⟨_, rfl, ⟨readable, fun opens => (closed opens).elim, fun _ => bare⟩,
            .json last⟩
      | json earlier =>
          have bare : bracketed pairs = [] := by
            obtain ⟨pair, member, -⟩ := List.mem_map.1 (List.mem_of_getLast? earlier)
            obtain ⟨member, filter⟩ := List.mem_filter.1 member
            exact bracketed_eq_nil_iff.2 (readable.unmixed ⟨pair, member, by simpa using filter⟩)
          exact .inl ⟨_, rfl, ⟨readable, fun opens => (closed opens).elim, fun _ => bare⟩,
            .json last⟩
      | fields none present written =>
          refine .inr ⟨_, rfl, fun extended => ?_⟩
          simp [extended.2.2 rfl, present] at written
  | @field field bracketable =>
      have opens := opens_bracketedKey field
      have other : bracketedKey field ≠ filterParameter := by
        intro same
        exact not_opens_filterParameter (same ▸ opens)
      rw [addFilter_field bracketable]
      cases asks with
      | absent none bare =>
          exact .inl ⟨_, rfl, ⟨readable, fun _ => ⟨⟨field, bracketable, rfl⟩, none⟩,
            fun same => absurd same other⟩, .append_field [] none bare field value⟩
      | json last =>
          refine .inr ⟨_, rfl, fun extended => ?_⟩
          simp [(extended.2.1 opens).2] at last
      | fields none _ written =>
          exact .inl ⟨_, rfl, ⟨readable, fun _ => ⟨⟨field, bracketable, rfl⟩, none⟩,
            fun same => absurd same other⟩, .append_field _ none written field value⟩
  | malformed opens malformed =>
      refine .inr ⟨_, addFilter_malformed opens malformed value filter, fun extended => ?_⟩
      obtain ⟨⟨field, bracketable, same⟩, -⟩ := extended.2.1 opens
      exact malformed field bracketable same
  | sort => exact absurd names not_namesFilter_sortParameter
  | unrelated unnamed _ => exact absurd names unnamed

/-- Reading on from pairs that have been read. -/
theorem foldlM_addFilter_cases {filter : FilterText} (readable : Readable pairs)
    (asks : AsksFor pairs filter) (rest : List (String × String)) :
    (∃ final, rest.foldlM addFilter filter = .ok final ∧ Readable (pairs ++ rest) ∧
      AsksFor (pairs ++ rest) final) ∨
    ∃ error, rest.foldlM addFilter filter = .error error ∧ ¬ Readable (pairs ++ rest) := by
  induction rest generalizing pairs filter with
  | nil =>
      rw [List.append_nil]
      exact .inl ⟨filter, rfl, readable, asks⟩
  | cons pair rest ih =>
      rw [List.foldlM_cons, List.append_cons]
      rcases addFilter_cases readable asks pair with
        ⟨next, added, extended, asksNext⟩ | ⟨error, refused, unreadable⟩
      · rw [added]
        exact ih extended asksNext
      · rw [refused]
        exact .inr ⟨error, rfl, fun readable => unreadable readable.of_append⟩

theorem ofPairs_cases (pairs : List (String × String)) :
    (∃ filter, ofPairs pairs = .ok ⟨filter, (values sortParameter pairs).getLast?⟩ ∧
      Readable pairs ∧ AsksFor pairs filter) ∨
    ∃ error, ofPairs pairs = .error error ∧ ¬ Readable pairs := by
  have readable : Readable [] := ⟨by simp, by simp⟩
  rw [ofPairs_eq]
  rcases foldlM_addFilter_cases readable (.absent rfl rfl) pairs with
    ⟨filter, read, grammar⟩ | ⟨error, refused, unreadable⟩
  · rw [read]
    exact .inl ⟨filter, rfl, grammar⟩
  · rw [refused]
    exact .inr ⟨error, rfl, unreadable⟩

theorem exists_ofPairs_iff : (∃ request, ofPairs pairs = .ok request) ↔ Readable pairs := by
  rcases ofPairs_cases pairs with ⟨filter, read, readable, -⟩ | ⟨error, refused, unreadable⟩
  · exact ⟨fun _ => readable, fun _ => ⟨_, read⟩⟩
  · simp [refused, unreadable]

theorem ofPairs_eq_ok {request : Request} :
    ofPairs pairs = .ok request ↔
      Readable pairs ∧ AsksFor pairs request.filter ∧
        request.sort = (values sortParameter pairs).getLast? := by
  rcases ofPairs_cases pairs with ⟨filter, read, readable, asks⟩ | ⟨error, refused, unreadable⟩
  · rw [read]
    constructor
    · intro same
      cases same
      exact ⟨readable, asks, rfl⟩
    · rintro ⟨-, asksOther, last⟩
      rw [asks.unique asksOther, ← last]
  · simp [refused, unreadable]

/-- Unless a bracketed key is to blame, the fault is that the two encodings are mixed. -/
theorem eq_mixedEncodings_of_ofPairs
    (fields : ∀ pair ∈ pairs, Opens pair.1 → ∃ field, Bracketable field ∧ pair.1 = bracketedKey field)
    {error : RequestError} (failed : ofPairs pairs = .error error) :
    error = malformedFilter .mixedEncodings := by
  obtain ⟨request, ⟨key, value⟩, member, step⟩ := Traversal.exists_of_foldlM_error failed
  obtain ⟨filter, sort⟩ := request
  cases form key with
  | filter =>
      rw [addPair_filter] at step
      cases filter with
      | absent | json _ => cases step
      | fields _ => exact (Except.error.inj step).symm
  | field bracketable =>
      rw [addPair_bracketed bracketable] at step
      cases filter with
      | absent | fields _ => cases step
      | json _ => exact (Except.error.inj step).symm
  | malformed opens malformed =>
      obtain ⟨field, bracketable, same⟩ := fields _ member opens
      exact absurd same (malformed field bracketable)
  | sort =>
      rw [addPair_sort] at step
      cases step
  | unrelated other notSort =>
      rw [addPair_unrelated other notSort] at step
      cases step

/-- Query pairs make a request exactly if they are readable, and fail only for a filter that cannot
be read. The request has the filter that they ask for and the last sort parameter. Pairs with other
keys, and where the sort parameters are among the filter parameters, make no difference, not even
to the error. -/
theorem ofPairs_grammar (pairs : List (String × String)) :
    ((∃ request, ofPairs pairs = .ok request) ↔ Readable pairs) ∧
    (∀ error, ofPairs pairs = .error error → ∃ reason, error = .malformed "filter" reason) ∧
    (∀ request, ofPairs pairs = .ok request ↔
      Readable pairs ∧ AsksFor pairs request.filter ∧
        request.sort = (values sortParameter pairs).getLast?) ∧
    ∀ others, (others.filter fun pair => NamesFilter pair.1) =
        (pairs.filter fun pair => NamesFilter pair.1) →
      values sortParameter others = values sortParameter pairs →
      ofPairs others = ofPairs pairs :=
  ⟨exists_ofPairs_iff, fun _ => exists_reason_of_ofPairs, fun _ => ofPairs_eq_ok,
    fun _ => ofPairs_congr⟩

/-- Both fields count, and of the orderings the later one. -/
theorem ofPairs_grammar_interleaved :
    ofPairs [("filter[login]", "x"), ("filter[login]", "y"), ("sort", "id"), ("sort", "-id")] =
        .ok ⟨.fields [("login", "x"), ("login", "y")], some "-id"⟩ ∧
      ofPairs [("sort", "id"), ("filter[login]", "x"), ("page", "2"), ("sort", "-id"),
          ("filter[login]", "y")] =
        ofPairs [("filter[login]", "x"), ("filter[login]", "y"), ("sort", "id"), ("sort", "-id")] :=
  ⟨by rfl, (ofPairs_grammar _).2.2.2 _ (by decide) (by decide)⟩

end Listing.Request
