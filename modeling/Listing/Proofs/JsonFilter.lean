import Listing.Proofs.Criteria
import Listing.Proofs.Json.Soundness

set_option autoImplicit false

/-!
# Filters as JSON objects

Which texts are read as a filter, and what they ask for. A value that stands for no list of wanted
values spoils the whole text, wherever it is. Only after that the fields are looked at, each key at
its first place and with its last value.
-/

namespace Listing

namespace Json

/-- The value is a scalar, and this is how it is written in a bracketed parameter. -/
inductive HasText : Json → String → Prop where
  | string {value : String} : HasText (.string value) value
  | number {value : Number} : HasText (.number value) value.text
  | bool {value : Bool} : HasText (.bool value) (toString value)

inductive Textless : Json → Prop where
  | null : Textless .null
  | array {items : List Json} : Textless (.array items)
  | object {members : List (String × Json)} : Textless (.object members)

end Json

namespace Criteria

open Json (HasText Textless Writes)

/-- The values that a member of a filter asks for: those that a scalar lists, or those that the
items of an array list one after the other. -/
inductive Wants : Json → List String → Prop where
  | scalar {value : Json} {text : String} : HasText value text → Wants value (splitValues text)
  | array {items : List Json} {texts : List String} :
      items ≠ [] → List.Forall₂ HasText items texts →
      Wants (.array items) (texts.flatMap splitValues)

/-- The values that a filter cannot ask for. -/
inductive Unsupported : Json → Prop where
  | null : Unsupported .null
  | object {members : List (String × Json)} : Unsupported (.object members)
  | emptyArray : Unsupported (.array [])
  | array {items : List Json} {item : Json} :
      item ∈ items → Textless item → Unsupported (.array items)

/-- The text is no JSON filter: it is no JSON document, or no object, or the value that counts for
some key is not supported. -/
inductive Unreadable (text : String) : Prop where
  | invalid {error : Json.Error} : Json.parse text = .error error → Unreadable text
  | notObject {json : Json} :
      Json.parse text = .ok json → (∀ members, json ≠ .object members) → Unreadable text
  | unsupported {before after : List (String × Json)} {key : String} {value : Json} :
      Writes text (before ++ (key, value) :: after) → key ∉ Keyed.keys after → Unsupported value →
      Unreadable text

/-! ## Values -/

theorem scalarText?_eq_some {value : Json} {text : String} :
    scalarText? value = some text ↔ HasText value text := by
  constructor
  · intro found
    cases value with
    | null => cases found
    | bool flag => cases flag <;> cases found <;> exact .bool
    | number value => cases found; exact .number
    | string value => cases found; exact .string
    | array items => cases found
    | object members => cases found
  · intro scalar
    cases scalar with
    | string => rfl
    | number => rfl
    | @bool flag => cases flag <;> rfl

theorem scalarText?_eq_none {value : Json} : scalarText? value = none ↔ Textless value := by
  constructor
  · intro missing
    cases value with
    | null => exact .null
    | bool flag => cases flag <;> cases missing
    | number value => cases missing
    | string value => cases missing
    | array items => exact .array
    | object members => exact .object
  · intro textless
    cases textless <;> rfl

theorem valueText?_of_hasText {value : Json} {text : String} (scalar : HasText value text) :
    valueText? value = some text := by
  cases scalar with
  | string => rfl
  | number => rfl
  | @bool flag => cases flag <;> rfl

theorem valueText?_array {items : List Json} (present : items ≠ []) :
    valueText? (.array items) = (items.mapM scalarText?).map (Text.join delimiter) := by
  cases items with
  | nil => exact absurd rfl present
  | cons item rest => rfl

theorem exists_hasText_or_textless (value : Json) :
    (∃ text, HasText value text) ∨ Textless value := by
  cases found : scalarText? value with
  | some text => exact .inl ⟨text, scalarText?_eq_some.1 found⟩
  | none => exact .inr (scalarText?_eq_none.1 found)

theorem valueText?_eq_none {value : Json} : valueText? value = none ↔ Unsupported value := by
  rcases exists_hasText_or_textless value with ⟨text, scalar⟩ | textless
  · have found := valueText?_of_hasText scalar
    refine iff_of_false (by simp [found]) ?_
    intro bad
    cases scalar <;> cases bad
  · cases textless with
    | null => exact iff_of_true rfl .null
    | object => exact iff_of_true rfl .object
    | @array items =>
        by_cases empty : items = []
        · subst empty
          exact iff_of_true rfl .emptyArray
        · rw [valueText?_array empty, Option.map_eq_none_iff, Traversal.mapM_eq_none]
          simp only [scalarText?_eq_none]
          constructor
          · intro spoilt
            obtain ⟨item, member, textless⟩ := spoilt
            exact .array member textless
          · intro bad
            cases bad with
            | emptyArray => exact absurd rfl empty
            | @array _ item member textless => exact ⟨item, member, textless⟩

/-- The text of an array lists what the texts of its items list. The items may hold commas of their
own, because cutting the joined text cuts each of them. -/
theorem exists_texts_iff {items : List Json} (present : items ≠ []) {values : List String} :
    (∃ text, valueText? (.array items) = some text ∧ values = splitValues text) ↔
      ∃ texts, List.Forall₂ HasText items texts ∧ values = texts.flatMap splitValues := by
  have cut {texts : List String} (scalars : List.Forall₂ HasText items texts) :
      splitValues (Text.join delimiter texts) = texts.flatMap splitValues := by
    refine Text.split_join_eq_flatMap ?_
    rintro rfl
    cases scalars
    exact present rfl
  simp only [valueText?_array present, Option.map_eq_some_iff, Traversal.mapM_eq_some,
    scalarText?_eq_some]
  constructor
  · intro joined
    obtain ⟨_, ⟨texts, scalars, rfl⟩, rfl⟩ := joined
    exact ⟨texts, scalars, cut scalars⟩
  · intro listed
    obtain ⟨texts, scalars, rfl⟩ := listed
    exact ⟨_, ⟨texts, scalars, rfl⟩, (cut scalars).symm⟩

theorem wants_iff {value : Json} {values : List String} :
    Wants value values ↔ ∃ text, valueText? value = some text ∧ values = splitValues text := by
  constructor
  · intro wants
    cases wants with
    | scalar scalar => exact ⟨_, valueText?_of_hasText scalar, rfl⟩
    | array present scalars => exact (exists_texts_iff present).2 ⟨_, scalars, rfl⟩
  · intro listed
    rcases exists_hasText_or_textless value with ⟨text, scalar⟩ | textless
    · obtain ⟨_, found, rfl⟩ := listed
      rw [valueText?_of_hasText scalar] at found
      cases found
      exact .scalar scalar
    · cases textless with
      | null => simp [valueText?, scalarText?] at listed
      | object => simp [valueText?, scalarText?] at listed
      | @array items =>
          by_cases empty : items = []
          · subst empty
            simp [valueText?] at listed
          · obtain ⟨texts, scalars, rfl⟩ := (exists_texts_iff empty).1 listed
            exact .array empty scalars

/-! ## Members -/

theorem readMember_eq_ok {member : String × Json} {pair : String × String} :
    readMember member = .ok pair ↔ pair.1 = member.1 ∧ valueText? member.2 = some pair.2 := by
  obtain ⟨field, raw⟩ := pair
  unfold readMember
  cases valueText? member.2 with
  | none => simp
  | some text => simp [eq_comm]

theorem exists_readMember_iff {member : String × Json} :
    (∃ pair, readMember member = .ok pair) ↔ ¬ Unsupported member.2 := by
  rw [← valueText?_eq_none, readMember]
  cases valueText? member.2 <;> simp

/-! ## Texts -/

variable {text : String} {written : List (String × Json)}

theorem requested_json (visible : Text.isBlank text = false) :
    requested (.json text) = readJson text := by
  rw [requested, FilterText.isEmpty, visible]
  rfl

theorem readJson_of_writes (writes : Writes text written) :
    readJson text = (Keyed.ofPairs written).mapM readMember := by
  rw [readJson, Json.parse_eq_object_iff.2 ⟨written, writes, rfl⟩]

theorem invalid_or_notObject_or_writes (text : String) :
    (∃ error, Json.parse text = .error error) ∨
      (∃ json, Json.parse text = .ok json ∧ ∀ members, json ≠ .object members) ∨
      ∃ written, Writes text written := by
  cases parsed : Json.parse text with
  | error error => exact .inl ⟨error, rfl⟩
  | ok json =>
      by_cases object : ∃ members, json = .object members
      · obtain ⟨members, rfl⟩ := object
        obtain ⟨written, writes, -⟩ := Json.parse_eq_object_iff.1 parsed
        exact .inr (.inr ⟨written, writes⟩)
      · exact .inr (.inl ⟨json, rfl, not_exists.1 object⟩)

theorem unreadable_iff_of_writes (writes : Writes text written) :
    Unreadable text ↔ ∃ member ∈ Keyed.ofPairs written, Unsupported member.2 := by
  have parsed := Json.parse_eq_object_iff.2 ⟨written, writes, rfl⟩
  constructor
  · intro unreadable
    cases unreadable with
    | invalid failed =>
        rw [parsed] at failed
        cases failed
    | notObject other notObject =>
        rw [parsed] at other
        cases other
        exact absurd rfl (notObject _)
    | unsupported others last bad =>
        have same := Json.parse_eq_object_iff.2 ⟨_, others, rfl⟩
        rw [parsed] at same
        simp only [Except.ok.injEq, Json.object.injEq] at same
        exact ⟨_, same ▸ Keyed.mem_ofPairs_iff.2 ⟨_, _, rfl, last⟩, bad⟩
  · intro spoilt
    obtain ⟨member, listed, bad⟩ := spoilt
    obtain ⟨before, after, rfl, last⟩ := Keyed.mem_ofPairs_iff.1 listed
    exact .unsupported writes last bad

/-- A text is read exactly if it is an object in which every value that counts is supported. -/
theorem exists_readJson_iff : (∃ pairs, readJson text = .ok pairs) ↔ ¬ Unreadable text := by
  rcases invalid_or_notObject_or_writes text with
    ⟨error, failed⟩ | ⟨json, parsed, notObject⟩ | ⟨written, writes⟩
  · refine iff_of_false ?_ (not_not_intro (.invalid failed))
    simp [readJson, failed]
  · refine iff_of_false ?_ (not_not_intro (.notObject parsed notObject))
    intro read
    obtain ⟨pairs, read⟩ := read
    rw [readJson, parsed] at read
    cases json with
    | object members => exact notObject members rfl
    | _ => cases read
  · rw [readJson_of_writes writes, Traversal.exists_mapM, unreadable_iff_of_writes writes]
    simp only [exists_readMember_iff, not_exists, not_and]

/-- Reading fails for the text before any field is looked at, whatever fields are accepted. -/
theorem malformed_iff_unreadable (accepts : String → Bool) (visible : Text.isBlank text = false) :
    (∃ reason, ofFilter accepts (.json text) = .error (Request.malformedFilter reason)) ↔
      Unreadable text := by
  rw [← not_iff_not, ← exists_readJson_iff, ← requested_json visible]
  constructor
  · intro notMalformed
    cases asked : requested (.json text) with
    | ok pairs => exact ⟨pairs, rfl⟩
    | error error =>
        obtain ⟨reason, rfl⟩ := exists_reason_of_requested asked
        exact absurd ⟨reason, ofFilter_eq_error.2 (.inl asked)⟩ notMalformed
  · intro read malformed
    obtain ⟨pairs, asked⟩ := read
    obtain ⟨reason, failed⟩ := malformed
    rcases ofFilter_eq_error.1 failed with unread | ⟨_, _, _, _, -, -, -, absurdity⟩
    · rw [asked] at unread
      cases unread
    · cases absurdity

theorem exists_requested_of_writes (visible : Text.isBlank text = false)
    (writes : Writes text written) (readable : ¬ Unreadable text) :
    ∃ pairs, requested (.json text) = .ok pairs ∧
      List.Forall₂ (fun member pair => pair.1 = member.1 ∧ valueText? member.2 = some pair.2)
        (Keyed.ofPairs written) pairs := by
  obtain ⟨pairs, read⟩ := exists_readJson_iff.2 readable
  refine ⟨pairs, (requested_json visible).trans read, ?_⟩
  rw [readJson_of_writes writes] at read
  exact (Traversal.mapM_eq_ok.1 read).imp fun _ _ => readMember_eq_ok.1

variable {pairs : List (String × String)}

theorem keys_of_members {members : List (String × Json)}
    (texts : List.Forall₂ (fun member pair => pair.1 = member.1 ∧ valueText? member.2 = some pair.2)
      members pairs) : Keyed.keys pairs = Keyed.keys members := by
  induction texts with
  | nil => rfl
  | cons same _ ih => rw [Keyed.keys_cons, Keyed.keys_cons, same.1, ih]

theorem get?_ofRaw_of_members
    (texts : List.Forall₂ (fun member pair => pair.1 = member.1 ∧ valueText? member.2 = some pair.2)
      (Keyed.ofPairs written) pairs) {before after : List (String × Json)} {key : String}
    {value : Json} (split : written = before ++ (key, value) :: after)
    (last : key ∉ Keyed.keys after) (values : List String) :
    (ofRaw pairs).get? key = some values ↔ Wants value values := by
  have distinct : (Keyed.keys pairs).Nodup :=
    keys_of_members texts ▸ Keyed.nodup_keys_ofPairs written
  have member : (key, value) ∈ Keyed.ofPairs written :=
    Keyed.mem_ofPairs_iff.2 ⟨before, after, split, last⟩
  obtain ⟨⟨field, text⟩, listed, rfl, found⟩ := Traversal.exists_of_mem_results texts.flip member
  have held : (ofRaw pairs).get? field = some (splitValues text) := by
    rw [get?, entries_ofRaw_of_nodup distinct]
    have entry := List.mem_map_of_mem (f := fun pair => (pair.1, splitValues pair.2)) listed
    exact Keyed.get?_of_mem ((Keyed.keys_mapValues _ _).symm ▸ distinct) entry
  rw [held, wants_iff, found]
  simp [eq_comm]

/-- What becomes of a JSON filter that is not blank. It is malformed exactly if its text is
unreadable, which no accepted field makes up for. Otherwise it is an object, and the first key that
is not accepted is to blame. If all keys are accepted, each makes one entry at its first place, with
the values that its last value asks for. -/
theorem ofFilter_json_outcome (accepts : String → Bool) (visible : Text.isBlank text = false) :
    ((∃ reason, ofFilter accepts (.json text) = .error (Request.malformedFilter reason)) ↔
      Unreadable text) ∧
    (Unreadable text ∨ ∃ written, Writes text written) ∧
    ∀ written, Writes text written → ¬ Unreadable text →
      (∀ before key value after, written = before ++ (key, value) :: after →
        (∀ member ∈ before, accepts member.1 = true) → accepts key = false →
        ofFilter accepts (.json text) = .error (.unknownFilterField key)) ∧
      ((∀ member ∈ written, accepts member.1 = true) →
        ∃ criteria, ofFilter accepts (.json text) = .ok criteria ∧
          criteria.fields = (Keyed.keys written).eraseDups ∧
          ∀ before key value after, written = before ++ (key, value) :: after →
            key ∉ Keyed.keys after →
            ∀ values, criteria.get? key = some values ↔ Wants value values) := by
  refine ⟨malformed_iff_unreadable accepts visible, ?_, ?_⟩
  · rcases invalid_or_notObject_or_writes text with
      ⟨error, failed⟩ | ⟨json, parsed, notObject⟩ | ⟨written, writes⟩
    · exact .inl (.invalid failed)
    · exact .inl (.notObject parsed notObject)
    · exact .inr ⟨written, writes⟩
  · intro written writes readable
    obtain ⟨pairs, asked, texts⟩ := exists_requested_of_writes visible writes readable
    have keys := keys_of_members texts
    have outcome : ofFilter accepts (.json text) = pairs.foldlM (addRaw accepts) empty := by
      rw [ofFilter_eq, asked]
      rfl
    have foundFirst : (Keyed.keys pairs).find? (fun field => !accepts field) =
        (Keyed.keys written).find? fun field => !accepts field := by
      rw [keys, Keyed.find?_keys_ofPairs]
    refine ⟨?_, ?_⟩
    · intro before key value after split accepted unaccepted
      have first : (Keyed.keys written).find? (fun field => !accepts field) = some key := by
        rw [List.find?_eq_some_iff_append]
        refine ⟨by simp [unaccepted], Keyed.keys before, Keyed.keys after, ?_, ?_⟩
        · rw [split, Keyed.keys_append, Keyed.keys_cons]
        · simpa [Keyed.keys] using accepted
      rw [outcome, addAll_eq, foundFirst, first]
    · intro accepted
      have nothing : (Keyed.keys written).find? (fun field => !accepts field) = none := by
        simpa [Keyed.keys] using accepted
      refine ⟨ofRaw pairs, by rw [outcome, addAll_eq, foundFirst, nothing], ?_, ?_⟩
      · have distinct : (Keyed.keys pairs).Nodup := keys ▸ Keyed.nodup_keys_ofPairs written
        rw [fields, entries_ofRaw_of_nodup distinct, Keyed.keys_mapValues, keys,
          Keyed.keys_ofPairs]
      · intro before key value after split last values
        exact get?_ofRaw_of_members texts split last values

/-- A filter that names the identifier twice. -/
def repeatedText : String :=
  "\x7b\"id\":null,\"login\":[\"a,b\",\"\",true],\"id\":7\x7d"

def repeatedMembers : List (String × Json) :=
  [("id", .null), ("login", .array [.string "a,b", .string "", .bool true]),
    ("id", .number (.integer 7))]

unseal Json.readString in
theorem writes_repeated : Writes repeatedText repeatedMembers :=
  ⟨[], repeatedText.toList.tail, [], Json.blank_nil, Json.blank_nil, rfl, rfl⟩

/-- The first value of the repeated key is no value to ask for, but it does not count. -/
theorem ofFilter_json_outcome_repeated :
    ∃ text written, Text.isBlank text = false ∧ Writes text written ∧ ¬ Unreadable text ∧
      ofFilter (· == "login") (.json text) = .error (.unknownFilterField "id") ∧
      ∃ criteria, ofFilter (fun _ => true) (.json text) = .ok criteria ∧
        criteria.fields = ["id", "login"] ∧ criteria.get? "id" = some ["7"] ∧
        criteria.get? "login" = some ["a", "b", "", "true"] := by
  let login : Json := .array [.string "a,b", .string "", .bool true]
  have visible : Text.isBlank repeatedText = false := by decide
  have wantsLogin : Wants login ["a", "b", "", "true"] :=
    .array (List.cons_ne_nil _ _) (.cons .string (.cons .string (.cons .bool .nil)))
  have readable : ¬ Unreadable repeatedText := by
    rw [unreadable_iff_of_writes writes_repeated]
    intro spoilt
    obtain ⟨member, listed, bad⟩ := spoilt
    rcases List.mem_cons.1 listed with rfl | listed
    · cases bad
    · rw [List.mem_singleton.1 listed, ← valueText?_eq_none] at bad
      cases bad
  have refused := (ofFilter_json_outcome (· == "login") visible).2.2 _ writes_repeated readable
  have accepted := (ofFilter_json_outcome (fun _ => true) visible).2.2 _ writes_repeated readable
  obtain ⟨criteria, read, fields, values⟩ := accepted.2 fun _ _ => rfl
  refine ⟨repeatedText, repeatedMembers, visible, writes_repeated, readable,
    refused.1 [] "id" .null _ rfl (fun _ listed => absurd listed List.not_mem_nil) rfl,
    criteria, read, fields, ?_, ?_⟩
  · exact (values [("id", .null), ("login", login)] "id" _ [] rfl List.not_mem_nil ["7"]).2
      (.scalar .number)
  · exact (values [("id", .null)] "login" login _ rfl (by decide) _).2 wantsLogin

end Criteria

end Listing
