import Listing.Proofs.Criteria
import Listing.Proofs.Json.Reading

set_option autoImplicit false

/-!
# The two encodings of a filter

Bracketed fields and a JSON object with the same fields and values are the same filter, errors
included, however the object is spelled and however often a field is repeated.
-/

namespace Listing.Criteria

theorem valueText?_of_isScalar {value : String} {json : Json} (scalar : Json.IsScalar value json) :
    valueText? json = some value := by
  cases scalar with
  | string => rfl
  | integer => rfl
  | @bool flag => cases flag <;> rfl

theorem mapM_readMember {pairs : List (String × String)} {members : List (String × Json)}
    (scalars : List.Forall₂ (fun pair member => pair.1 = member.1 ∧ Json.IsScalar pair.2 member.2)
      pairs members) :
    (Keyed.ofPairs members).mapM readMember = .ok (Keyed.ofPairs pairs) := by
  let image (json : Json) : String := (valueText? json).getD ""
  have texts : pairs = Keyed.mapValues image members ∧
      ∀ member ∈ members, valueText? member.2 = some (image member.2) := by
    induction scalars with
    | nil => exact ⟨rfl, by simp⟩
    | @cons pair member pairs members same _ ih =>
        obtain ⟨tail, others⟩ := ih
        have text := valueText?_of_isScalar same.2
        have first : valueText? member.2 = some (image member.2) := by
          simp only [image, text, Option.getD_some]
        refine ⟨?_, ?_⟩
        · rw [Keyed.mapValues, List.map_cons, ← Keyed.mapValues, ← tail]
          congr 1
          exact Prod.ext same.1 (Option.some.inj (text.symm.trans first))
        · intro other listed
          rcases List.mem_cons.1 listed with rfl | listed
          · exact first
          · exact others other listed
  rw [texts.1, Keyed.ofPairs_mapValues, Traversal.mapM_eq_ok, Keyed.mapValues,
    List.forall₂_map_right_iff, List.forall₂_same]
  intro member listed
  rw [readMember, texts.2 member (Keyed.mem_of_mem_ofPairs listed)]

theorem isEmpty_spelled {pairs : List (String × String)} {text : String}
    (spells : Json.SpellsObject pairs text.toList) : (FilterText.json text).isEmpty = false := by
  have brace : '\x7b' ∈ text.toList := by
    generalize text.toList = chars at spells
    cases spells <;> simp
  exact Text.isBlank_eq_false brace (by decide)

/-- What an object asks for: its fields in order of first mention, each with its last value. -/
theorem requested_spelled {pairs : List (String × String)} {text : String}
    (spells : Json.SpellsObject pairs text.toList) :
    requested (.json text) = .ok (Keyed.ofPairs pairs) := by
  obtain ⟨members, scalars, parsed⟩ := Json.parse_spelled spells
  rw [requested, isEmpty_spelled spells]
  simp only [Bool.false_eq_true, ↓reduceIte, rawPairs, readJson, parsed]
  exact mapM_readMember scalars

theorem addAll_ofPairs (accepts : String → Bool) (pairs : List (String × String)) :
    (Keyed.ofPairs pairs).foldlM (addRaw accepts) empty = pairs.foldlM (addRaw accepts) empty := by
  rw [addAll_eq, addAll_eq, Keyed.find?_keys_ofPairs, ofRaw_ofPairs]

theorem ofFilter_spelled (accepts : String → Bool) {pairs : List (String × String)} {text : String}
    (spells : Json.SpellsObject pairs text.toList) :
    ofFilter accepts (.json text) = ofFilter accepts (.fields pairs) := by
  rw [ofFilter_eq, ofFilter_eq, requested_spelled spells, requested_fields]
  exact addAll_ofPairs accepts pairs

/-- A list of fields with values is the same filter in both encodings: as the compact text of an
object of strings, and as any other text of an object with these members, in which integers of 64
bits and truth values may stand bare. -/
theorem ofFilter_json_eq_fields (accepts : String → Bool) (pairs : List (String × String)) :
    ofFilter accepts (.json (Json.compact (.object (Json.strings pairs)))) =
        ofFilter accepts (.fields pairs) ∧
      ∀ text, Json.SpellsObject pairs text.toList →
        ofFilter accepts (.json text) = ofFilter accepts (.fields pairs) :=
  ⟨ofFilter_spelled accepts (Json.spellsObject_compact pairs),
    fun _ spells => ofFilter_spelled accepts spells⟩

/-- A repeated field, once with a bare number and once with an escaped letter in its name. -/
theorem ofFilter_json_eq_fields_repeated :
    ofFilter (fun field => field == "id") (.json "\x7b \"id\": 74,\"\\u0069d\":\"1,2\" \x7d") =
      ofFilter (fun field => field == "id") (.fields [("id", "74"), ("id", "1,2")]) := by
  have blank : Json.Blank [' '] := by
    intro char member
    exact List.mem_singleton.1 member ▸ List.mem_cons_self
  have number : Json.SpellsScalar "74" "74".toList :=
    @Json.SpellsScalar.integer 74 (by decide) (by decide)
  have key : Json.SpellsText "id".toList "\\u0069d".toList :=
    show Json.SpellsText ['i', 'd'] _ from
      .cons (@Json.SpellsChar.numbered 'i' ['0', '0', '6', '9'] ⟨rfl, by decide⟩)
        (Json.spellsText_escape ['d'])
  have first : Json.SpellsMember ("id", "74") " \"id\": 74".toList :=
    .mk blank (Json.spellsText_escape "id".toList) Json.blank_nil blank number Json.blank_nil
  have second : Json.SpellsMember ("id", "1,2") "\"\\u0069d\":\"1,2\" ".toList :=
    .mk Json.blank_nil key Json.blank_nil Json.blank_nil
      (.string (Json.spellsText_escape "1,2".toList)) blank
  have object : Json.SpellsObject [("id", "74"), ("id", "1,2")]
      "\x7b \"id\": 74,\"\\u0069d\":\"1,2\" \x7d".toList :=
    .members Json.blank_nil (.more first (.last second)) Json.blank_nil
  exact (ofFilter_json_eq_fields _ _).2 _ object

end Listing.Criteria
