import Listing.Proofs.Json.Soundness
import Listing.Proofs.SortHistory
import Listing.Proofs.Text.Padding

set_option autoImplicit false

/-!
# What a sort parameter asks for

The grammar of sort parameters, and that a parameter is read by it: a list of a field and possibly
a direction, or fields with signs between commas. Blanks and empty segments say nothing.
-/

namespace Listing

open Sql (Direction OrderTerm)

namespace SortSpec

/-! ## Grammar -/

/-- A field behind at most one sign. What follows the sign is the name, even if it has a sign of its
own. -/
inductive TokenAsks : List Char → String × Direction → Prop where
  | minus {name : List Char} : TokenAsks ('-' :: name) (String.ofList name, .desc)
  | plus {name : List Char} : TokenAsks ('+' :: name) (String.ofList name, .asc)
  | bare {first : Char} {rest : List Char} : first ≠ '-' → first ≠ '+' →
      TokenAsks (first :: rest) (String.ofList (first :: rest), .asc)

/-- Segments with a token each, or with nothing but blanks. -/
inductive SegmentsAsk : List (List Char) → List (String × Direction) → Prop where
  | nil : SegmentsAsk [] []
  | blank {segment : List Char} {segments : List (List Char)} {fields : List (String × Direction)} :
      Text.Blanks segment → SegmentsAsk segments fields → SegmentsAsk (segment :: segments) fields
  | token {token segment : List Char} {segments : List (List Char)} {field : String × Direction}
      {fields : List (String × Direction)} :
      Text.Trimmed token → Text.Padded token segment → TokenAsks token field →
      SegmentsAsk segments fields → SegmentsAsk (segment :: segments) (field :: fields)

/-- A list of one string, or of two of which the second is a word for a direction. -/
inductive ListAsks (text : List Char) : String × Direction → Prop where
  | alone {name : String} : Json.SpellsList [name] text → ListAsks text (name, .asc)
  | directed {name word : String} {direction : Direction} : Json.SpellsList [name, word] text →
      direction? word = some direction → ListAsks text (name, direction)

/-- What a parameter asks for that has no blanks around it. The first character says which form it
has. -/
inductive Asks (text : List Char) : List (String × Direction) → Prop where
  | list {field : String × Direction} : text.head? = some '[' → ListAsks text field →
      Asks text [field]
  | tokens {fields : List (String × Direction)} : text.head? ≠ some '[' →
      SegmentsAsk (Text.splitChars ',' text) fields → Asks text fields

/-- Each field that is asked for has its column at the place where it is first named, in the
direction in which it is last named. -/
structure Collects (sortable : FieldSet) (fields : List (String × Direction)) (spec : SortSpec) :
    Prop where
  names : Keyed.keys spec.fields = (Keyed.keys fields).eraseDups
  last : ∀ before name direction after, fields = before ++ (name, direction) :: after →
    name ∉ Keyed.keys after → ∃ column, sortable.column? name = some column ∧
      Keyed.get? name spec.fields = some ⟨column, direction⟩

variable {sortable : FieldSet} {fields : List (String × Direction)} {segments : List (List Char)}

/-! ## Tokens between commas -/

theorem TokenAsks.readToken_eq {token : List Char} {field : String × Direction}
    (asks : TokenAsks token field) : readToken token = field := by
  cases asks with
  | minus => rfl
  | plus => rfl
  | bare noMinus noPlus =>
      unfold readToken
      split
      · next same => exact absurd (List.cons.inj same).1 noMinus
      · next same => exact absurd (List.cons.inj same).1 noPlus
      · rfl

theorem tokenAsks_readToken {token : List Char} (present : token ≠ []) :
    TokenAsks token (readToken token) := by
  obtain ⟨first, rest, rfl⟩ := List.exists_cons_of_ne_nil present
  unfold readToken
  split
  · next same => exact same ▸ .minus
  · next same => exact same ▸ .plus
  · next noMinus noPlus =>
      exact .bare (fun same => noMinus rest (congrArg (· :: rest) same))
        fun same => noPlus rest (congrArg (· :: rest) same)

/-- The fields of segments, however they came about. -/
def readSegments (segments : List (List Char)) : List (String × Direction) :=
  ((segments.map Text.trimChars).filter fun token => !token.isEmpty).map readToken

theorem readTokens_eq (text : List Char) :
    readTokens text = readSegments (Text.splitChars ',' text) := rfl

theorem readSegments_cons_of_blanks {segment : List Char} (blank : Text.Blanks segment) :
    readSegments (segment :: segments) = readSegments segments := by
  rw [readSegments, List.map_cons, Text.trimChars_eq_nil_iff_blanks.2 blank,
    List.filter_cons_of_neg (by decide), readSegments]

theorem readSegments_cons_of_not_blanks {segment : List Char} (visible : ¬ Text.Blanks segment) :
    readSegments (segment :: segments) =
      readToken (Text.trimChars segment) :: readSegments segments := by
  have present : Text.trimChars segment ≠ [] := mt Text.trimChars_eq_nil_iff_blanks.1 visible
  rw [readSegments, List.map_cons, List.filter_cons_of_pos (by simpa using present), List.map_cons,
    readSegments]

theorem readSegments_eq_nil_iff {segments : List (List Char)} :
    readSegments segments = [] ↔ ∀ segment ∈ segments, Text.Blanks segment := by
  rw [readSegments, List.map_eq_nil_iff, List.filter_eq_nil_iff, List.forall_mem_map]
  refine forall₂_congr fun segment _ => ?_
  rw [← Text.trimChars_eq_nil_iff_blanks, Bool.not_eq_true, Bool.not_eq_false', List.isEmpty_iff]

theorem segmentsAsk_readSegments (segments : List (List Char)) :
    SegmentsAsk segments (readSegments segments) := by
  induction segments with
  | nil => exact .nil
  | cons segment rest ih =>
      by_cases blank : Text.Blanks segment
      · rw [readSegments_cons_of_blanks blank]
        exact .blank blank ih
      · rw [readSegments_cons_of_not_blanks blank]
        exact .token (Text.trimmed_trimChars segment) (Text.padded_trimChars segment)
          (tokenAsks_readToken (mt Text.trimChars_eq_nil_iff_blanks.1 blank)) ih

theorem segmentsAsk_readTokens (text : List Char) :
    SegmentsAsk (Text.splitChars ',' text) (readTokens text) :=
  segmentsAsk_readSegments _

theorem SegmentsAsk.readSegments_eq (asks : SegmentsAsk segments fields) :
    readSegments segments = fields := by
  induction asks with
  | nil => rfl
  | blank blank _ ih => rw [readSegments_cons_of_blanks blank, ih]
  | @token token segment _ field _ trimmed pad asks _ ih =>
      have read : Text.trimChars segment = token :=
        (Text.trimChars_padded pad).trans trimmed.trimChars_eq
      have visible : ¬ Text.Blanks segment := by
        rw [← Text.trimChars_eq_nil_iff_blanks, read]
        rintro rfl
        cases asks
      rw [readSegments_cons_of_not_blanks visible, read, asks.readToken_eq, ih]

/-! ## Both forms -/

theorem readFields_of_bracket {raw : String}
    (bracket : (Text.trimChars raw.toList).head? = some '[') :
    readFields raw = readList (String.ofList (Text.trimChars raw.toList)) := by
  unfold readFields
  split
  · next rest same => rw [same]
  · next noBracket =>
      obtain ⟨rest, same⟩ := List.head?_eq_some_iff.1 bracket
      exact absurd same (noBracket rest)

theorem readFields_of_no_bracket {raw : String}
    (noBracket : (Text.trimChars raw.toList).head? ≠ some '[') :
    readFields raw = .ok (readTokens (Text.trimChars raw.toList)) := by
  unfold readFields
  split
  · next same => exact absurd (congrArg List.head? same) noBracket
  · rfl

theorem readList_eq_ok_iff {text : List Char} :
    readList (String.ofList text) = .ok fields ↔
      ∃ field, ListAsks text field ∧ fields = [field] := by
  have parses : ∀ texts, Json.parseTexts (String.ofList text) = .ok texts ↔
      Json.SpellsList texts text := by
    intro texts
    rw [Json.parseTexts_eq_ok_iff, String.toList_ofList]
  constructor
  · intro read
    unfold readList at read
    split at read
    · cases read
    · next parsed =>
        cases read
        exact ⟨_, .alone ((parses _).1 parsed), rfl⟩
    · next parsed =>
        split at read
        · next found =>
            cases read
            exact ⟨_, .directed ((parses _).1 parsed) found, rfl⟩
        · cases read
    · cases read
  · rintro ⟨field, asks, rfl⟩
    cases asks with
    | alone spells => rw [readList, (parses _).2 spells]
    | directed spells found =>
        rw [readList, (parses _).2 spells]
        simp only [found]

theorem readFields_eq_ok_iff {raw : String} :
    readFields raw = .ok fields ↔ Asks (Text.trimChars raw.toList) fields := by
  by_cases bracket : (Text.trimChars raw.toList).head? = some '['
  · rw [readFields_of_bracket bracket, readList_eq_ok_iff]
    constructor
    · rintro ⟨field, asks, rfl⟩
      exact .list bracket asks
    · intro asks
      cases asks with
      | list _ asks => exact ⟨_, asks, rfl⟩
      | tokens noBracket => exact absurd bracket noBracket
  · rw [readFields_of_no_bracket bracket, Except.ok.injEq]
    constructor
    · rintro rfl
      exact .tokens bracket (segmentsAsk_readTokens _)
    · intro asks
      cases asks with
      | list opened => exact absurd opened bracket
      | tokens _ asks => exact asks.readSegments_eq

theorem exists_malformed_readFields_iff {raw : String} :
    (∃ reason, readFields raw = .error (malformed reason)) ↔
      (Text.trimChars raw.toList).head? = some '[' ∧
        ∀ field, ¬ ListAsks (Text.trimChars raw.toList) field := by
  constructor
  · rintro ⟨reason, failed⟩
    by_cases bracket : (Text.trimChars raw.toList).head? = some '['
    · refine ⟨bracket, fun field asks => ?_⟩
      rw [readFields_eq_ok_iff.2 (.list bracket asks)] at failed
      cases failed
    · rw [readFields_of_no_bracket bracket] at failed
      cases failed
  · rintro ⟨bracket, unasked⟩
    cases read : readFields raw with
    | ok fields =>
        cases readFields_eq_ok_iff.1 read with
        | list _ asks => exact absurd asks (unasked _)
        | tokens noBracket => exact absurd bracket noBracket
    | error error =>
        obtain ⟨reason, rfl⟩ := exists_reason_of_readFields read
        exact ⟨reason, rfl⟩

/-! ## Blanks -/

theorem comma_visible : Text.isBlankChar ',' = false := rfl

/-- Outer blanks fall away with the blanks of the outer segments. -/
theorem readTokens_trimChars (text : List Char) :
    readTokens (Text.trimChars text) = readTokens text := by
  rw [readTokens, readTokens,
    Text.map_trimChars_splitChars_padded comma_visible (Text.padded_trimChars text)]

theorem readFields_padded {raw : String} {outside : List Char}
    (pad : Text.Padded raw.toList outside) :
    readFields (String.ofList outside) = readFields raw := by
  rw [readFields, readFields, String.toList_ofList, Text.trimChars_padded pad]

theorem readSegments_padded {padded : List (List Char)}
    (pads : List.Forall₂ Text.Padded segments padded) :
    readSegments padded = readSegments segments := by
  rw [readSegments, readSegments, Text.map_trimChars_padded pads]

theorem readSegments_append_blanks {blanks : List (List Char)}
    (blank : ∀ segment ∈ blanks, Text.Blanks segment) :
    readSegments (segments ++ blanks) = readSegments segments := by
  rw [readSegments, List.map_append, List.filter_append, List.map_append, ← readSegments,
    ← readSegments, readSegments_eq_nil_iff.2 blank, List.append_nil]

/-- A bracket behind the first comma does not open a list. -/
theorem head?_trimChars_of_splitChars {text segment : List Char}
    (cut : Text.splitChars ',' text = segment :: segments) :
    (Text.trimChars text).head? = some '[' ↔ (Text.trimChars segment).head? = some '[' := by
  rw [← Text.joinChars_splitChars ',' text, cut]
  exact Text.head?_trimChars_joinChars comma_visible (by decide) segment segments

theorem head?_trimChars_segments {text : List Char} {padded : List (List Char)}
    (pads : List.Forall₂ Text.Padded (Text.splitChars ',' text) padded)
    (blanks : List (List Char)) :
    (Text.trimChars (Text.joinChars ',' (padded ++ blanks))).head? = some '[' ↔
      (Text.trimChars text).head? = some '[' := by
  obtain ⟨segment, segments, cut⟩ := List.exists_cons_of_ne_nil (Text.splitChars_ne_nil ',' text)
  rw [head?_trimChars_of_splitChars cut]
  rw [cut] at pads
  cases pads with
  | cons pad _ =>
      rw [List.cons_append, Text.head?_trimChars_joinChars comma_visible (by decide),
        Text.trimChars_padded pad]

/-- Blanks around the segments of a text and blank segments behind them change nothing. -/
theorem readFields_segments {raw : String} {padded blanks : List (List Char)}
    (noBracket : (Text.trimChars raw.toList).head? ≠ some '[')
    (pads : List.Forall₂ Text.Padded (Text.splitChars ',' raw.toList) padded)
    (blank : ∀ segment ∈ blanks, Text.Blanks segment) :
    readFields (String.ofList (Text.joinChars ',' (padded ++ blanks))) = readFields raw := by
  have noBracketAfter := mt (head?_trimChars_segments pads blanks).1 noBracket
  rw [readFields_of_no_bracket noBracket, readFields_of_no_bracket (by rwa [String.toList_ofList]),
    String.toList_ofList, readTokens_trimChars, readTokens_trimChars, readTokens_eq, readTokens_eq,
    Text.splitChars_joinChars_padded comma_visible pads blank, readSegments_append_blanks blank,
    readSegments_padded pads]

/-! ## Columns -/

/-- All pushes of a field bring the same column, so its first column is also the bound one. -/
theorem collects_of_binds {entries : List (String × OrderTerm)}
    (binds : List.Forall₂ (Binds sortable) fields entries) :
    Collects sortable fields (pushAll entries empty) where
  names := by
    rw [keys_pushAll, keys_of_binds binds]
    rfl
  last before name direction after split last := by
    have directed : (Keyed.get? name (pushAll entries empty).fields).map OrderTerm.direction =
        some direction := by
      rw [direction_get?_pushAll, ← Keyed.get?_mapValues, Keyed.mapValues_reverse,
        mapValues_of_binds binds, Keyed.get?_reverse_eq_some_iff]
      exact ⟨before, after, split, last⟩
    obtain ⟨term, found, rfl⟩ := Option.map_eq_some_iff.1 directed
    have bound := boundBy_empty.pushAll (column?_of_binds binds)
    exact ⟨term.column, bound (name, term) (Keyed.mem_of_get? found), found⟩

theorem ofText_of_known {raw : String} (read : readFields raw = .ok fields)
    (known : ∀ field ∈ fields, field.1 ∈ sortable.names) :
    ∃ spec, ofText sortable raw = .ok spec ∧ Collects sortable fields spec := by
  obtain ⟨entries, binds⟩ := exists_binds known
  have added : fields.foldlM (addField sortable) empty = .ok (pushAll entries empty) :=
    pushesBound_addField.foldlM_eq_ok_iff.2 ⟨entries, binds, rfl⟩
  exact ⟨_, Traversal.bind_eq_ok.2 ⟨fields, read, added⟩, collects_of_binds binds⟩

theorem ofText_of_unknown {raw name : String} {direction : Direction}
    {before after : List (String × Direction)}
    (read : readFields raw = .ok (before ++ (name, direction) :: after))
    (known : ∀ field ∈ before, field.1 ∈ sortable.names) (unknown : name ∉ sortable.names) :
    ofText sortable raw = .error (.unknownSortField name) := by
  obtain ⟨spec, added⟩ := (pushesBound_addField.exists_foldlM_iff empty).2 known
  have unbound : sortable.column? name = none := by
    rw [Option.eq_none_iff_forall_ne_some]
    exact fun column bound => unknown (FieldSet.mem_names_of_column? bound)
  refine Traversal.bind_eq_error.2 (.inr ⟨_, read, ?_⟩)
  rw [List.foldlM_append]
  refine Traversal.bind_eq_error.2 (.inr ⟨spec, added, ?_⟩)
  rw [List.foldlM_cons, addField, unbound]
  rfl

/-- What is read as a specification collects the fields that the text names. -/
theorem exists_collects_of_ofText {raw : String} {spec : SortSpec}
    (read : ofText sortable raw = .ok spec) :
    ∃ fields, readFields raw = .ok fields ∧ Collects sortable fields spec := by
  obtain ⟨fields, fieldsRead, added⟩ := Traversal.bind_eq_ok.1 read
  obtain ⟨entries, binds, rfl⟩ := pushesBound_addField.foldlM_eq_ok_iff.1 added
  exact ⟨fields, fieldsRead, collects_of_binds binds⟩

theorem exists_malformed_ofText_iff {raw : String} :
    (∃ reason, ofText sortable raw = .error (malformed reason)) ↔
      ∃ reason, readFields raw = .error (malformed reason) := by
  refine exists_congr fun reason => ?_
  rw [ofText, Traversal.bind_eq_error, or_iff_left_iff_imp]
  rintro ⟨fields, -, unadded⟩
  obtain ⟨_, field, -, step⟩ := Traversal.exists_of_foldlM_error unadded
  unfold addField at step
  split at step <;> cases step

/-- A sort parameter is malformed exactly if it begins like a list, apart from blanks, and is none
of the lists that ask for a field. Otherwise it asks for fields. The first of them that cannot be
sorted by is to blame; if there is none, the fields are collected. Blanks around the parameter do
not count. Neither do blanks around its segments and blank segments behind them, if it is no list
and so has segments. -/
theorem ofText_outcome (sortable : FieldSet) (raw : String) :
    ((∃ reason, ofText sortable raw = .error (malformed reason)) ↔
      (Text.trimChars raw.toList).head? = some '[' ∧
        ∀ field, ¬ ListAsks (Text.trimChars raw.toList) field) ∧
    ((∃ reason, ofText sortable raw = .error (malformed reason)) ∨
      ∃ fields, Asks (Text.trimChars raw.toList) fields) ∧
    (∀ fields, Asks (Text.trimChars raw.toList) fields →
      (∀ before name direction after, fields = before ++ (name, direction) :: after →
        (∀ field ∈ before, field.1 ∈ sortable.names) → name ∉ sortable.names →
        ofText sortable raw = .error (.unknownSortField name)) ∧
      ((∀ field ∈ fields, field.1 ∈ sortable.names) →
        ∃ spec, ofText sortable raw = .ok spec ∧ Collects sortable fields spec)) ∧
    (∀ outside, Text.Padded raw.toList outside →
      ofText sortable (String.ofList outside) = ofText sortable raw) ∧
    ((Text.trimChars raw.toList).head? ≠ some '[' → ∀ padded blanks,
      List.Forall₂ Text.Padded (Text.splitChars ',' raw.toList) padded →
      (∀ segment ∈ blanks, Text.Blanks segment) →
      ofText sortable (String.ofList (Text.joinChars ',' (padded ++ blanks))) =
        ofText sortable raw) := by
  rw [exists_malformed_ofText_iff]
  refine ⟨exists_malformed_readFields_iff, ?_, ?_, ?_, ?_⟩
  · cases read : readFields raw with
    | ok fields => exact .inr ⟨fields, readFields_eq_ok_iff.1 read⟩
    | error error =>
        obtain ⟨reason, rfl⟩ := exists_reason_of_readFields read
        exact .inl ⟨reason, rfl⟩
  · intro fields asks
    have read := readFields_eq_ok_iff.2 asks
    refine ⟨?_, ofText_of_known read⟩
    rintro before name direction after rfl known unknown
    exact ofText_of_unknown read known unknown
  · intro outside pad
    rw [ofText, ofText, readFields_padded pad]
  · intro noBracket padded blanks pads blank
    rw [ofText, ofText, readFields_segments noBracket pads blank]

/-- The login is named first and last, with a direction each time. -/
theorem ofText_outcome_members :
    (∃ spec, ofText (.all Members.entity) "login, ,id,-login" = .ok spec ∧
      Keyed.keys spec.fields = ["login", "id"] ∧
      Keyed.get? "login" spec.fields = some ⟨Members.loginColumn, .desc⟩ ∧
      Keyed.get? "id" spec.fields = some ⟨Members.idColumn, .asc⟩) ∧
    ofText (.all Members.entity) " id , +login\t,," = ofText (.all Members.entity) "id,+login" ∧
    ofText (.all Members.entity) "id,--id,age" = .error (.unknownSortField "-id") ∧
    (∃ spec, ofText (.all Members.entity) "\n[\"id\",\"desc\"]" = .ok spec ∧
      Keyed.keys spec.fields = ["id"]) ∧
    ∃ reason, ofText (.all Members.entity) " [] " = .error (malformed reason) := by
  let sortable : FieldSet := .all Members.entity
  refine ⟨?_, ?_, ?_, ?_, ?_⟩
  · have tokens : readTokens (Text.trimChars "login, ,id,-login".toList) =
        [("login", .asc), ("id", .asc), ("login", .desc)] := by decide
    have asks : Asks (Text.trimChars "login, ,id,-login".toList) _ :=
      .tokens (by decide) (segmentsAsk_readTokens _)
    rw [tokens] at asks
    obtain ⟨spec, read, collects⟩ := ((ofText_outcome sortable _).2.2.1 _ asks).2 (by decide)
    obtain ⟨column, bound, login⟩ := collects.last [("login", .asc), ("id", .asc)] "login" .desc []
      rfl (by decide)
    obtain ⟨idColumn, idBound, id⟩ := collects.last [("login", .asc)] "id" .asc
      [("login", .desc)] rfl (by decide)
    cases bound
    cases idBound
    exact ⟨spec, read, collects.names, login, id⟩
  · let padded : List (List Char) := [" id ".toList, " +login\t".toList]
    have space : Text.Blanks [' '] := by decide
    have tab : Text.Blanks ['\t'] := by decide
    have pads : List.Forall₂ Text.Padded (Text.splitChars ',' "id,+login".toList) padded :=
      .cons (.mk space space) (.cons (.mk space tab) .nil)
    have joined : String.ofList (Text.joinChars ',' (padded ++ [[], []])) = " id , +login\t,," := by
      decide
    rw [← joined]
    exact (ofText_outcome sortable "id,+login").2.2.2.2 (by decide) padded [[], []] pads (by decide)
  · have tokens : readTokens (Text.trimChars "id,--id,age".toList) =
        [("id", .asc), ("-id", .desc), ("age", .asc)] := by decide
    have asks : Asks (Text.trimChars "id,--id,age".toList) _ :=
      .tokens (by decide) (segmentsAsk_readTokens _)
    rw [tokens] at asks
    exact ((ofText_outcome sortable _).2.2.1 _ asks).1 [("id", .asc)] "-id" .desc _ rfl (by decide)
      (by decide)
  · have trimmed : Text.trimChars "\n[\"id\",\"desc\"]".toList =
        (Json.compact (Json.ofTexts ["id", "desc"])).toList := by decide
    have asks : Asks (Text.trimChars "\n[\"id\",\"desc\"]".toList) [("id", .desc)] :=
      .list (by decide) (.directed (trimmed ▸ Json.spellsList_compact _) (by decide))
    obtain ⟨spec, read, collects⟩ := ((ofText_outcome sortable _).2.2.1 _ asks).2 (by decide)
    exact ⟨spec, read, collects.names⟩
  · have trimmed : Text.trimChars " [] ".toList = (Json.compact (Json.ofTexts [])).toList := by
      decide
    refine (ofText_outcome sortable _).1.2 ⟨by decide, fun field asks => ?_⟩
    have read := readList_eq_ok_iff.2 ⟨field, asks, rfl⟩
    rw [trimmed, String.ofList_toList, readList,
      Json.parseTexts_spelled (Json.spellsList_compact [])] at read
    cases read

end SortSpec

end Listing
