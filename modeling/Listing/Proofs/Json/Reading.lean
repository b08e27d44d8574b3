import Listing.Json.Reader
import Listing.Proofs.Decimal
import Listing.Proofs.Json.Spelling
import Listing.Proofs.Keyed
import Listing.Proofs.Traversal

set_option autoImplicit false

/-!
# Reading what is spelled

Every spelling of an object of scalars is read as the object of its members.
-/

namespace Listing.Json

/-! ## Blanks -/

theorem skipBlanks_cons {char : Char} (visible : isBlankChar char = false) (rest : List Char) :
    skipBlanks (char :: rest) = char :: rest := by
  rw [skipBlanks, List.dropWhile_cons, visible]
  rfl

theorem skipBlanks_append {blanks : List Char} (blank : Blank blanks) (rest : List Char) :
    skipBlanks (blanks ++ rest) = skipBlanks rest := by
  induction blanks with
  | nil => rfl
  | cons char more ih =>
      have invisible : isBlankChar char = true := by
        rcases blank.cases List.mem_cons_self with rfl | rfl | rfl | rfl <;> rfl
      rw [List.cons_append, skipBlanks, List.dropWhile_cons, invisible]
      exact ih fun other member => blank other (List.mem_cons_of_mem _ member)

theorem skipBlanks_append_cons {blanks : List Char} (blank : Blank blanks) {char : Char}
    (visible : isBlankChar char = false) (rest : List Char) :
    skipBlanks (blanks ++ char :: rest) = char :: rest := by
  rw [skipBlanks_append blank, skipBlanks_cons visible]

theorem length_skipBlanks_le (chars : List Char) : (skipBlanks chars).length ≤ chars.length :=
  (List.dropWhile_suffix isBlankChar).length_le

/-! ## Strings -/

theorem readHex_append {digits : List Char} {unit : Nat} (spelled : IsCodeUnit digits unit)
    (rest : List Char) : readHex (digits ++ rest) = .ok (unit, rest) := by
  obtain ⟨four, value⟩ := spelled
  match digits, four with
  | [a, b, c, d], _ =>
      simp only [Text.ofHex?, List.mapM_cons, List.mapM_nil] at value
      cases first : Text.hexValue? a <;> cases second : Text.hexValue? b <;>
        cases third : Text.hexValue? c <;> cases fourth : Text.hexValue? d <;>
        simp_all [readHex]

theorem toNat_valid (char : Char) :
    char.toNat < 0xD800 ∨ 0xDFFF < char.toNat ∧ char.toNat < 0x110000 :=
  char.valid

theorem readNumbered_unit {char : Char} {digits : List Char}
    (spelled : IsCodeUnit digits char.toNat) (rest : List Char) :
    readNumbered (digits ++ rest) = .ok (char, rest) := by
  have valid := toNat_valid char
  have notLow : isLowSurrogate char.toNat = false := by
    simp only [isLowSurrogate, Bool.and_eq_false_iff, decide_eq_false_iff_not]
    omega
  have notHigh : isHighSurrogate char.toNat = false := by
    simp only [isHighSurrogate, Bool.and_eq_false_iff, decide_eq_false_iff_not]
    omega
  rw [readNumbered, readHex_append spelled]
  simp [bind, Except.bind, notLow, notHigh]

/-- The two halves of a character beyond the first 65536. -/
theorem surrogates_of_le {char : Char} (beyond : 0x10000 ≤ char.toNat) {high low : Nat}
    (highHalf : high = 0xD800 + (char.toNat - 0x10000) / 0x400)
    (lowHalf : low = 0xDC00 + (char.toNat - 0x10000) % 0x400) :
    isLowSurrogate high = false ∧ isHighSurrogate high = true ∧ isLowSurrogate low = true ∧
      ofSurrogates high low = char := by
  have valid := toNat_valid char
  refine ⟨?_, ?_, ?_, ?_⟩
  · simp only [isLowSurrogate, Bool.and_eq_false_iff, decide_eq_false_iff_not]
    omega
  · simp only [isHighSurrogate, Bool.and_eq_true, decide_eq_true_eq]
    omega
  · simp only [isLowSurrogate, Bool.and_eq_true, decide_eq_true_eq]
    omega
  · have sum : 0x10000 + (high - 0xD800) * 0x400 + (low - 0xDC00) = char.toNat := by omega
    rw [ofSurrogates, sum, Char.ofNat_toNat]

theorem readNumbered_halves {high low : Nat} {digits more : List Char}
    (first : IsCodeUnit digits high) (second : IsCodeUnit more low)
    (notLow : isLowSurrogate high = false) (isHigh : isHighSurrogate high = true)
    (isLow : isLowSurrogate low = true) (rest : List Char) :
    readNumbered (digits ++ '\\' :: 'u' :: (more ++ rest)) = .ok (ofSurrogates high low, rest) := by
  rw [readNumbered, readHex_append first]
  simp only [bind, Except.bind, notLow, isHigh, Bool.false_eq_true, ↓reduceIte]
  rw [readLowSurrogate, readHex_append second]
  simp only [bind, Except.bind, isLow, ↓reduceIte]

theorem readNumbered_pair {char : Char} {high low : List Char} (beyond : 0x10000 ≤ char.toNat)
    (first : IsCodeUnit high (0xD800 + (char.toNat - 0x10000) / 0x400))
    (second : IsCodeUnit low (0xDC00 + (char.toNat - 0x10000) % 0x400)) (rest : List Char) :
    readNumbered (high ++ '\\' :: 'u' :: (low ++ rest)) = .ok (char, rest) := by
  obtain ⟨notLow, isHigh, isLow, whole⟩ := surrogates_of_le beyond rfl rfl
  rw [readNumbered_halves first second notLow isHigh isLow, whole]

theorem readEscape_u (rest : List Char) : readEscape ('u' :: rest) = readNumbered rest := by
  rw [readEscape, if_pos rfl]

theorem readEscape_short {char letter : Char} (listed : (letter, char) ∈ shortEscapes)
    (rest : List Char) : readEscape (letter :: rest) = .ok (char, rest) := by
  simp only [shortEscapes, List.mem_cons, Prod.mk.injEq, List.not_mem_nil, or_false] at listed
  rcases listed with ⟨rfl, rfl⟩ | ⟨rfl, rfl⟩ | ⟨rfl, rfl⟩ | ⟨rfl, rfl⟩ | ⟨rfl, rfl⟩ | ⟨rfl, rfl⟩ |
    ⟨rfl, rfl⟩ | ⟨rfl, rfl⟩ <;> rfl

/-- Puts a character before what is read from the text behind it. -/
def withChar (char : Char) (outcome : Outcome (List Char × List Char)) :
    Outcome (List Char × List Char) :=
  outcome >>= fun read => .ok (char :: read.1, read.2)

theorem readString_plain {char : Char} (noQuote : char ≠ '"') (noBackslash : char ≠ '\\')
    (printable : 0x20 ≤ char.toNat) (rest : List Char) :
    readString (char :: rest) = withChar char (readString rest) := by
  rw [readString, if_neg noQuote, if_neg noBackslash, if_neg (Nat.not_lt.2 printable)]
  rfl

theorem readString_escape {escape rest : List Char} {char : Char}
    (read : readEscape escape = .ok (char, rest)) :
    readString ('\\' :: escape) = withChar char (readString rest) := by
  rw [readString, if_neg (by decide), if_pos rfl]
  split
  · next failed => rw [read] at failed; cases failed
  · next same =>
      rw [read] at same
      cases same
      rfl

theorem readString_char {char : Char} {spelled : List Char} (spells : SpellsChar char spelled)
    (rest : List Char) : readString (spelled ++ rest) = withChar char (readString rest) := by
  cases spells with
  | plain noQuote noBackslash printable =>
      exact readString_plain noQuote noBackslash printable rest
  | short listed => exact readString_escape (readEscape_short listed rest)
  | @numbered digits unit =>
      exact readString_escape ((readEscape_u _).trans (readNumbered_unit unit rest))
  | @pair high low beyond first second =>
      have read := readNumbered_pair beyond first second rest
      simpa using readString_escape ((readEscape_u _).trans read)

theorem readString_text {text spelled : List Char} (spells : SpellsText text spelled)
    (rest : List Char) : readString (spelled ++ '"' :: rest) = .ok (text, rest) := by
  induction spells with
  | nil => rw [List.nil_append, readString, if_pos rfl]
  | cons first _ ih => rw [List.append_assoc, readString_char first, ih]; rfl

/-! ## Numbers -/

/-- The text does not go on with a number that stands before it. -/
def EndsNumber (rest : List Char) : Prop :=
  ∀ char tail, rest = char :: tail →
    Decimal.isDigit char = false ∧ char ≠ '.' ∧ char ≠ 'e' ∧ char ≠ 'E'

theorem readDigits_append {digits rest : List Char} (present : digits ≠ [])
    (numeral : ∀ digit ∈ digits, Decimal.isDigit digit = true) (ends : EndsNumber rest) :
    readDigits (digits ++ rest) = .ok (digits, rest) := by
  have stops : rest.takeWhile Decimal.isDigit = [] ∧ rest.dropWhile Decimal.isDigit = rest := by
    cases rest with
    | nil => exact ⟨rfl, rfl⟩
    | cons char tail =>
        have other := (ends char tail rfl).1
        simp [other]
  rw [readDigits, List.takeWhile_append_of_pos numeral, List.dropWhile_append_of_pos numeral,
    stops.1, stops.2, List.append_nil]
  cases digits with
  | nil => exact absurd rfl present
  | cons digit more => rfl

theorem readWhole_append (number : Nat) {rest : List Char} (ends : EndsNumber rest) :
    readWhole (Nat.toDigits 10 number ++ rest) = .ok (Nat.toDigits 10 number, rest) := by
  rw [readWhole, readDigits_append Nat.toDigits_ne_nil
    (fun _ member => Decimal.isDigit_of_mem_toDigits member) ends]
  simp only [bind, Except.bind]
  split
  · next next more leading => exact absurd leading (Decimal.toDigits_ne_zero_cons number next more)
  · rfl

theorem scan_append (negative : Bool) (number : Nat) {rest : List Char} (ends : EndsNumber rest) :
    scan negative (Nat.toDigits 10 number ++ rest) =
      .ok (⟨negative, Nat.toDigits 10 number, none, none⟩, rest) := by
  rw [scan, readWhole_append number ends]
  simp only [bind, Except.bind]
  cases rest with
  | nil => rfl
  | cons char tail =>
      obtain ⟨-, noPoint, noMark, noCapital⟩ := ends char tail rfl
      have fraction : readFraction (char :: tail) = .ok (none, char :: tail) := by
        unfold readFraction
        split
        · next same => cases same; exact absurd rfl noPoint
        · rfl
      have exponent : readExponent (char :: tail) = .ok (none, char :: tail) := by
        rw [readExponent, if_neg (not_or.2 ⟨noMark, noCapital⟩)]
      rw [fraction]
      simp only [exponent]

theorem absorb_eq {bound amount : Nat} {digits : List Char}
    (within : digits.foldl (fun number digit => number * 10 + Decimal.digitValue digit) amount ≤
      bound) :
    absorb bound amount digits =
      (digits.foldl (fun number digit => number * 10 + Decimal.digitValue digit) amount, []) := by
  have grows : ∀ (more : List Char) (start : Nat), start ≤
      more.foldl (fun number digit => number * 10 + Decimal.digitValue digit) start := by
    intro more
    induction more with
    | nil => exact fun start => Nat.le_refl start
    | cons digit tail ih =>
        intro start
        have next := ih (start * 10 + Decimal.digitValue digit)
        rw [List.foldl_cons]
        omega
  induction digits generalizing amount with
  | nil => rfl
  | cons digit tail ih =>
      rw [List.foldl_cons] at within ⊢
      have first := Nat.le_trans (grows tail _) within
      rw [absorb]
      simp only [first, ↓reduceIte]
      exact ih within

theorem absorb_toDigits {number : Nat} (small : number ≤ maxSignificand) :
    absorb maxSignificand 0 (Nat.toDigits 10 number) = (number, []) := by
  have whole := Decimal.ofDigits_toDigits number
  unfold Decimal.ofDigits at whole
  rw [absorb_eq (by rw [whole]; exact small), whole]

theorem readNumber_natural {number : Nat} (small : number < UInt64.size) {rest : List Char}
    (ends : EndsNumber rest) :
    readNumber false (Nat.toDigits 10 number ++ rest) = .ok (.integer number, rest) := by
  have within : number ≤ maxSignificand := Nat.le_sub_one_of_lt small
  rw [readNumber, scan_append false number ends]
  simp only [bind, Except.bind, Scanned.toNumber, absorb_toDigits within]
  rfl

theorem readNumber_negative {number : Nat} (positive : 0 < number)
    (small : number ≤ Int64.minValue.toInt.natAbs) {rest : List Char} (ends : EndsNumber rest) :
    readNumber true (Nat.toDigits 10 number ++ rest) = .ok (.integer (-number), rest) := by
  have bound : Int64.minValue.toInt.natAbs ≤ maxSignificand := by decide
  rw [readNumber, scan_append true number ends]
  simp only [bind, Except.bind, Scanned.toNumber, absorb_toDigits (Nat.le_trans small bound)]
  rw [if_neg (by decide), if_neg (by omega)]

/-! ## Scalars -/

/-- The scalar that a value is given as. -/
inductive IsScalar : String → Json → Prop where
  | string {value : String} : IsScalar value (.string value)
  | integer {number : Int} : IsScalar (toString number) (.number (.integer number))
  | bool {value : Bool} : IsScalar (toString value) (.bool value)

theorem readValue_skip {blanks : List Char} (blank : Blank blanks) (depth : Nat)
    (rest : List Char) : readValue depth (blanks ++ rest) = readValue depth rest := by
  rw [readValue.eq_def, skipBlanks_append blank, ← readValue.eq_def]

theorem isBlankChar_of_isDigit {char : Char} (digit : Decimal.isDigit char = true) :
    isBlankChar char = false := by
  cases blank : isBlankChar char with
  | false => rfl
  | true =>
      simp only [isBlankChar, Bool.or_eq_true, decide_eq_true_eq] at blank
      rcases blank with ((rfl | rfl) | rfl) | rfl <;> cases digit

theorem readValue_digit {digit : Char} (isDigit : Decimal.isDigit digit = true) (depth : Nat)
    (rest : List Char) :
    readValue depth (digit :: rest) =
      (readNumber false (digit :: rest) >>= fun read => .ok (.number read.1, read.2)) := by
  rw [readValue.eq_def, skipBlanks_cons (isBlankChar_of_isDigit isDigit)]
  split
  case h_9 => next same => cases same; rw [if_pos isDigit]
  all_goals next same => cases same <;> cases isDigit

theorem readValue_minus (depth : Nat) (rest : List Char) :
    readValue depth ('-' :: rest) =
      (readNumber true rest >>= fun read => .ok (.number read.1, read.2)) := by
  rw [readValue.eq_def, skipBlanks_cons rfl]
  rfl

theorem readValue_quote (depth : Nat) (rest : List Char) :
    readValue depth ('"' :: rest) =
      (readString rest >>= fun read => .ok (.string (String.ofList read.1), read.2)) := by
  rw [readValue.eq_def, skipBlanks_cons rfl]
  rfl

theorem readValue_integer {number : Int} (above : Int64.minValue.toInt ≤ number)
    (below : number < UInt64.size) (depth : Nat) {rest : List Char} (ends : EndsNumber rest) :
    readValue depth ((toString number).toList ++ rest) =
      .ok (.number (.integer number), rest) := by
  cases number with
  | ofNat number =>
      have digits : (toString (Int.ofNat number)).toList = Nat.toDigits 10 number := Nat.toList_repr
      have read := readNumber_natural (Int.ofNat_lt.1 below) ends
      rw [digits]
      cases whole : Nat.toDigits 10 number with
      | nil => exact absurd whole Nat.toDigits_ne_nil
      | cons digit more =>
          have isDigit : Decimal.isDigit digit = true :=
            Decimal.isDigit_of_mem_toDigits (by rw [whole]; exact List.mem_cons_self)
          rw [whole, List.cons_append] at read
          rw [List.cons_append, readValue_digit isDigit, read]
          rfl
  | negSucc number =>
      have digits : (toString (Int.negSucc number)).toList = '-' :: Nat.toDigits 10 (number + 1) := by
        rw [Int.toString_eq_repr, Int.repr_eq_if]
        simp
      have small : number + 1 ≤ Int64.minValue.toInt.natAbs := by omega
      rw [digits, List.cons_append, readValue_minus,
        readNumber_negative (Nat.succ_pos number) small ends]
      rfl

/-- A spelled value is read as the scalar that it is given as. -/
theorem readValue_scalar {value : String} {spelled : List Char} (spells : SpellsScalar value spelled)
    (depth : Nat) {rest : List Char} (ends : EndsNumber rest) :
    ∃ json, IsScalar value json ∧ readValue depth (spelled ++ rest) = .ok (json, rest) := by
  cases spells with
  | @string _ spelled text =>
      refine ⟨.string value, .string, ?_⟩
      have read := readString_text text rest
      rw [List.append_assoc, List.singleton_append, List.cons_append, readValue_quote, read]
      simp [bind, Except.bind]
  | integer above below => exact ⟨_, .integer, readValue_integer above below depth ends⟩
  | @bool flag =>
      refine ⟨.bool flag, .bool, ?_⟩
      cases flag with
      | false => rw [readValue.eq_def]; rfl
      | true => rw [readValue.eq_def]; rfl

/-! ## Objects -/

theorem endsNumber_append {blanks : List Char} (blank : Blank blanks) {mark : Char}
    (closing : mark = ',' ∨ mark = '\x7d') (rest : List Char) :
    EndsNumber (blanks ++ mark :: rest) := by
  intro char tail same
  cases blanks with
  | nil =>
      rcases closing with rfl | rfl <;> cases same <;> decide
  | cons first more =>
      cases same
      rcases blank.cases List.mem_cons_self with rfl | rfl | rfl | rfl <;> decide

/-- A spelled member is read up to the mark behind it, which ends the object or begins the next
member. -/
theorem readMember_spelled {pair : String × String} {spelled : List Char}
    (spells : SpellsMember pair spelled) (depth : Nat) {mark : Char}
    (closing : mark = ',' ∨ mark = '\x7d') (rest : List Char) :
    ∃ tail json after, skipBlanks (spelled ++ mark :: rest) = '"' :: tail ∧ IsScalar pair.2 json ∧
      readMember (readValue depth) tail = .ok ((pair.1, json), after) ∧
      skipBlanks after = mark :: rest ∧ rest.length < tail.length := by
  cases spells with
  | @mk field value before key behind ahead spelled after noBefore spellsKey noBehind noAhead
      spellsValue noAfter =>
      have visible : isBlankChar mark = false := by rcases closing with rfl | rfl <;> rfl
      obtain ⟨json, scalar, readJson⟩ :=
        readValue_scalar spellsValue depth (endsNumber_append noAfter closing rest)
      refine ⟨key ++ '"' :: (behind ++ ':' :: (ahead ++ (spelled ++ (after ++ mark :: rest)))), json,
        after ++ mark :: rest, ?_, scalar, ?_, skipBlanks_append_cons noAfter visible rest, ?_⟩
      · have quote : isBlankChar '"' = false := rfl
        have opened := skipBlanks_append_cons noBefore quote
          (key ++ '"' :: (behind ++ ':' :: (ahead ++ (spelled ++ (after ++ mark :: rest)))))
        simpa using opened
      · have colon : isBlankChar ':' = false := rfl
        rw [readMember, readString_text spellsKey]
        simp only [bind, Except.bind, skipBlanks_append_cons noBehind colon, readValue_skip noAhead,
          readJson, String.ofList_toList]
      · simp only [List.length_append, List.length_cons]
        omega

theorem readMembers_spelled {pairs : List (String × String)} {spelled : List Char}
    (spells : SpellsMembers pairs spelled) (depth : Nat) (rest : List Char) :
    ∃ tail members, skipBlanks (spelled ++ '\x7d' :: rest) = '"' :: tail ∧
      pairs.length ≤ tail.length ∧
      List.Forall₂ (fun pair member => pair.1 = member.1 ∧ IsScalar pair.2 member.2) pairs members ∧
      ∀ rounds, pairs.length ≤ rounds →
        readMembers (readValue depth) rounds tail = .ok (members, rest) := by
  induction spells with
  | @last pair spelled member =>
      obtain ⟨tail, json, after, opened, scalar, read, closed, shorter⟩ :=
        readMember_spelled member depth (.inr rfl) rest
      refine ⟨tail, [(pair.1, json)], opened, ?_, .cons ⟨rfl, scalar⟩ .nil, ?_⟩
      · simp only [List.length_singleton]
        omega
      · intro rounds enough
        cases rounds with
        | zero => cases enough
        | succ rounds =>
            rw [readMembers, read]
            simp only [bind, Except.bind, closed]
  | @more pair pairs spelled others member _ ih =>
      obtain ⟨next, members, nextOpened, long, scalars, readNext⟩ := ih
      obtain ⟨tail, json, after, opened, scalar, read, closed, shorter⟩ :=
        readMember_spelled member depth (.inl rfl) (others ++ '\x7d' :: rest)
      have nextShorter : ('"' :: next).length ≤ (others ++ '\x7d' :: rest).length := by
        exact nextOpened ▸ length_skipBlanks_le _
      refine ⟨tail, (pair.1, json) :: members, by simpa using opened, ?_,
        .cons ⟨rfl, scalar⟩ scalars, ?_⟩
      · simp only [List.length_cons] at nextShorter ⊢
        omega
      · intro rounds enough
        cases rounds with
        | zero => cases enough
        | succ rounds =>
            rw [readMembers, read]
            simp only [bind, Except.bind, closed, nextOpened,
              readNext rounds (Nat.le_of_succ_le_succ enough)]

theorem readValue_brace (depth : Nat) (rest : List Char) :
    readValue (depth + 1) ('\x7b' :: rest) =
      (readObject (readValue depth) rest >>= fun read =>
        .ok (.object (Keyed.ofPairs read.1), read.2)) := by
  rw [readValue.eq_def, skipBlanks_cons rfl]
  rfl

/-- A document may be followed by blanks and by nothing else. -/
theorem readAll_eq_ok {α : Type} {read : List Char → Outcome (α × List Char)} {text : String}
    {value : α} {after : List Char} (blank : Blank after)
    (ran : read text.toList = .ok (value, after)) : readAll read text = .ok value := by
  have nothing : skipBlanks after = [] := by
    have skipped := skipBlanks_append blank []
    rwa [List.append_nil] at skipped
  rw [readAll, ran]
  simp only [nothing]

/-- Every spelling of an object is read as the object of its members, each key once. -/
theorem parse_spelled {pairs : List (String × String)} {text : String}
    (spells : SpellsObject pairs text.toList) :
    ∃ members,
      List.Forall₂ (fun pair member => pair.1 = member.1 ∧ IsScalar pair.2 member.2) pairs members ∧
      parse text = .ok (.object (Keyed.ofPairs members)) := by
  generalize written : text.toList = chars at spells
  cases spells with
  | @empty before inside after noBefore noInside noAfter =>
      refine ⟨[], .nil, readAll_eq_ok noAfter ?_⟩
      rw [written, List.append_assoc, readValue_skip noBefore, List.cons_append, maxDepth,
        readValue_brace, readObject, skipBlanks_append_cons noInside rfl]
      rfl
  | @members _ before spelled after noBefore spells noAfter =>
      obtain ⟨tail, members, opened, long, scalars, read⟩ := readMembers_spelled spells 126 after
      refine ⟨members, scalars, readAll_eq_ok noAfter ?_⟩
      rw [written, List.append_assoc, readValue_skip noBefore, List.cons_append, maxDepth,
        readValue_brace, readObject, opened]
      simp only [bind, Except.bind, read (tail.length + 1) (Nat.le_succ_of_le long)]

end Listing.Json
