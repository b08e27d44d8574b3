import Listing.Proofs.Json.Lists

set_option autoImplicit false

/-!
# What is read is spelled

The other direction of reading: a text that is read as a string or as a list of strings is one of
their spellings. So the grammar says exactly which texts are lists of strings.
-/

namespace Listing.Json

variable {chars rest : List Char}

/-- What is skipped before the next visible character is blank. -/
theorem exists_blank_append_skipBlanks (chars : List Char) :
    ∃ blanks, Blank blanks ∧ chars = blanks ++ skipBlanks chars := by
  refine ⟨chars.takeWhile isBlankChar, ?_, List.takeWhile_append_dropWhile.symm⟩
  intro char member
  have skipped := List.all_eq_true.1 List.all_takeWhile char member
  simpa [isBlankChar, or_assoc] using skipped

/-! ## Characters -/

theorem hexValue?_lt {char : Char} {value : Nat} (digit : Text.hexValue? char = some value) :
    value < 16 := by
  unfold Text.hexValue? at digit
  simp only [Char.le_def, UInt32.le_iff_toNat_le] at digit
  have decimal : ('9' : Char).val.toNat = 57 ∧ ('0' : Char).toNat = 48 := ⟨rfl, rfl⟩
  have small : ('f' : Char).val.toNat = 102 ∧ ('a' : Char).toNat = 97 := ⟨rfl, rfl⟩
  have capital : ('F' : Char).val.toNat = 70 ∧ ('A' : Char).toNat = 65 := ⟨rfl, rfl⟩
  have code : char.val.toNat = char.toNat := rfl
  split at digit
  · cases digit
    omega
  · split at digit
    · cases digit
      omega
    · split at digit
      · cases digit
        omega
      · cases digit

theorem exists_of_readHex {unit : Nat} (read : readHex chars = .ok (unit, rest)) :
    ∃ digits, IsCodeUnit digits unit ∧ unit < 0x10000 ∧ chars = digits ++ rest := by
  unfold readHex at read
  split at read
  · next a b c d tail =>
      split at read
      · next first second third fourth firstDigit secondDigit thirdDigit fourthDigit =>
          cases read
          refine ⟨[a, b, c, d], ⟨rfl, ?_⟩, ?_, rfl⟩
          · simp [Text.ofHex?, firstDigit, secondDigit, thirdDigit, fourthDigit]
          · have := hexValue?_lt firstDigit
            have := hexValue?_lt secondDigit
            have := hexValue?_lt thirdDigit
            have := hexValue?_lt fourthDigit
            omega
      · cases read
  · split at read <;> cases read

theorem toNat_ofNat {code : Nat} (valid : code < 0xD800 ∨ 0xDFFF < code ∧ code < 0x110000) :
    (Char.ofNat code).toNat = code := by
  have isChar : code.isValidChar := valid
  rw [Char.ofNat, dif_pos isChar]
  rfl

theorem exists_of_readLowSurrogate {high : Nat} {char : Char}
    (read : readLowSurrogate high chars = .ok (char, rest)) :
    ∃ digits low, IsCodeUnit digits low ∧ isLowSurrogate low = true ∧ char = ofSurrogates high low ∧
      chars = '\\' :: 'u' :: digits ++ rest := by
  unfold readLowSurrogate at read
  split at read
  · next tail =>
      obtain ⟨⟨low, behind⟩, digits, checked⟩ := Traversal.bind_eq_ok.1 read
      obtain ⟨spelled, unit, -, rfl⟩ := exists_of_readHex digits
      dsimp only at checked
      split at checked
      · next isLow =>
          simp only [Except.ok.injEq, Prod.mk.injEq] at checked
          obtain ⟨same, rfl⟩ := checked
          exact ⟨spelled, low, unit, isLow, same.symm, rfl⟩
      · cases checked
  all_goals cases read

/-- The halves of a surrogate pair are found again in the character that they stand for. -/
theorem halves_of_surrogates {high low : Nat} (isHigh : isHighSurrogate high = true)
    (isLow : isLowSurrogate low = true) :
    0x10000 ≤ (ofSurrogates high low).toNat ∧
      high = 0xD800 + ((ofSurrogates high low).toNat - 0x10000) / 0x400 ∧
      low = 0xDC00 + ((ofSurrogates high low).toNat - 0x10000) % 0x400 := by
  simp only [isHighSurrogate, isLowSurrogate, Bool.and_eq_true, decide_eq_true_eq] at isHigh isLow
  have code : (ofSurrogates high low).toNat =
      0x10000 + (high - 0xD800) * 0x400 + (low - 0xDC00) := toNat_ofNat (by omega)
  rw [code]
  omega

theorem exists_of_readNumbered {char : Char} (read : readNumbered chars = .ok (char, rest)) :
    ∃ spelled, SpellsChar char ('\\' :: 'u' :: spelled) ∧ chars = spelled ++ rest := by
  obtain ⟨⟨unit, behind⟩, digits, checked⟩ := Traversal.bind_eq_ok.1 read
  obtain ⟨spelled, isUnit, small, rfl⟩ := exists_of_readHex digits
  dsimp only at checked
  split at checked
  · cases checked
  · next notLow =>
      split at checked
      · next isHigh =>
          obtain ⟨more, low, isMore, isLow, same, rfl⟩ := exists_of_readLowSurrogate checked
          obtain ⟨beyond, highHalf, lowHalf⟩ := halves_of_surrogates isHigh isLow
          rw [← same] at beyond highHalf lowHalf
          refine ⟨spelled ++ '\\' :: 'u' :: more, ?_, by simp⟩
          exact .pair beyond (highHalf ▸ isUnit) (lowHalf ▸ isMore)
      · next notHigh =>
          cases checked
          have code : (Char.ofNat unit).toNat = unit := by
            simp only [isHighSurrogate, isLowSurrogate, Bool.and_eq_true, decide_eq_true_eq]
              at notHigh notLow
            exact toNat_ofNat (by omega)
          exact ⟨spelled, .numbered (code.symm ▸ isUnit), rfl⟩

theorem mem_shortEscapes_of_escaped? {letter char : Char} (escape : escaped? letter = some char) :
    (letter, char) ∈ shortEscapes := by
  unfold escaped? at escape
  split_ifs at escape with plain backspace feed newline carriage tab
  · cases escape
    rcases plain with rfl | rfl | rfl <;> decide
  all_goals
    subst letter
    cases escape
    decide

theorem exists_of_readEscape {char : Char} (read : readEscape chars = .ok (char, rest)) :
    ∃ spelled, SpellsChar char ('\\' :: spelled) ∧ chars = spelled ++ rest := by
  unfold readEscape at read
  split at read
  · cases read
  · next letter tail =>
      split_ifs at read with numbered
      · subst letter
        obtain ⟨spelled, spells, rfl⟩ := exists_of_readNumbered read
        exact ⟨'u' :: spelled, spells, rfl⟩
      · split at read
        · next escape =>
            cases read
            exact ⟨[letter], .short (mem_shortEscapes_of_escaped? escape), rfl⟩
        · cases read

/-! ## Strings -/

/-- What is read up to a closing quote spells the text that it is read as. -/
theorem exists_of_readString {text : List Char} (read : readString chars = .ok (text, rest)) :
    ∃ spelled, SpellsText text spelled ∧ chars = spelled ++ '"' :: rest := by
  fun_induction readString chars generalizing text rest with
  | case1 => cases read
  | case2 tail =>
      cases read
      exact ⟨[], .nil, rfl⟩
  | case3 => cases read
  | case4 tail char behind escape _ ih =>
      obtain ⟨⟨more, after⟩, readMore, same⟩ := Traversal.bind_eq_ok.1 read
      cases same
      obtain ⟨spelled, spells, rfl⟩ := ih readMore
      obtain ⟨escaped, spellsChar, rfl⟩ := exists_of_readEscape escape
      exact ⟨'\\' :: escaped ++ spelled, .cons spellsChar spells, by simp⟩
  | case5 => cases read
  | case6 char tail noQuote noBackslash printable ih =>
      obtain ⟨⟨more, after⟩, readMore, same⟩ := Traversal.bind_eq_ok.1 read
      cases same
      obtain ⟨spelled, spells, rfl⟩ := ih readMore
      have plain : SpellsChar char [char] := .plain noQuote noBackslash (Nat.not_lt.1 printable)
      exact ⟨[char] ++ spelled, .cons plain spells, rfl⟩

/-! ## Lists -/

theorem refuse_ne_ok {α : Type} {wanted : String} {value : α} :
    refuse wanted chars ≠ .ok (value, rest) := by
  intro read
  obtain ⟨_, _, absurdity⟩ := Traversal.bind_eq_ok.1 read
  cases absurdity

theorem exists_of_readText {text : String} (read : readText chars = .ok (text, rest)) :
    ∃ before spelled, Blank before ∧ SpellsText text.toList spelled ∧
      chars = before ++ '"' :: spelled ++ '"' :: rest := by
  obtain ⟨before, noBefore, split⟩ := exists_blank_append_skipBlanks chars
  unfold readText at read
  split at read
  · cases read
  · next opened =>
      obtain ⟨⟨content, after⟩, readContent, same⟩ := Traversal.bind_eq_ok.1 read
      cases same
      obtain ⟨spelled, spells, rfl⟩ := exists_of_readString readContent
      refine ⟨before, spelled, noBefore, by rwa [String.toList_ofList], ?_⟩
      rw [split, opened]
      simp
  · exact absurd read refuse_ne_ok

theorem SpellsItems.blank_append {blanks content : List Char} {texts : List String}
    (blank : Blank blanks) (spells : SpellsItems texts content) :
    SpellsItems texts (blanks ++ content) := by
  have first {text : String} {spelled : List Char} (item : SpellsItem text spelled) :
      SpellsItem text (blanks ++ spelled) := by
    cases item with
    | @mk before spelled after noBefore spells noAfter =>
        have around : Blank (blanks ++ before) := by
          intro char member
          exact (List.mem_append.1 member).elim (blank char) (noBefore char)
        simpa using SpellsItem.mk around spells noAfter
  cases spells with
  | last item => exact .last (first item)
  | more item others =>
      rw [← List.append_assoc]
      exact .more (first item) others

theorem exists_of_readItems {rounds : Nat} {texts : List String}
    (read : readItems readText rounds chars = .ok (texts, rest)) :
    ∃ content, SpellsItems texts content ∧ chars = content ++ ']' :: rest := by
  induction rounds generalizing chars texts rest with
  | zero => cases read
  | succ rounds ih =>
      obtain ⟨⟨text, behind⟩, readFirst, continued⟩ := Traversal.bind_eq_ok.1 read
      obtain ⟨before, spelled, noBefore, spells, rfl⟩ := exists_of_readText readFirst
      obtain ⟨after, noAfter, split⟩ := exists_blank_append_skipBlanks behind
      have item := SpellsItem.mk noBefore spells noAfter
      dsimp only at continued
      split at continued
      · next closed =>
          cases continued
          refine ⟨_, .last item, ?_⟩
          rw [split, closed]
          simp
      · next others comma =>
          obtain ⟨ahead, noAhead, splitOthers⟩ := exists_blank_append_skipBlanks others
          split at continued
          · cases continued
          · cases continued
          · obtain ⟨⟨more, last⟩, readMore, same⟩ := Traversal.bind_eq_ok.1 continued
            cases same
            obtain ⟨content, spellsMore, opened⟩ := ih readMore
            refine ⟨_, .more item (spellsMore.blank_append noAhead), ?_⟩
            rw [split, comma, splitOthers, opened]
            simp
      · cases continued
      · cases continued

theorem exists_of_readList {texts : List String}
    (read : readList readText chars = .ok (texts, rest)) :
    ∃ content, SpellsContent texts content ∧ chars = content ++ ']' :: rest := by
  obtain ⟨before, noBefore, split⟩ := exists_blank_append_skipBlanks chars
  unfold readList at read
  split at read
  · cases read
  · next closed =>
      cases read
      exact ⟨before, .empty noBefore, by rw [split, closed]⟩
  · obtain ⟨content, spells, opened⟩ := exists_of_readItems read
    refine ⟨before ++ content, .items (spells.blank_append noBefore), ?_⟩
    rw [split, opened, List.append_assoc]

theorem readAll_eq_ok_iff {α : Type} {read : List Char → Outcome (α × List Char)} {text : String}
    {value : α} :
    readAll read text = .ok value ↔
      ∃ after, Blank after ∧ read text.toList = .ok (value, after) := by
  constructor
  · intro whole
    unfold readAll at whole
    split at whole
    · cases whole
    · next other after ran =>
        split at whole
        · next nothing =>
            cases whole
            obtain ⟨blanks, blank, split⟩ := exists_blank_append_skipBlanks after
            rw [nothing, List.append_nil] at split
            exact ⟨after, split ▸ blank, ran⟩
        · cases whole
  · intro ended
    obtain ⟨after, blank, ran⟩ := ended
    exact readAll_eq_ok blank ran

/-! ## Documents -/

/-- The texts that are read as a list of strings are its spellings. -/
theorem parseTexts_eq_ok_iff {texts : List String} {text : String} :
    parseTexts text = .ok texts ↔ SpellsList texts text.toList := by
  refine ⟨?_, parseTexts_spelled⟩
  intro parsed
  obtain ⟨after, noAfter, read⟩ := readAll_eq_ok_iff.1 parsed
  obtain ⟨before, noBefore, split⟩ := exists_blank_append_skipBlanks text.toList
  unfold readTextList at read
  split at read
  · cases read
  · next inside opened =>
      obtain ⟨content, spells, rfl⟩ := exists_of_readList read
      have list := SpellsList.mk noBefore spells noAfter
      rw [split, opened]
      simpa using list
  · exact absurd read refuse_ne_ok

/-- The text is an object with these members, as they stand there: keys may be repeated. -/
def Writes (text : String) (written : List (String × Json)) : Prop :=
  ∃ before inside after, Blank before ∧ Blank after ∧ text.toList = before ++ '\x7b' :: inside ∧
    readObject (readValue (maxDepth - 1)) inside = .ok (written, after)

theorem exists_of_readValue_object {depth : Nat} {members : List (String × Json)}
    (read : readValue (depth + 1) chars = .ok (.object members, rest)) :
    ∃ inside written, skipBlanks chars = '\x7b' :: inside ∧
      readObject (readValue depth) inside = .ok (written, rest) ∧
      members = Keyed.ofPairs written := by
  rw [readValue.eq_def] at read
  split at read
  · cases read
  case h_8 inside opened =>
    obtain ⟨⟨written, after⟩, readInside, same⟩ := Traversal.bind_eq_ok.1 read
    cases same
    exact ⟨inside, written, opened, readInside, rfl⟩
  case h_9 =>
    split at read
    · obtain ⟨_, _, same⟩ := Traversal.bind_eq_ok.1 read
      cases same
    · cases read
  all_goals
    obtain ⟨_, _, same⟩ := Traversal.bind_eq_ok.1 read
    cases same

/-- An object is read with its members, of a repeated key the first place and the last value. -/
theorem parse_eq_object_iff {text : String} {members : List (String × Json)} :
    parse text = .ok (.object members) ↔
      ∃ written, Writes text written ∧ members = Keyed.ofPairs written := by
  constructor
  · intro parsed
    obtain ⟨after, noAfter, read⟩ := readAll_eq_ok_iff.1 parsed
    obtain ⟨before, noBefore, split⟩ := exists_blank_append_skipBlanks text.toList
    obtain ⟨inside, written, opened, readInside, same⟩ := exists_of_readValue_object read
    exact ⟨written, ⟨before, inside, after, noBefore, noAfter, opened ▸ split, readInside⟩, same⟩
  · intro whole
    obtain ⟨written, ⟨before, inside, after, noBefore, noAfter, split, readInside⟩, rfl⟩ := whole
    refine readAll_eq_ok noAfter ?_
    rw [split, readValue_skip noBefore, maxDepth, readValue_brace]
    exact Traversal.bind_eq_ok.2 ⟨_, readInside, rfl⟩

end Listing.Json
