import Mathlib.Tactic.SplitIfs
import Listing.Json.Printer

set_option autoImplicit false

/-!
# Spellings of JSON objects

The texts that write an object of scalars, with blanks wherever they may stand and every way of
escaping a character. The compact text of an object is one of them.
-/

namespace Listing.Json

/-! ## Grammar -/

/-- Characters that may stand between the parts of a document. -/
def Blank (chars : List Char) : Prop :=
  ∀ char ∈ chars, char ∈ [' ', '\t', '\n', '\r']

theorem Blank.cases {chars : List Char} (blank : Blank chars) {char : Char}
    (member : char ∈ chars) : char = ' ' ∨ char = '\t' ∨ char = '\n' ∨ char = '\r' := by
  simpa using blank char member

/-- The letters that stand behind a backslash, each with the character that it stands for. -/
def shortEscapes : List (Char × Char) :=
  [('"', '"'), ('\\', '\\'), ('/', '/'), ('b', '\x08'), ('f', '\x0c'), ('n', '\n'), ('r', '\r'),
    ('t', '\t')]

/-- Four hexadecimal digits that write this number. -/
def IsCodeUnit (digits : List Char) (unit : Nat) : Prop :=
  digits.length = 4 ∧ Text.ofHex? digits = some unit

/-- The ways in which a character may stand in a string. -/
inductive SpellsChar : Char → List Char → Prop where
  | plain {char : Char} :
      char ≠ '"' → char ≠ '\\' → 0x20 ≤ char.toNat → SpellsChar char [char]
  | short {char letter : Char} :
      (letter, char) ∈ shortEscapes → SpellsChar char ['\\', letter]
  | numbered {char : Char} {digits : List Char} :
      IsCodeUnit digits char.toNat → SpellsChar char ('\\' :: 'u' :: digits)
  | pair {char : Char} {high low : List Char} :
      0x10000 ≤ char.toNat → IsCodeUnit high (0xD800 + (char.toNat - 0x10000) / 0x400) →
      IsCodeUnit low (0xDC00 + (char.toNat - 0x10000) % 0x400) →
      SpellsChar char ('\\' :: 'u' :: high ++ '\\' :: 'u' :: low)

/-- The ways in which a text may stand between quotes. -/
inductive SpellsText : List Char → List Char → Prop where
  | nil : SpellsText [] []
  | cons {char : Char} {rest spelled more : List Char} :
      SpellsChar char spelled → SpellsText rest more → SpellsText (char :: rest) (spelled ++ more)

/-- The ways in which a value may be given: as a string, or bare if it is the decimal text of an
integer of 64 bits or the name of a truth value. -/
inductive SpellsScalar : String → List Char → Prop where
  | string {value : String} {spelled : List Char} :
      SpellsText value.toList spelled → SpellsScalar value ('"' :: spelled ++ ['"'])
  | integer {number : Int} :
      Int64.minValue.toInt ≤ number → number < UInt64.size →
      SpellsScalar (toString number) (toString number).toList
  | bool {value : Bool} : SpellsScalar (toString value) (toString value).toList

/-- A field, a colon and a value, with blanks around each. -/
inductive SpellsMember : String × String → List Char → Prop where
  | mk {field value : String} {before key behind ahead spelled after : List Char} :
      Blank before → SpellsText field.toList key → Blank behind → Blank ahead →
      SpellsScalar value spelled → Blank after →
      SpellsMember (field, value)
        (before ++ '"' :: key ++ '"' :: behind ++ ':' :: ahead ++ spelled ++ after)

/-- Members with a comma between each and the next. -/
inductive SpellsMembers : List (String × String) → List Char → Prop where
  | last {pair : String × String} {spelled : List Char} :
      SpellsMember pair spelled → SpellsMembers [pair] spelled
  | more {pair : String × String} {pairs : List (String × String)} {spelled rest : List Char} :
      SpellsMember pair spelled → SpellsMembers pairs rest →
      SpellsMembers (pair :: pairs) (spelled ++ ',' :: rest)

/-- An object whose members are these fields and values in this order. -/
inductive SpellsObject : List (String × String) → List Char → Prop where
  | empty {before inside after : List Char} :
      Blank before → Blank inside → Blank after →
      SpellsObject [] (before ++ '\x7b' :: inside ++ '\x7d' :: after)
  | members {pairs : List (String × String)} {before spelled after : List Char} :
      Blank before → SpellsMembers pairs spelled → Blank after →
      SpellsObject pairs (before ++ '\x7b' :: spelled ++ '\x7d' :: after)

/-! ## Printing -/

theorem blank_nil : Blank [] := by
  intro char member
  cases member

private theorem isCodeUnit_control {code : Nat} (small : code < 0x20) :
    IsCodeUnit ['0', '0', Text.hexDigit (code / 16), Text.hexDigit (code % 16)] code := by
  have all : ∀ code, code < 0x20 →
      Text.ofHex? ['0', '0', Text.hexDigit (code / 16), Text.hexDigit (code % 16)] = some code := by
    decide
  exact ⟨rfl, all code small⟩

theorem spellsChar_escapeChar (char : Char) : SpellsChar char (escapeChar char) := by
  unfold escapeChar
  split_ifs with quote backslash backspace tab newline feed carriage control
  · exact .short (by rw [quote]; decide)
  · exact .short (by rw [backslash]; decide)
  · exact .short (by rw [backspace]; decide)
  · exact .short (by rw [tab]; decide)
  · exact .short (by rw [newline]; decide)
  · exact .short (by rw [feed]; decide)
  · exact .short (by rw [carriage]; decide)
  · exact .numbered (isCodeUnit_control control)
  · exact .plain quote backslash (Nat.le_of_not_lt control)

theorem spellsText_escape (text : List Char) : SpellsText text (text.flatMap escapeChar) := by
  induction text with
  | nil => exact .nil
  | cons char rest ih =>
      rw [List.flatMap_cons]
      exact .cons (spellsChar_escapeChar char) ih

def strings (pairs : List (String × String)) : List (String × Json) :=
  pairs.map fun pair => (pair.1, .string pair.2)

theorem spellsMember_print (pair : String × String) :
    SpellsMember pair (printString pair.1 ++ ':' :: printString pair.2) := by
  have member := SpellsMember.mk blank_nil (spellsText_escape pair.1.toList) blank_nil blank_nil
    (SpellsScalar.string (spellsText_escape pair.2.toList)) blank_nil
  simpa [printString] using member

theorem spellsMembers_print (pair : String × String) (pairs : List (String × String)) :
    ∃ spelled, SpellsMembers (pair :: pairs) spelled ∧
      printString pair.1 ++ ':' :: printString pair.2 ++ printMembers (strings pairs) =
        spelled ++ ['\x7d'] := by
  induction pairs generalizing pair with
  | nil => exact ⟨_, .last (spellsMember_print pair), by rw [strings, List.map_nil, printMembers]⟩
  | cons next rest ih =>
      obtain ⟨spelled, members, same⟩ := ih next
      refine ⟨_, .more (spellsMember_print pair) members, ?_⟩
      rw [strings, List.map_cons, printMembers, print, ← strings]
      have appended := congrArg
        (fun tail => printString pair.1 ++ ':' :: printString pair.2 ++ ',' :: tail) same
      simpa using appended

/-- The compact text of an object of strings is one of its spellings. -/
theorem spellsObject_compact (pairs : List (String × String)) :
    SpellsObject pairs (compact (.object (strings pairs))).toList := by
  rw [compact, String.toList_ofList]
  cases pairs with
  | nil =>
      rw [strings, List.map_nil, print]
      exact .empty blank_nil blank_nil blank_nil
  | cons pair pairs =>
      obtain ⟨spelled, members, same⟩ := spellsMembers_print pair pairs
      have object := SpellsObject.members blank_nil members blank_nil
      rw [strings, List.map_cons, print, print, ← strings]
      simpa [← same] using object

end Listing.Json
