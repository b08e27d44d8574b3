import Listing.Description
import Listing.Proofs.Json.Reading

set_option autoImplicit false

/-!
# Lists of strings

The texts that write a list of strings, and that reading them gives the strings back.
-/

namespace Listing.Json

/-! ## Grammar -/

inductive SpellsItem : String → List Char → Prop where
  | mk {text : String} {before spelled after : List Char} :
      Blank before → SpellsText text.toList spelled → Blank after →
      SpellsItem text (before ++ '"' :: spelled ++ '"' :: after)

/-- Strings with a comma between each and the next. -/
inductive SpellsItems : List String → List Char → Prop where
  | last {text : String} {spelled : List Char} :
      SpellsItem text spelled → SpellsItems [text] spelled
  | more {text : String} {texts : List String} {spelled rest : List Char} :
      SpellsItem text spelled → SpellsItems texts rest →
      SpellsItems (text :: texts) (spelled ++ ',' :: rest)

/-- What stands between the brackets of a list. -/
inductive SpellsContent : List String → List Char → Prop where
  | empty {inside : List Char} : Blank inside → SpellsContent [] inside
  | items {texts : List String} {spelled : List Char} :
      SpellsItems texts spelled → SpellsContent texts spelled

/-- A list of these strings in this order. -/
inductive SpellsList : List String → List Char → Prop where
  | mk {texts : List String} {before content after : List Char} :
      Blank before → SpellsContent texts content → Blank after →
      SpellsList texts (before ++ '[' :: content ++ ']' :: after)

/-! ## Printing -/

theorem spellsItem_print (text : String) : SpellsItem text (printString text) := by
  have item := SpellsItem.mk blank_nil (spellsText_escape text.toList) blank_nil
  simpa [printString] using item

theorem spellsItems_print (text : String) (texts : List String) :
    ∃ spelled, SpellsItems (text :: texts) spelled ∧
      printString text ++ printItems (texts.map .string) = spelled ++ [']'] := by
  induction texts generalizing text with
  | nil => exact ⟨_, .last (spellsItem_print text), by rw [List.map_nil, printItems]⟩
  | cons next rest ih =>
      obtain ⟨spelled, items, same⟩ := ih next
      refine ⟨_, .more (spellsItem_print text) items, ?_⟩
      rw [List.map_cons, printItems, print, List.cons_append, same, List.append_assoc,
        List.cons_append]

/-- The compact text of a list of strings is one of its spellings. -/
theorem spellsList_compact (texts : List String) :
    SpellsList texts (compact (ofTexts texts)).toList := by
  rw [compact, String.toList_ofList, ofTexts]
  cases texts with
  | nil =>
      rw [List.map_nil, print]
      exact .mk blank_nil (.empty blank_nil) blank_nil
  | cons text texts =>
      obtain ⟨spelled, items, same⟩ := spellsItems_print text texts
      have list := SpellsList.mk blank_nil (.items items) blank_nil
      rw [List.map_cons, print, print, List.cons_append, same]
      simpa using list

/-! ## Reading -/

theorem readText_quote (rest : List Char) :
    readText ('"' :: rest) =
      (readString rest >>= fun read => .ok (String.ofList read.1, read.2)) := by
  rw [readText, skipBlanks_cons rfl]
  rfl

/-- A spelled string is read up to the mark behind it, which ends the list or begins the next
string. -/
theorem readText_spelled {text : String} {spelled : List Char} (spells : SpellsItem text spelled)
    {mark : Char} (visible : isBlankChar mark = false) (rest : List Char) :
    ∃ tail after, skipBlanks (spelled ++ mark :: rest) = '"' :: tail ∧
      readText ('"' :: tail) = .ok (text, after) ∧ skipBlanks after = mark :: rest ∧
      rest.length < tail.length := by
  cases spells with
  | @mk before spelled after noBefore spells noAfter =>
      refine ⟨spelled ++ '"' :: (after ++ mark :: rest), after ++ mark :: rest, ?_, ?_,
        skipBlanks_append_cons noAfter visible rest, ?_⟩
      · have quote : isBlankChar '"' = false := rfl
        have opened := skipBlanks_append_cons noBefore quote
          (spelled ++ '"' :: (after ++ mark :: rest))
        simpa using opened
      · rw [readText_quote, readString_text spells]
        simp only [bind, Except.bind, String.ofList_toList]
      · simp only [List.length_append, List.length_cons]
        omega

theorem readItems_spelled {texts : List String} {spelled : List Char}
    (spells : SpellsItems texts spelled) (rest : List Char) :
    ∃ tail, skipBlanks (spelled ++ ']' :: rest) = '"' :: tail ∧ texts.length ≤ tail.length ∧
      ∀ rounds, texts.length ≤ rounds →
        readItems readText rounds ('"' :: tail) = .ok (texts, rest) := by
  induction spells with
  | @last text spelled item =>
      obtain ⟨tail, after, opened, read, closed, shorter⟩ :=
        readText_spelled item (show isBlankChar ']' = false from rfl) rest
      refine ⟨tail, opened, ?_, ?_⟩
      · simp only [List.length_singleton]
        omega
      · intro rounds enough
        cases rounds with
        | zero => cases enough
        | succ rounds =>
            rw [readItems, read]
            simp only [bind, Except.bind, closed]
  | @more text texts spelled others item _ ih =>
      obtain ⟨next, nextOpened, long, readNext⟩ := ih
      obtain ⟨tail, after, opened, read, closed, shorter⟩ :=
        readText_spelled item (show isBlankChar ',' = false from rfl) (others ++ ']' :: rest)
      have nextShorter : ('"' :: next).length ≤ (others ++ ']' :: rest).length := by
        exact nextOpened ▸ length_skipBlanks_le _
      refine ⟨tail, by simpa using opened, ?_, ?_⟩
      · simp only [List.length_cons] at nextShorter ⊢
        omega
      · intro rounds enough
        cases rounds with
        | zero => cases enough
        | succ rounds =>
            have continued := readNext rounds (Nat.le_of_succ_le_succ enough)
            rw [readItems, read]
            simp only [bind, Except.bind, closed, nextOpened]
            exact congrArg (Except.bind · fun read => .ok (text :: read.1, read.2)) continued

theorem readList_spelled {texts : List String} {content : List Char}
    (spells : SpellsContent texts content) (rest : List Char) :
    readList readText (content ++ ']' :: rest) = .ok (texts, rest) := by
  cases spells with
  | empty blank =>
      rw [readList, skipBlanks_append_cons blank rfl]
      rfl
  | items spells =>
      obtain ⟨tail, opened, long, read⟩ := readItems_spelled spells rest
      rw [readList, opened]
      exact read _ (Nat.le_succ_of_le long)

/-- Every spelling of a list of strings is read as these strings. -/
theorem parseTexts_spelled {texts : List String} {text : String}
    (spells : SpellsList texts text.toList) : parseTexts text = .ok texts := by
  generalize written : text.toList = chars at spells
  cases spells with
  | @mk before content after noBefore spells noAfter =>
      refine readAll_eq_ok noAfter ?_
      rw [written, List.append_assoc, List.cons_append, readTextList,
        skipBlanks_append_cons noBefore rfl]
      exact readList_spelled spells after

end Listing.Json
