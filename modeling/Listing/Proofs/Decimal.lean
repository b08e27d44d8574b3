import Listing.Decimal.Reader
import Mathlib.Data.Nat.Digits.Defs

set_option autoImplicit false

/-!
# Decimal digits of a number

The digits of a natural number are digits, do not begin with a zero that could be left out, and
write the number again. Numerals may begin with zeros, and a text is read as an integer exactly if
it is a numeral of that integer.
-/

namespace Listing.Decimal

theorem isDigit_eq (char : Char) : isDigit char = char.isDigit := rfl

theorem isDigit_of_mem_toDigits {number : Nat} {char : Char}
    (member : char ∈ Nat.toDigits 10 number) : isDigit char = true := by
  rw [isDigit_eq]
  exact Nat.isDigit_of_mem_toDigits (by decide) (by decide) member

theorem foldl_digits_eq (digits : List Char) (amount : Nat) :
    digits.foldl (fun number digit => number * 10 + digitValue digit) amount =
      Nat.ofDigitChars 10 digits amount := by
  induction digits generalizing amount with
  | nil => rfl
  | cons digit rest ih =>
      rw [List.foldl_cons, ih, Nat.ofDigitChars_cons, Nat.mul_comm amount 10]
      rfl

theorem ofDigits_toDigits (number : Nat) : ofDigits (Nat.toDigits 10 number) = number := by
  rw [ofDigits, foldl_digits_eq, Nat.ofDigitChars_ten_toDigits]

theorem head?_toDigits_ne_zero {number : Nat} (positive : 0 < number) :
    (Nat.toDigits 10 number).head? ≠ some '0' := by
  induction number using Nat.strongRecOn with
  | ind number ih =>
      by_cases small : number < 10
      · have single : ∀ digit, digit < 10 → 0 < digit → digit.digitChar ≠ '0' := by decide
        rw [Nat.toDigits_of_lt_base small, List.head?_cons]
        exact fun same => single number small positive (Option.some.inj same)
      · have shorter := ih (number / 10) (Nat.div_lt_self positive (by decide))
          (Nat.div_pos (Nat.le_of_not_lt small) (by decide))
        rw [Nat.toDigits_of_base_le (by decide) (Nat.le_of_not_lt small), List.head?_append]
        cases first : (Nat.toDigits 10 (number / 10)).head? with
        | none => exact absurd (List.head?_eq_none_iff.1 first) Nat.toDigits_ne_nil
        | some digit => rwa [first] at shorter

/-- A zero stands first in the digits of a number only if it stands alone. -/
theorem toDigits_ne_zero_cons (number : Nat) (next : Char) (more : List Char) :
    Nat.toDigits 10 number ≠ '0' :: next :: more := by
  intro digits
  cases number with
  | zero => rw [Nat.toDigits_zero] at digits; cases digits
  | succ number =>
      apply head?_toDigits_ne_zero (Nat.succ_pos number)
      rw [digits, List.head?_cons]

/-! ## Numerals -/

/-- The characters are the digits of the number in base ten. Zeros may come first. -/
def Writes (chars : List Char) (number : Nat) : Prop :=
  ∃ digits : List Nat, digits ≠ [] ∧ (∀ digit ∈ digits, digit < 10) ∧
    chars = (digits.map Nat.digitChar).reverse ∧ number = Nat.ofDigits 10 digits

/-- Digits with an optional plus. -/
inductive WritesUnsigned : List Char → Nat → Prop where
  | bare {digits : List Char} {number : Nat} :
      Writes digits number → WritesUnsigned digits number
  | plus {digits : List Char} {number : Nat} :
      Writes digits number → WritesUnsigned ('+' :: digits) number

/-- Digits with an optional sign. -/
inductive WritesSigned : List Char → Int → Prop where
  | unsigned {chars : List Char} {number : Nat} :
      WritesUnsigned chars number → WritesSigned chars number
  | minus {digits : List Char} {number : Nat} :
      Writes digits number → WritesSigned ('-' :: digits) (-number)

theorem isDigit_digitChar : ∀ digit < 10, isDigit (Nat.digitChar digit) = true := by
  decide

theorem digitValue_digitChar : ∀ digit < 10, digitValue (Nat.digitChar digit) = digit := by
  decide

theorem digitChar_digitValue {char : Char} (digit : isDigit char = true) :
    digitValue char < 10 ∧ Nat.digitChar (digitValue char) = char := by
  simp only [isDigit, Bool.and_eq_true, decide_eq_true_eq] at digit
  have low : 48 ≤ char.toNat := digit.1
  have high : char.toNat ≤ 57 := digit.2
  have small : digitValue char < 10 := by
    show char.toNat - 48 < 10
    omega
  refine ⟨small, Char.toNat_inj.1 ?_⟩
  rw [Nat.toNat_digitChar_of_lt_ten small]
  show 48 + (char.toNat - 48) = char.toNat
  omega

theorem ofDigits_concat (digits : List Char) (last : Char) :
    ofDigits (digits ++ [last]) = ofDigits digits * 10 + digitValue last := by
  rw [ofDigits, List.foldl_append]
  rfl

theorem ofDigits_reverse_map {digits : List Nat} (small : ∀ digit ∈ digits, digit < 10) :
    ofDigits (digits.map Nat.digitChar).reverse = Nat.ofDigits 10 digits := by
  induction digits with
  | nil => rfl
  | cons digit rest ih =>
      have restSmall := fun other member => small other (List.mem_cons_of_mem digit member)
      rw [List.map_cons, List.reverse_cons, ofDigits_concat, ih restSmall,
        digitValue_digitChar digit (small digit List.mem_cons_self), Nat.ofDigits_cons]
      exact (Nat.add_comm _ _).trans (congrArg _ (Nat.mul_comm _ _))

theorem exists_digits {chars : List Char} (numeral : ∀ char ∈ chars, isDigit char = true) :
    ∃ digits : List Nat, (∀ digit ∈ digits, digit < 10) ∧
      chars = (digits.map Nat.digitChar).reverse := by
  refine ⟨(chars.map digitValue).reverse, ?_, ?_⟩
  · intro digit member
    obtain ⟨char, listed, rfl⟩ := List.mem_map.1 (List.mem_reverse.1 member)
    exact (digitChar_digitValue (numeral char listed)).1
  · rw [List.map_reverse, List.reverse_reverse, List.map_map]
    have same := List.map_congr_left fun char listed =>
      (digitChar_digitValue (numeral char listed)).2
    exact ((same : chars.map (Nat.digitChar ∘ digitValue) = chars.map id).trans
      (List.map_id chars)).symm

theorem natural?_eq_some_iff {chars : List Char} {number : Nat} :
    natural? chars = some number ↔ Writes chars number := by
  unfold natural?
  constructor
  · intro read
    split at read
    · next numeral =>
        obtain ⟨present, allDigits⟩ := numeral
        obtain ⟨digits, small, rfl⟩ := exists_digits (List.all_eq_true.1 allDigits)
        cases read
        exact ⟨digits, by simpa using present, small, rfl, ofDigits_reverse_map small⟩
    · cases read
  · intro written
    obtain ⟨digits, present, small, rfl, rfl⟩ := written
    have numeral : (digits.map Nat.digitChar).reverse ≠ [] ∧
        (digits.map Nat.digitChar).reverse.all isDigit = true := by
      refine ⟨by simpa using present, ?_⟩
      simpa using fun digit member => isDigit_digitChar digit (small digit member)
    rw [if_pos numeral, ofDigits_reverse_map small]

theorem Writes.isDigit {chars : List Char} {number : Nat} (written : Writes chars number) :
    ∀ char ∈ chars, isDigit char = true := by
  obtain ⟨digits, -, small, rfl, -⟩ := written
  intro char member
  obtain ⟨digit, listed, rfl⟩ := List.mem_map.1 (List.mem_reverse.1 member)
  exact isDigit_digitChar digit (small digit listed)

theorem unsigned?_eq_some_iff {text : String} {number : Nat} :
    unsigned? text = some number ↔ WritesUnsigned text.toList number := by
  unfold unsigned?
  split
  · next digits chars =>
      rw [natural?_eq_some_iff, chars]
      refine ⟨.plus, fun written => ?_⟩
      cases written with
      | bare bare => cases bare.isDigit '+' List.mem_cons_self
      | plus written => exact written
  · next chars noPlus =>
      rw [natural?_eq_some_iff]
      refine ⟨.bare, fun written => ?_⟩
      generalize text.toList = chars at noPlus written
      cases written with
      | bare bare => exact bare
      | plus written => exact absurd rfl (noPlus _)

theorem WritesUnsigned.not_minus {chars rest : List Char} {number : Nat}
    (written : WritesUnsigned chars number) : chars ≠ '-' :: rest := by
  intro same
  subst same
  cases written with
  | bare bare => cases bare.isDigit '-' List.mem_cons_self

theorem integer?_eq (text : String) :
    integer? text =
      match text.toList with
      | '-' :: digits => (natural? digits).map fun number : Nat => -(number : Int)
      | _ => (unsigned? text).map fun number : Nat => (number : Int) := by
  unfold integer? unsigned?
  generalize text.toList = chars
  fun_cases takeSign chars <;> simp [Option.map_eq_bind, Option.bind_assoc]

theorem integer?_eq_some_iff {text : String} {number : Int} :
    integer? text = some number ↔ WritesSigned text.toList number := by
  rw [integer?_eq]
  split
  · next digits chars =>
      simp only [Option.map_eq_some_iff, natural?_eq_some_iff, chars]
      constructor
      · intro read
        obtain ⟨_, written, rfl⟩ := read
        exact .minus written
      · intro signed
        cases signed with
        | unsigned written => exact absurd rfl written.not_minus
        | minus written => exact ⟨_, written, rfl⟩
  · next noMinus =>
      simp only [Option.map_eq_some_iff, unsigned?_eq_some_iff]
      generalize text.toList = chars at noMinus
      constructor
      · intro read
        obtain ⟨_, written, rfl⟩ := read
        exact .unsigned written
      · intro signed
        cases signed with
        | unsigned written => exact ⟨_, written, rfl⟩
        | minus => exact absurd rfl (noMinus _)

end Listing.Decimal
