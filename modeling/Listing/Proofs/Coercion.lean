import Listing.Proofs.Decimal
import Listing.Proofs.Resource

set_option autoImplicit false

/-!
# Integers in requests

What a text of a request becomes in a column of integers: the number that it writes, as long as the
type of the column holds this number, and otherwise the text itself.
-/

namespace Listing

namespace Value

/-- The text writes the number, and the type of such a column holds it. -/
inductive Denotes : Kind → String → Int → Prop where
  | signed {raw : String} {number : Int} :
      Decimal.WritesSigned raw.toList number → -2 ^ 63 ≤ number → number ≤ 2 ^ 63 - 1 →
      Denotes .signed raw number
  | unsigned {raw : String} {number : Nat} :
      Decimal.WritesUnsigned raw.toList number → number ≤ 2 ^ 64 - 1 →
      Denotes .unsigned raw number

/-- The value is the number in the type of such a column. -/
inductive Holds : Kind → Value → Int → Prop where
  | signed (word : Int64) : Holds .signed (.int64 word) word.toInt
  | unsigned (word : UInt64) : Holds .unsigned (.uint64 word) word.toNat

variable {kind : Kind} {raw : String}

theorem ofSigned?_eq_some_iff {number : Int} {value : Value} :
    ofSigned? number = some value ↔
      ∃ word : Int64, value = .int64 word ∧ word.toInt = number := by
  unfold ofSigned?
  split
  · next fits =>
      have word : (Int64.ofInt number).toInt = number :=
        Int64.toInt_ofInt_of_le fits.1 (Int.lt_of_le_sub_one fits.2)
      constructor
      · intro same
        cases same
        exact ⟨_, rfl, word⟩
      · intro held
        obtain ⟨other, rfl, rfl⟩ := held
        rw [Int64.ofInt_toInt]
  · next outside =>
      refine iff_of_false nofun ?_
      intro held
      obtain ⟨word, -, rfl⟩ := held
      exact outside ⟨word.minValue_le_toInt, word.toInt_le⟩

theorem ofUnsigned?_eq_some_iff {number : Nat} {value : Value} :
    ofUnsigned? number = some value ↔
      ∃ word : UInt64, value = .uint64 word ∧ word.toNat = number := by
  unfold ofUnsigned?
  split
  · next fits =>
      have word : (UInt64.ofNat number).toNat = number := UInt64.toNat_ofNat_of_lt' fits
      constructor
      · intro same
        cases same
        exact ⟨_, rfl, word⟩
      · intro held
        obtain ⟨other, rfl, rfl⟩ := held
        rw [UInt64.ofNat_toNat]
  · next outside =>
      refine iff_of_false nofun ?_
      intro held
      obtain ⟨word, -, rfl⟩ := held
      exact outside word.toNat_lt

theorem Denotes.unique {first second : Int} (one : Denotes kind raw first)
    (other : Denotes kind raw second) : first = second := by
  cases one with
  | signed written _ _ =>
      cases other with
      | signed again _ _ =>
          have read := Decimal.integer?_eq_some_iff.2 written
          rw [Decimal.integer?_eq_some_iff.2 again] at read
          cases read
          rfl
  | unsigned written _ =>
      cases other with
      | unsigned again _ =>
          have read := Decimal.unsigned?_eq_some_iff.2 written
          rw [Decimal.unsigned?_eq_some_iff.2 again] at read
          cases read
          rfl

theorem Holds.unique {value : Value} {first second : Int} (one : Holds kind value first)
    (other : Holds kind value second) : first = second := by
  cases one <;> cases other <;> rfl

theorem Holds.exists_word {value : Value} {number : Nat} (holds : Holds .unsigned value number) :
    ∃ word : UInt64, value = .uint64 word ∧ word.toNat = number := by
  generalize same : (number : Int) = written at holds
  cases holds with
  | unsigned word => exact ⟨word, rfl, (Int.ofNat.inj same).symm⟩

theorem Holds.value_eq {first second : Value} {number : Int} (one : Holds kind first number)
    (other : Holds kind second number) : first = second := by
  cases one with
  | signed word =>
      generalize same : word.toInt = number at other
      cases other with
      | signed again => rw [Int64.toInt_inj.1 same]
  | unsigned word =>
      obtain ⟨again, rfl, same⟩ := other.exists_word
      rw [UInt64.toNat_inj.1 same]

theorem Denotes.exists_holds {number : Int} (denotes : Denotes kind raw number) :
    ∃ value, Holds kind value number := by
  cases denotes with
  | signed _ low high =>
      have holds := Holds.signed (Int64.ofInt number)
      rw [Int64.toInt_ofInt_of_le low (Int.lt_of_le_sub_one high)] at holds
      exact ⟨_, holds⟩
  | @unsigned _ natural _ high =>
      have holds := Holds.unsigned (UInt64.ofNat natural)
      rw [UInt64.toNat_ofNat_of_lt' (Nat.lt_of_le_pred (by decide) high)] at holds
      exact ⟨_, holds⟩

theorem ofText?_eq_some_iff (integral : kind = .signed ∨ kind = .unsigned) {value : Value} :
    ofText? kind raw = some value ↔
      ∃ number, Denotes kind raw number ∧ Holds kind value number := by
  rcases integral with rfl | rfl
  · simp only [ofText?, Option.bind_eq_some_iff, ofSigned?_eq_some_iff,
      Decimal.integer?_eq_some_iff]
    constructor
    · intro read
      obtain ⟨_, written, word, rfl, rfl⟩ := read
      exact ⟨_, .signed written word.le_toInt (Int.le_sub_one_of_lt word.toInt_lt), .signed word⟩
    · intro denoted
      obtain ⟨_, ⟨written, _, _⟩, ⟨word⟩⟩ := denoted
      exact ⟨_, written, word, rfl, rfl⟩
  · simp only [ofText?, Option.bind_eq_some_iff, ofUnsigned?_eq_some_iff,
      Decimal.unsigned?_eq_some_iff]
    constructor
    · intro read
      obtain ⟨_, written, word, rfl, rfl⟩ := read
      exact ⟨_, .unsigned written (Nat.le_pred_of_lt word.toNat_lt), .unsigned word⟩
    · intro denoted
      obtain ⟨_, denotes, holds⟩ := denoted
      cases denotes with
      | unsigned written _ =>
          obtain ⟨word, rfl, same⟩ := holds.exists_word
          exact ⟨_, written, word, rfl, same⟩

theorem holds_coerce_iff {column : Column}
    (integral : column.kind = .signed ∨ column.kind = .unsigned) {number : Int} :
    Holds column.kind (coerce column raw) number ↔ Denotes column.kind raw number := by
  cases read : ofText? column.kind raw with
  | some value =>
      obtain ⟨written, denotes, holds⟩ := (ofText?_eq_some_iff integral).1 read
      rw [coerce, read, Option.getD_some]
      constructor
      · intro again
        rwa [again.unique holds]
      · intro again
        rwa [again.unique denotes]
  | none =>
      rw [coerce, read, Option.getD_none]
      constructor
      · generalize column.kind = kind
        nofun
      · intro denotes
        obtain ⟨value, holds⟩ := denotes.exists_holds
        rw [(ofText?_eq_some_iff integral).2 ⟨number, denotes, holds⟩] at read
        cases read

theorem coerce_of_not_denotes {column : Column}
    (integral : column.kind = .signed ∨ column.kind = .unsigned)
    (outside : ∀ number, ¬ Denotes column.kind raw number) : coerce column raw = .text raw := by
  have unread : ofText? column.kind raw = none := by
    rw [Option.eq_none_iff_forall_ne_some]
    intro value read
    obtain ⟨number, denotes, -⟩ := (ofText?_eq_some_iff integral).1 read
    exact outside number denotes
  rw [coerce, unread, Option.getD_none]

end Value

namespace Constraint

/-- The values with which a constraint compares its column. -/
def bound : Constraint → List Value
  | .equality _ _ value => [value]
  | .inclusion _ _ values => values
  | .custom .. => []

theorem exists_ofEntry_bound {fields : FieldSet} {filters : CustomFilters} {field : String}
    {column : Column} (custom : filters.get? field = none)
    (plain : fields.column? field = some column) (wanted : List String) :
    ∃ constraint, ofEntry fields filters (field, wanted) = .ok constraint ∧
      constraint.bound = wanted.map (Value.coerce column) := by
  simp only [ofEntry, custom, plain]
  split
  · exact ⟨_, rfl, rfl⟩
  · exact ⟨_, rfl, rfl⟩

end Constraint

namespace Value

/-- A column of integers is compared with the number that a wanted value writes, if its type holds
this number, and with the wanted value itself otherwise. No number is wrapped or cut off, so the
numbers that are bound tell apart what the values write. -/
theorem coerce_integral {column : Column}
    (integral : column.kind = .signed ∨ column.kind = .unsigned) :
    (∀ raw number, Holds column.kind (coerce column raw) number ↔
      Denotes column.kind raw number) ∧
    (∀ raw, (∀ number, ¬ Denotes column.kind raw number) → coerce column raw = .text raw) ∧
    (∀ first second number other, Denotes column.kind first number →
      Denotes column.kind second other →
      (coerce column first = coerce column second ↔ number = other)) ∧
    ∀ (fields : FieldSet) (filters : CustomFilters) field wanted, filters.get? field = none →
      fields.column? field = some column →
      ∃ constraint, Constraint.ofEntry fields filters (field, wanted) = .ok constraint ∧
        constraint.bound = wanted.map (coerce column) := by
  refine ⟨fun raw number => holds_coerce_iff integral,
    fun raw outside => coerce_of_not_denotes integral outside, ?_,
    fun fields filters field wanted custom plain =>
      Constraint.exists_ofEntry_bound custom plain wanted⟩
  intro first second number other denotes otherDenotes
  have holds := (holds_coerce_iff integral).2 denotes
  have otherHolds := (holds_coerce_iff integral).2 otherDenotes
  constructor
  · intro same
    exact (same ▸ holds).unique otherHolds
  · intro same
    subst same
    exact holds.value_eq otherHolds

end Value

def Members.visitsColumn : Column := ⟨"members", "visits", .unsigned⟩

/-- At either end of a type the last number is bound, and the next one is a text. -/
theorem Value.coerce_integral_members :
    Members.idColumn.kind = .signed ∧ Members.visitsColumn.kind = .unsigned ∧
      coerce Members.idColumn "-009223372036854775808" = .int64 Int64.minValue ∧
      coerce Members.idColumn "9223372036854775808" = .text "9223372036854775808" ∧
      coerce Members.visitsColumn "+7" = coerce Members.visitsColumn "007" ∧
      coerce Members.visitsColumn "-0" = .text "-0" ∧
      ∃ constraint, Constraint.ofEntry (.all Members.entity) Members.resource.filters
          ("id", ["-0", "9223372036854775807"]) = .ok constraint ∧
        constraint.bound = [.int64 0, .int64 Int64.maxValue] := by
  obtain ⟨numbers, texts, -, binds⟩ :=
    coerce_integral (.inl rfl : Members.idColumn.kind = .signed ∨ _)
  obtain ⟨-, plainTexts, same, -⟩ :=
    coerce_integral (.inr rfl : _ ∨ Members.visitsColumn.kind = .unsigned)
  refine ⟨rfl, rfl, ?_, ?_, ?_, ?_,
    binds (.all Members.entity) Members.resource.filters "id" _ rfl rfl⟩
  · have least : Denotes Members.idColumn.kind "-009223372036854775808" (-2 ^ 63) :=
      .signed (Decimal.integer?_eq_some_iff.1 rfl) (by decide) (by decide)
    exact ((numbers _ _).2 least).value_eq (.signed Int64.minValue)
  · refine texts _ fun number written => ?_
    cases written with
    | signed written _ high =>
        cases Decimal.integer?_eq_some_iff.2 written
        exact absurd high (by decide)
  · have seven (raw : String) (read : Decimal.unsigned? raw = some 7) :
        Denotes Members.visitsColumn.kind raw 7 :=
      .unsigned (Decimal.unsigned?_eq_some_iff.1 read) (by decide)
    exact (same _ _ 7 7 (seven "+7" rfl) (seven "007" rfl)).2 rfl
  · refine plainTexts _ fun number written => ?_
    cases written with
    | unsigned written _ => cases Decimal.unsigned?_eq_some_iff.2 written

end Listing
