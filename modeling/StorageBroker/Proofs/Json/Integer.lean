import StorageBroker.Json.Numeral
import StorageBroker.Proofs.Text.Numeral

/-!
# Integers as numerals

The decimal of an integer is read as a numeral without fraction and exponent, up to what stands
behind a value in a text (`Numeral.read_toString`), so no two integers have the same decimal. The value
of this numeral is the integer, if it fits 64 bits (`Numeral.value?_ofInteger`).
-/

set_option autoImplicit false

namespace StorageBroker.Json

/-- What may stand behind a value without space: nothing, a comma, or what closes an array or an
object. -/
def Delimited (rest : List Char) : Prop :=
  ∀ character ∈ rest.head?, character = ',' ∨ character = ']' ∨ character = '\x7d'

namespace Numeral

variable {digits rest : List Char} {value : Int}

/-- No part of a numeral goes on behind it. -/
theorem isDigit_of_delimited (delimited : Delimited rest) :
    ∀ character ∈ rest.head?, character.isDigit = false := by
  intro character first
  rcases delimited character first with rfl | rfl | rfl <;> rfl

theorem spanDigits_append (all : ∀ character ∈ digits, character.isDigit = true)
    (delimited : Delimited rest) : spanDigits (digits ++ rest) = (digits, rest) := by
  have none : rest.takeWhile Char.isDigit = [] ∧ rest.dropWhile Char.isDigit = rest := by
    cases rest with
    | nil => exact ⟨rfl, rfl⟩
    | cons character rest =>
      have other := isDigit_of_delimited delimited character rfl
      simp [other]
  rw [spanDigits, List.takeWhile_append_of_pos all, List.dropWhile_append_of_pos all, none.1,
    none.2, List.append_nil]

theorem isDigit_of_mem_toDigits {number : Nat} {character : Char}
    (among : character ∈ Nat.toDigits 10 number) : character.isDigit = true :=
  Nat.isDigit_of_mem_toDigits (by decide) (by decide) among

/-- No zero leads the decimal digits of a number, unless it is zero. -/
theorem toDigits_ne_zero_cons (number : Nat) (second : Char) (others : List Char) :
    Nat.toDigits 10 number ≠ '0' :: second :: others := by
  intro same
  have all : ∀ character ∈ second :: others, character.isDigit = true := by
    intro character among
    have inside : character ∈ Nat.toDigits 10 number := by
      rw [same]
      exact List.mem_cons_of_mem _ among
    exact isDigit_of_mem_toDigits inside
  have value : Nat.ofDigitChars 10 (second :: others) 0 = number := by
    have whole := Nat.ofDigitChars_ten_toDigits (n := number)
    rw [same, Nat.ofDigitChars_cons] at whole
    exact whole
  rcases Nat.eq_zero_or_pos number with rfl | positive
  · cases same
  · obtain ⟨zeros, spelled⟩ := Text.Numeral.exists_zeros all (value.symm ▸ positive)
    have longer := congrArg List.length spelled
    rw [value, same] at longer
    simp at longer
    omega

theorem readWhole_toDigits (number : Nat) (delimited : Delimited rest) :
    readWhole (Nat.toDigits 10 number ++ rest) = some (Nat.toDigits 10 number, rest) := by
  rw [readWhole, spanDigits_append (fun _ => isDigit_of_mem_toDigits) delimited]
  split
  · next nothing => exact absurd (congrArg Prod.fst nothing) Nat.toDigits_ne_nil
  · next leading => exact absurd (congrArg Prod.fst leading) (toDigits_ne_zero_cons _ _ _)
  · rfl

theorem readFraction_of_delimited (delimited : Delimited rest) :
    readFraction rest = some (none, rest) := by
  unfold readFraction
  split
  · obtain point | point | point := delimited '.' rfl <;> cases point
  · rfl

theorem readExponent_of_delimited (delimited : Delimited rest) :
    readExponent rest = some (none, rest) := by
  unfold readExponent
  split
  · obtain mark | mark | mark := delimited 'e' rfl <;> cases mark
  · obtain mark | mark | mark := delimited 'E' rfl <;> cases mark
  · rfl

/-- The numeral of an integer: a sign if it is negative, and decimal digits. -/
def ofInteger (value : Int) : Numeral :=
  ⟨decide (value < 0), Nat.toDigits 10 value.natAbs, none, none⟩

theorem toList_toString_of_neg (negative : value < 0) :
    (toString value).toList = '-' :: Nat.toDigits 10 value.natAbs := by
  have natural : (-value).toNat = value.natAbs := by omega
  rw [Int.toString_eq_repr, Int.repr_eq_if, if_neg (by omega), natural,
    Nat.repr_eq_ofList_toDigits, String.toList_append, String.toList_ofList,
    String.toList_ofList, List.singleton_append]

/-- The digits of a number begin with one, which is no sign. -/
theorem exists_toDigits_eq_cons (number : Nat) :
    ∃ first others, Nat.toDigits 10 number = first :: others ∧ first.isDigit = true := by
  have filled : Nat.toDigits 10 number ≠ [] := Nat.toDigits_ne_nil
  obtain ⟨first, others, same⟩ := List.exists_cons_of_ne_nil filled
  have inside : first ∈ Nat.toDigits 10 number := by
    rw [same]
    exact List.mem_cons_self
  exact ⟨first, others, same, isDigit_of_mem_toDigits inside⟩

/-- **The decimal of an integer is read as its numeral.** -/
theorem read_toString (value : Int) (delimited : Delimited rest) :
    read ((toString value).toList ++ rest) = some (ofInteger value, rest) := by
  have whole (number : Nat) := readWhole_toDigits number delimited
  have fraction := readFraction_of_delimited delimited
  have exponent := readExponent_of_delimited delimited
  by_cases negative : value < 0
  · rw [toList_toString_of_neg negative, List.cons_append, read]
    simp only [whole, fraction, exponent, ofInteger, negative, decide_true, bind,
      Option.bind_some]
  · obtain ⟨number, rfl⟩ := Int.eq_ofNat_of_zero_le (Int.not_lt.1 negative)
    obtain ⟨first, others, same, digit⟩ := exists_toDigits_eq_cons number
    have natural : (number : Int).natAbs = number := rfl
    rw [Text.Numeral.toList_toString_of_nonneg, read]
    · simp only [whole, fraction, exponent, ofInteger, negative, natural, decide_false, bind,
        Option.bind_some]
    · intro behind minus
      rw [same, List.cons_append] at minus
      obtain ⟨rfl, -⟩ := List.cons.inj minus
      cases digit

/-- **The decimal of an integer tells which one it is.** -/
theorem eq_of_toString {other : Int} (same : toString value = toString other) : value = other := by
  have nothing : Delimited [] := fun _ first => absurd first (Option.not_mem_none _)
  have read := read_toString value nothing
  rw [same, read_toString other nothing] at read
  have numerals : ofInteger other = ofInteger value := (Prod.mk.inj (Option.some.inj read)).1
  have sign : other < 0 ↔ value < 0 := decide_eq_decide.1 (congrArg negative numerals)
  have digits : Nat.toDigits 10 other.natAbs = Nat.toDigits 10 value.natAbs :=
    congrArg whole numerals
  have magnitude : other.natAbs = value.natAbs := by
    rw [← Nat.ofDigitChars_ten_toDigits (n := other.natAbs), digits, Nat.ofDigitChars_ten_toDigits]
  omega

theorem accumulate_eq {start : Nat} (fits : Nat.ofDigitChars 10 digits start < UInt64.size) :
    accumulate start digits = (Nat.ofDigitChars 10 digits start, []) := by
  induction digits generalizing start with
  | nil => rfl
  | cons digit digits ih =>
    rw [Nat.ofDigitChars_cons, Nat.mul_comm] at fits
    have here := Nat.lt_of_le_of_lt Text.Numeral.le_ofDigitChars fits
    rw [accumulate, if_pos here, ih fits, Nat.ofDigitChars_cons, Nat.mul_comm 10]

/-- **The value of the numeral of an integer is the integer**, if it fits 64 bits. -/
theorem value?_ofInteger (fits : -9223372036854775808 ≤ value ∧ value < 18446744073709551616) :
    (ofInteger value).value? = some (.integer value fits) := by
  have digits := Nat.ofDigitChars_ten_toDigits (n := value.natAbs)
  have small : value.natAbs < UInt64.size := by
    have size : UInt64.size = 18446744073709551616 := rfl
    omega
  have whole : accumulate 0 (Nat.toDigits 10 value.natAbs) = (value.natAbs, []) := by
    rw [accumulate_eq (by rw [digits]; exact small), digits]
  have integer : toInteger? (decide (value < 0)) value.natAbs = some (.integer value fits) := by
    unfold toInteger?
    by_cases negative : value < 0
    · have same : -(value.natAbs : Int) = value := by omega
      rw [decide_eq_true negative, if_pos rfl, dif_pos (by omega)]
      simp only [same]
    · have same : (value.natAbs : Int) = value := by omega
      rw [decide_eq_false negative, if_neg Bool.false_ne_true, dif_pos (by omega)]
      simp only [same]
  simp only [value?, ofInteger, whole, integer]

end Numeral

end StorageBroker.Json
