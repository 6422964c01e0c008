import StorageBroker.Proofs.Outcome
import StorageBroker.Text.Blank
import StorageBroker.Text.Numeral

/-!
# How numbers are spelled

A positive number is read from a text if and only if the text spells it: its decimal digits, perhaps
with zeros and a plus in front, and with white space around (`signed_trim_eq_ok_iff`). The key fact is
that digits without a leading zero are the decimal digits of their value (`toDigits_append`).
-/

set_option autoImplicit false

namespace StorageBroker.Text

/-! ## White space around a text -/

section Trimming

variable {before core after characters : List Char}

/-- What is trimmed away is white space at either end. -/
theorem exists_around (characters : List Char) : ∃ before after,
    characters = before ++ trimChars characters ++ after ∧
      (∀ character ∈ before, isBlankChar character = true) ∧
      ∀ character ∈ after, isBlankChar character = true := by
  have front := List.takeWhile_append_dropWhile (p := isBlankChar) (l := characters)
  have back := List.takeWhile_append_dropWhile (p := isBlankChar) (l := (trimStart characters).reverse)
  refine ⟨characters.takeWhile isBlankChar,
    ((trimStart characters).reverse.takeWhile isBlankChar).reverse, ?_, ?_, ?_⟩
  · have whole : trimChars characters ++
        ((trimStart characters).reverse.takeWhile isBlankChar).reverse = trimStart characters := by
      rw [trimChars, ← List.reverse_append]
      unfold trimStart at back ⊢
      rw [back, List.reverse_reverse]
    rw [List.append_assoc, whole]
    exact front.symm
  · intro character member
    exact List.all_eq_true.1 List.all_takeWhile character member
  · intro character member
    exact List.all_eq_true.1 List.all_takeWhile character (List.mem_reverse.1 member)

/-- White space in front is trimmed away, up to the first other character. -/
theorem trimStart_append_cons {character : Char}
    (blank : ∀ character ∈ before, isBlankChar character = true)
    (solid : isBlankChar character = false) :
    trimStart (before ++ character :: core) = character :: core := by
  rw [trimStart, List.dropWhile_append_of_pos blank, List.dropWhile_cons_of_neg]
  rw [solid]
  exact Bool.false_ne_true

theorem trimStart_append (blank : ∀ character ∈ before, isBlankChar character = true)
    (solid : ∀ character ∈ core, isBlankChar character = false) :
    trimStart (before ++ core) = core := by
  cases core with
  | nil =>
    rw [trimStart, List.dropWhile_append_of_pos blank]
    rfl
  | cons character core => exact trimStart_append_cons blank (solid character List.mem_cons_self)

/-- White space at either end is trimmed away. -/
theorem trimChars_around (blankBefore : ∀ character ∈ before, isBlankChar character = true)
    (blankAfter : ∀ character ∈ after, isBlankChar character = true)
    (solid : ∀ character ∈ core, isBlankChar character = false) :
    trimChars (before ++ core ++ after) = core := by
  cases core with
  | nil =>
    rw [List.append_nil, trimChars_eq_nil_iff, List.all_append, Bool.and_eq_true,
      List.all_eq_true, List.all_eq_true]
    exact ⟨blankBefore, blankAfter⟩
  | cons character core =>
    have front : trimStart (before ++ (character :: core ++ after)) = character :: core ++ after :=
      trimStart_append_cons blankBefore (solid character List.mem_cons_self)
    have back : trimStart (after.reverse ++ (character :: core).reverse) =
        (character :: core).reverse := by
      refine trimStart_append ?_ ?_
      · intro other member
        exact blankAfter other (List.mem_reverse.1 member)
      · intro other member
        exact solid other (List.mem_reverse.1 member)
    rw [List.append_assoc, trimChars, front, List.reverse_append, back, List.reverse_reverse]

end Trimming

namespace Numeral

/-! ## Digits -/

section Digits

variable {bound value number : Nat} {overflow : Fault} {character : Char} {digits : List Char}

theorem digitValue?_eq_some_iff {digit : Nat} : digitValue? character = some digit ↔
    character.isDigit = true ∧ character.toNat - '0'.toNat = digit := by
  unfold digitValue?
  split
  · next isDigit => simp [isDigit]
  · next other => simp [other]

theorem le_ofDigitChars : value ≤ Nat.ofDigitChars 10 digits value := by
  induction digits generalizing value with
  | nil => exact Nat.le_refl value
  | cons character digits ih =>
    rw [Nat.ofDigitChars_cons]
    exact Nat.le_trans (by omega) ih

/-- Digits are read if and only if they are digits and their value is in range. -/
theorem readDigits_eq_ok_iff (fits : value ≤ bound) :
    readDigits bound overflow value digits = .ok number ↔
      (∀ character ∈ digits, character.isDigit = true) ∧
        Nat.ofDigitChars 10 digits value = number ∧ number ≤ bound := by
  induction digits generalizing value with
  | nil =>
    rw [readDigits, Nat.ofDigitChars_nil]
    constructor
    · rintro ⟨⟩
      exact ⟨List.forall_mem_nil _, rfl, fits⟩
    · rintro ⟨-, rfl, -⟩
      rfl
  | cons character digits ih =>
    rw [readDigits, Nat.ofDigitChars_cons, List.forall_mem_cons, Nat.mul_comm 10 value]
    cases found : digitValue? character with
    | none =>
      constructor
      · rintro ⟨⟩
      · rintro ⟨⟨isDigit, -⟩, -⟩
        cases found.symm.trans (digitValue?_eq_some_iff.2 ⟨isDigit, rfl⟩)
    | some digit =>
      obtain ⟨isDigit, same⟩ := digitValue?_eq_some_iff.1 found
      rw [same]
      dsimp only
      split
      · next beyond =>
        constructor
        · rintro ⟨⟩
        · rintro ⟨-, rfl, inside⟩
          exact absurd (Nat.lt_of_lt_of_le beyond le_ofDigitChars) (Nat.not_lt.2 inside)
      · next inside =>
        rw [ih (Nat.not_lt.1 inside)]
        simp [isDigit]

theorem readMagnitude_eq_ok_iff : readMagnitude bound overflow digits = .ok number ↔
    digits ≠ [] ∧ (∀ character ∈ digits, character.isDigit = true) ∧
      Nat.ofDigitChars 10 digits 0 = number ∧ number ≤ bound := by
  cases digits with
  | nil => simp [readMagnitude]
  | cons character digits =>
    rw [readMagnitude, readDigits_eq_ok_iff (Nat.zero_le bound)]
    · simp
    · rintro ⟨⟩

/-- A digit is the digit of its value. -/
theorem digitChar_of_isDigit (isDigit : character.isDigit = true) :
    character.toNat - '0'.toNat < 10 ∧ (character.toNat - '0'.toNat).digitChar = character := by
  simp only [Char.isDigit, Bool.and_eq_true, decide_eq_true_eq, ge_iff_le, UInt32.le_iff_toNat_le]
    at isDigit
  have least : 48 ≤ character.toNat := isDigit.1
  have greatest : character.toNat ≤ 57 := isDigit.2
  have small : character.toNat - '0'.toNat < 10 := by
    change character.toNat - 48 < 10
    omega
  refine ⟨small, Char.toNat_inj.1 ?_⟩
  rw [Nat.toNat_digitChar_of_lt_ten small]
  change 48 + (character.toNat - 48) = character.toNat
  omega

/-- Digits behind the decimal digits of a positive number make the decimal digits of a number. -/
theorem toDigits_append (positive : 0 < value)
    (all : ∀ character ∈ digits, character.isDigit = true) :
    Nat.toDigits 10 value ++ digits = Nat.toDigits 10 (Nat.ofDigitChars 10 digits value) := by
  induction digits generalizing value with
  | nil => rw [List.append_nil, Nat.ofDigitChars_nil]
  | cons character digits ih =>
    obtain ⟨isDigit, others⟩ := List.forall_mem_cons.1 all
    obtain ⟨small, same⟩ := digitChar_of_isDigit isDigit
    have joined := Nat.toDigits_append_toDigits (by decide : 1 < 10) positive small
    rw [Nat.toDigits_of_lt_base small, same] at joined
    rw [Nat.ofDigitChars_cons, ← ih (by omega) others, ← joined, List.append_assoc]
    rfl

/-- Digits of a positive value are its decimal digits behind zeros. -/
theorem exists_zeros (all : ∀ character ∈ digits, character.isDigit = true)
    (positive : 0 < Nat.ofDigitChars 10 digits 0) :
    ∃ zeros, digits = List.replicate zeros '0' ++ Nat.toDigits 10 (Nat.ofDigitChars 10 digits 0) := by
  induction digits with
  | nil => cases positive
  | cons character digits ih =>
    obtain ⟨isDigit, others⟩ := List.forall_mem_cons.1 all
    obtain ⟨small, same⟩ := digitChar_of_isDigit isDigit
    rw [Nat.ofDigitChars_cons, Nat.mul_zero, Nat.zero_add] at positive ⊢
    cases leading : character.toNat - '0'.toNat with
    | zero =>
      rw [leading] at positive same
      obtain ⟨zeros, rest⟩ := ih others positive
      refine ⟨zeros + 1, ?_⟩
      rw [List.replicate_succ, List.cons_append, ← rest, ← same]
      rfl
    | succ less =>
      rw [leading] at small same
      refine ⟨0, ?_⟩
      rw [← toDigits_append (Nat.succ_pos less) others, Nat.toDigits_of_lt_base small, same]
      rfl

/-- A positive number is read from its decimal digits, with zeros in front, and from nothing else. -/
theorem readMagnitude_eq_ok_iff_of_pos (positive : 0 < number) :
    readMagnitude bound overflow digits = .ok number ↔
      number ≤ bound ∧ ∃ zeros, digits = List.replicate zeros '0' ++ Nat.toDigits 10 number := by
  rw [readMagnitude_eq_ok_iff]
  constructor
  · rintro ⟨-, all, rfl, inside⟩
    exact ⟨inside, exists_zeros all positive⟩
  · rintro ⟨inside, zeros, rfl⟩
    refine ⟨?_, ?_, ?_, inside⟩
    · intro empty
      exact Nat.toDigits_ne_nil (List.append_eq_nil_iff.1 empty).2
    · intro character member
      rcases List.mem_append.1 member with zero | digit
      · rw [List.eq_of_mem_replicate zero]
        rfl
      · exact Nat.isDigit_of_mem_toDigits (by decide) (by decide) digit
    · rw [Nat.ofDigitChars_append, Nat.ofDigitChars_replicate_zero, Nat.mul_zero,
        Nat.ofDigitChars_ten_toDigits]

end Digits

/-! ## Signed numerals -/

/-- A text spells a number: it is its decimal, with zeros and perhaps a plus in front, and with white
space around. -/
def Spells (text : String) (number : Int) : Prop :=
  ∃ before plus zeros after,
    text.toList = before ++ (plus ++ List.replicate zeros '0' ++ (toString number).toList) ++ after ∧
      (∀ character ∈ before, isBlankChar character = true) ∧ (plus = [] ∨ plus = ['+']) ∧
      ∀ character ∈ after, isBlankChar character = true

section Signed

variable {characters digits : List Char} {text : String} {value : Int64}

theorem toList_toString_of_nonneg (number : Nat) :
    (toString (number : Int)).toList = Nat.toDigits 10 number := by
  rw [Int.toString_eq_repr, Int.repr_eq_if, if_pos (Int.natCast_nonneg number), Int.toNat_natCast,
    Nat.repr_eq_ofList_toDigits, String.toList_ofList]

/-- A signed numeral is a magnitude behind a minus, or one behind a plus or nothing. -/
theorem exists_magnitude {number : Int} (read : readSigned characters = .ok number) :
    ∃ magnitude : Nat,
      (∃ digits, characters = '-' :: digits ∧
        readMagnitude signedBound .tooSmall digits = .ok magnitude ∧ number = -magnitude) ∨
      ∃ plus digits, (plus = [] ∨ plus = ['+']) ∧ characters = plus ++ digits ∧
        readMagnitude (signedBound - 1) .tooLarge digits = .ok magnitude ∧ number = magnitude := by
  unfold readSigned at read
  split at read
  · cases read
  · next digits =>
    obtain ⟨_, lifted, rfl⟩ := map_eq_ok_iff.1 read
    obtain ⟨magnitude, found, ⟨⟩⟩ := bind_eq_ok_iff.1 lifted
    exact ⟨magnitude, .inl ⟨digits, rfl, found, rfl⟩⟩
  · next digits =>
    obtain ⟨_, lifted, rfl⟩ := map_eq_ok_iff.1 read
    obtain ⟨magnitude, found, ⟨⟩⟩ := bind_eq_ok_iff.1 lifted
    exact ⟨magnitude, .inr ⟨['+'], digits, .inr rfl, rfl, found, rfl⟩⟩
  · obtain ⟨_, lifted, rfl⟩ := map_eq_ok_iff.1 read
    obtain ⟨magnitude, found, ⟨⟩⟩ := bind_eq_ok_iff.1 lifted
    exact ⟨magnitude, .inr ⟨[], _, .inl rfl, rfl, found, rfl⟩⟩

/-- A magnitude behind a plus or nothing is a signed numeral. -/
theorem readSigned_of_magnitude {plus : List Char} {magnitude : Nat}
    (either : plus = [] ∨ plus = ['+'])
    (read : readMagnitude (signedBound - 1) .tooLarge digits = .ok magnitude) :
    readSigned (plus ++ digits) = .ok (magnitude : Int) := by
  rcases either with rfl | rfl
  · obtain ⟨some_, all, -⟩ := readMagnitude_eq_ok_iff.1 read
    rw [List.nil_append]
    unfold readSigned
    split
    · exact absurd rfl some_
    · cases all _ List.mem_cons_self
    · cases all _ List.mem_cons_self
    · rw [read]
      rfl
  · rw [List.singleton_append, readSigned, read]
    rfl

/-- What is read as a signed numeral is in range. -/
theorem toInt_ofInt_of_readSigned {number : Int} (read : readSigned characters = .ok number) :
    (Int64.ofInt number).toInt = number := by
  obtain ⟨magnitude, ⟨digits, -, found, rfl⟩ | ⟨plus, digits, -, -, found, rfl⟩⟩ :=
    exists_magnitude read
  · obtain ⟨-, -, -, inside⟩ := readMagnitude_eq_ok_iff.1 found
    simp only [signedBound] at inside
    exact Int64.toInt_ofInt_of_le (by omega) (by omega)
  · obtain ⟨-, -, -, inside⟩ := readMagnitude_eq_ok_iff.1 found
    simp only [signedBound] at inside
    exact Int64.toInt_ofInt_of_le (by omega) (by omega)

/-- A positive number is read from its decimal digits, with zeros and perhaps a plus in front. -/
theorem readSigned_eq_ok_iff_of_pos {number : Nat} (positive : 0 < number) :
    readSigned characters = .ok (number : Int) ↔
      number ≤ signedBound - 1 ∧ ∃ plus zeros, (plus = [] ∨ plus = ['+']) ∧
        characters = plus ++ (List.replicate zeros '0' ++ Nat.toDigits 10 number) := by
  constructor
  · intro read
    obtain ⟨magnitude, ⟨digits, -, -, negative⟩ | ⟨plus, digits, either, rfl, found, same⟩⟩ :=
      exists_magnitude read
    · omega
    · cases Int.ofNat_inj.1 same
      obtain ⟨inside, zeros, rfl⟩ := (readMagnitude_eq_ok_iff_of_pos positive).1 found
      exact ⟨inside, plus, zeros, either, rfl⟩
  · rintro ⟨inside, plus, zeros, either, rfl⟩
    exact readSigned_of_magnitude either
      ((readMagnitude_eq_ok_iff_of_pos positive).2 ⟨inside, zeros, rfl⟩)

/-- No character of a numeral is white space. -/
theorem isBlankChar_of_spelled {plus : List Char} {zeros number : Nat}
    (either : plus = [] ∨ plus = ['+']) :
    ∀ character ∈ plus ++ (List.replicate zeros '0' ++ Nat.toDigits 10 number),
      isBlankChar character = false := by
  intro character member
  rcases List.mem_append.1 member with sign | member
  · rcases either with rfl | rfl
    · cases sign
    · rw [List.mem_singleton.1 sign]
      rfl
  · rcases List.mem_append.1 member with zero | digit
    · rw [List.eq_of_mem_replicate zero]
      rfl
    · obtain ⟨small, same⟩ := digitChar_of_isDigit
        (Nat.isDigit_of_mem_toDigits (by decide) (by decide) digit)
      rw [← same]
      generalize character.toNat - '0'.toNat = value at small
      revert value
      decide

/-- **A positive number is read if and only if the text spells it.** -/
theorem signed_trim_eq_ok_iff (positive : 0 < value) :
    signed (trim text) = .ok value ↔ Spells text value.toInt := by
  have above : 0 < value.toInt := Int64.lt_iff_toInt_lt.1 positive
  obtain ⟨number, same⟩ := Int.eq_ofNat_of_zero_le (Int.le_of_lt above)
  have natural : 0 < number := by omega
  have small : number ≤ signedBound - 1 := by
    have := value.toInt_lt
    simp only [signedBound]
    omega
  rw [signed, trim, String.toList_ofList, map_eq_ok_iff, Spells, same, toList_toString_of_nonneg]
  constructor
  · rintro ⟨found, read, rfl⟩
    rw [toInt_ofInt_of_readSigned read] at same
    rw [same] at read
    obtain ⟨-, plus, zeros, either, core⟩ := (readSigned_eq_ok_iff_of_pos natural).1 read
    obtain ⟨before, after, whole, blankBefore, blankAfter⟩ := exists_around text.toList
    rw [core, ← List.append_assoc plus] at whole
    exact ⟨before, plus, zeros, after, whole, blankBefore, either, blankAfter⟩
  · rintro ⟨before, plus, zeros, after, whole, blankBefore, either, blankAfter⟩
    refine ⟨number, ?_, ?_⟩
    · rw [List.append_assoc plus] at whole
      rw [whole, trimChars_around blankBefore blankAfter (isBlankChar_of_spelled either)]
      exact (readSigned_eq_ok_iff_of_pos natural).2 ⟨small, plus, zeros, either, rfl⟩
    · rw [← same, Int64.ofInt_toInt]

/-- The decimal of a number spells it. -/
theorem spells_toString (number : Int) : Spells (toString number) number :=
  ⟨[], [], 0, [], by simp, List.forall_mem_nil _, .inl rfl, List.forall_mem_nil _⟩

end Signed

end Numeral

end StorageBroker.Text
