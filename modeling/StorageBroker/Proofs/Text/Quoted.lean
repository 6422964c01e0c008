import Mathlib.Data.List.Forall2
import StorageBroker.Text.Quoted

/-!
# What can be read off a record

A quoted text ends with the first quote that is not escaped, and no two characters are escaped alike. So
whatever stands behind two quoted texts, they are the same only if the texts are
(`quoted_append_inj`). Texts that are told apart in this way as soon as a comma or a bracket stands
behind them are said to part (`Parted`). Fields that part can be read off a record one after the other,
and then so can its last field, whatever its value is (`record_inj`).
-/

set_option autoImplicit false

namespace StorageBroker.Text

/-- Characters up to the first one of a sort are told from what stands behind it. -/
theorem append_inj_of_notMem {stop : Char} {left right behind behindToo : List Char}
    (free : stop ∉ left) (freeToo : stop ∉ right)
    (same : left ++ stop :: behind = right ++ stop :: behindToo) :
    left = right ∧ behind = behindToo := by
  induction left generalizing right with
  | nil =>
    cases right with
    | nil => exact ⟨rfl, (List.cons.inj same).2⟩
    | cons second right => exact absurd (List.cons.inj same).1 (List.ne_of_not_mem_cons freeToo)
  | cons first left ih =>
    cases right with
    | nil => exact absurd (List.cons.inj same).1.symm (List.ne_of_not_mem_cons free)
    | cons second right =>
      obtain ⟨rfl, rest⟩ := List.cons.inj same
      obtain ⟨rfl, behind⟩ := ih (List.not_mem_of_not_mem_cons free)
        (List.not_mem_of_not_mem_cons freeToo) rest
      exact ⟨rfl, behind⟩

/-! ## Hexadecimal digits -/

theorem exists_digit_of_mem_toDigits {number : Nat} {character : Char}
    (among : character ∈ Nat.toDigits 16 number) : ∃ digit < 16, character = Nat.digitChar digit := by
  induction number using Nat.strongRecOn with
  | ind number ih =>
    by_cases small : number < 16
    · rw [Nat.toDigits_of_lt_base small, List.mem_singleton] at among
      exact ⟨number, small, among⟩
    · rw [Nat.toDigits_of_base_le (by decide) (Nat.not_lt.1 small), List.mem_append,
        List.mem_singleton] at among
      rcases among with among | rfl
      · exact ih _ (Nat.div_lt_self (by omega) (by decide)) among
      · exact ⟨number % 16, Nat.mod_lt _ (by decide), rfl⟩

theorem digitChar_inj {left right : Nat} (small : left < 16) (smallToo : right < 16)
    (same : Nat.digitChar left = Nat.digitChar right) : left = right := by
  have all : ∀ first < 16, ∀ second < 16,
      Nat.digitChar first = Nat.digitChar second → first = second := by decide
  exact all left small right smallToo same

/-- The hexadecimal digits of a number tell which one it is. -/
theorem toDigits_inj {left right : Nat} (same : Nat.toDigits 16 left = Nat.toDigits 16 right) :
    left = right := by
  induction left using Nat.strongRecOn generalizing right with
  | ind left ih =>
    have longer (number : Nat) (large : 16 ≤ number) :
        Nat.toDigits 16 number =
          Nat.toDigits 16 (number / 16) ++ [Nat.digitChar (number % 16)] :=
      Nat.toDigits_of_base_le (by decide) large
    have filled (number : Nat) : Nat.toDigits 16 number ≠ [] := Nat.toDigits_ne_nil
    by_cases small : left < 16 <;> by_cases smallToo : right < 16
    · rw [Nat.toDigits_of_lt_base small, Nat.toDigits_of_lt_base smallToo] at same
      exact digitChar_inj small smallToo (List.cons.inj same).1
    · rw [Nat.toDigits_of_lt_base small, longer right (Nat.not_lt.1 smallToo)] at same
      rw [← List.nil_append [_]] at same
      exact absurd (List.append_inj' same rfl).1.symm (filled _)
    · rw [Nat.toDigits_of_lt_base smallToo, longer left (Nat.not_lt.1 small)] at same
      rw [← List.nil_append [Nat.digitChar right]] at same
      exact absurd (List.append_inj' same rfl).1 (filled _)
    · rw [longer left (Nat.not_lt.1 small), longer right (Nat.not_lt.1 smallToo)] at same
      obtain ⟨front, last⟩ := List.append_inj' same rfl
      have quotient := ih _ (Nat.div_lt_self (by omega) (by decide)) front
      have remainder := digitChar_inj (Nat.mod_lt _ (by decide)) (Nat.mod_lt _ (by decide))
        (List.cons.inj last).1
      omega

/-! ## Quoted texts -/

/-- The characters with an escape of one letter, with their letters. -/
def letters : List (Char × Char) :=
  [('\x00', '0'), ('\t', 't'), ('\n', 'n'), ('\r', 'r'), ('"', '"'), ('\\', '\\')]

/-- What stands behind the backslash where a character is escaped: its letter, or its code point in
brackets. -/
inductive Escapes (character : Char) : List Char → Prop
  | letter {letter : Char} (listed : (character, letter) ∈ letters) : Escapes character [letter]
  | codePoint : Escapes character
      ('u' :: '\x7b' :: (Nat.toDigits 16 character.toNat ++ ['\x7d']))

/-- A character stands for itself, or it is escaped. -/
theorem quoteChar_cases (character : Char) :
    (quoteChar character = [character] ∧ character ≠ '\\' ∧ character ≠ '"') ∨
    ∃ escape, quoteChar character = '\\' :: escape ∧ Escapes character escape := by
  by_cases special : character ∈ letters.map Prod.fst
  · obtain ⟨⟨_, letter⟩, listed, rfl⟩ := List.mem_map.1 special
    have escaped : ∀ entry ∈ letters, quoteChar entry.1 = ['\\', entry.2] := by decide
    exact .inr ⟨_, escaped _ listed, .letter listed⟩
  · simp only [letters, List.map_cons, List.map_nil, List.mem_cons, List.not_mem_nil,
      or_false, not_or] at special
    obtain ⟨null, tab, feed, back, quotes, slash⟩ := special
    rw [quoteChar, if_neg null, if_neg tab, if_neg feed, if_neg back, if_neg quotes, if_neg slash]
    split
    · exact .inr ⟨_, rfl, .codePoint⟩
    · exact .inl ⟨rfl, slash, quotes⟩

section Characters

variable {first second : Char} {behind behindToo escape escapeToo : List Char}

theorem codePoint_append_inj
    (same : Nat.toDigits 16 first.toNat ++ '\x7d' :: behind =
      Nat.toDigits 16 second.toNat ++ '\x7d' :: behindToo) :
    first = second ∧ behind = behindToo := by
  have free (number : Nat) : '\x7d' ∉ Nat.toDigits 16 number := by
    intro among
    obtain ⟨value, small, bracket⟩ := exists_digit_of_mem_toDigits among
    have none : ∀ value < 16, '\x7d' ≠ Nat.digitChar value := by decide
    exact none value small bracket
  obtain ⟨number, rest⟩ := append_inj_of_notMem (free _) (free _) same
  exact ⟨Char.toNat_inj.1 (toDigits_inj number), rest⟩

/-- No two characters are escaped alike, and none like the beginning of another one. -/
theorem Escapes.append_inj (escapes : Escapes first escape) (escapesToo : Escapes second escapeToo)
    (same : escape ++ behind = escapeToo ++ behindToo) : first = second ∧ behind = behindToo := by
  have distinct : ∀ entry ∈ letters, entry.2 ≠ 'u' ∧
      ∀ other ∈ letters, entry.2 = other.2 → entry.1 = other.1 := by decide
  cases escapes with
  | letter listed =>
    cases escapesToo with
    | letter listedToo =>
      obtain ⟨letter, rest⟩ := List.cons.inj same
      exact ⟨(distinct _ listed).2 _ listedToo letter, rest⟩
    | codePoint => exact absurd (List.cons.inj same).1 (distinct _ listed).1
  | codePoint =>
    cases escapesToo with
    | letter listedToo => exact absurd (List.cons.inj same).1.symm (distinct _ listedToo).1
    | codePoint =>
      simp only [List.cons_append, List.append_assoc, List.nil_append, List.cons.injEq,
        true_and] at same
      exact codePoint_append_inj same

/-- No character is written like the beginning of another one. -/
theorem quoteChar_append_inj (same : quoteChar first ++ behind = quoteChar second ++ behindToo) :
    first = second ∧ behind = behindToo := by
  rcases quoteChar_cases first with ⟨plain, slash, -⟩ | ⟨escape, escaped, escapes⟩
  · rcases quoteChar_cases second with ⟨plainToo, -, -⟩ | ⟨escapeToo, escapedToo, -⟩
    · rw [plain, plainToo] at same
      exact List.cons.inj same
    · rw [plain, escapedToo] at same
      exact absurd (List.cons.inj same).1 slash
  · rcases quoteChar_cases second with ⟨plainToo, slashToo, -⟩ | ⟨escapeToo, escapedToo, escapesToo⟩
    · rw [escaped, plainToo] at same
      exact absurd (List.cons.inj same).1.symm slashToo
    · rw [escaped, escapedToo] at same
      exact escapes.append_inj escapesToo (List.cons.inj same).2

/-- No character is written like the quote that ends the text. -/
theorem quoteChar_append_ne_quote : quoteChar first ++ behind ≠ '"' :: behindToo := by
  intro same
  rcases quoteChar_cases first with ⟨plain, -, quotes⟩ | ⟨escape, escaped, -⟩
  · rw [plain] at same
    exact quotes (List.cons.inj same).1
  · rw [escaped] at same
    exact absurd (List.cons.inj same).1 (by decide)

end Characters

/-- **Whatever stands behind two quoted texts, they are the same only if the texts are.** -/
theorem quoted_append_inj {left right behind behindToo : List Char}
    (same : left.flatMap quoteChar ++ '"' :: behind = right.flatMap quoteChar ++ '"' :: behindToo) :
    left = right ∧ behind = behindToo := by
  induction left generalizing right with
  | nil =>
    cases right with
    | nil => exact ⟨rfl, (List.cons.inj same).2⟩
    | cons second right =>
      rw [List.flatMap_cons, List.append_assoc] at same
      exact absurd same.symm quoteChar_append_ne_quote
  | cons first left ih =>
    cases right with
    | nil =>
      rw [List.flatMap_cons, List.append_assoc] at same
      exact absurd same quoteChar_append_ne_quote
    | cons second right =>
      rw [List.flatMap_cons, List.flatMap_cons, List.append_assoc, List.append_assoc] at same
      obtain ⟨rfl, rest⟩ := quoteChar_append_inj same
      obtain ⟨rfl, behind⟩ := ih rest
      exact ⟨rfl, behind⟩

theorem quote_append_inj {left right : String} {behind behindToo : List Char}
    (same : (quote left).toList ++ behind = (quote right).toList ++ behindToo) :
    left = right ∧ behind = behindToo := by
  simp only [quote, String.toList_ofList, List.cons_append, List.append_assoc,
    List.nil_append] at same
  obtain ⟨text, rest⟩ := quoted_append_inj (List.cons.inj same).2
  exact ⟨String.toList_inj.1 text, rest⟩

theorem quote_inj {left right : String} : quote left = quote right ↔ left = right := by
  constructor
  · intro same
    have whole : (quote left).toList ++ [] = (quote right).toList ++ [] := by rw [same]
    exact (quote_append_inj whole).1
  · rintro rfl
    rfl

/-! ## Texts that part -/

/-- What stands behind a value that is not the last one: a comma or a bracket. -/
def Closes (behind : List Char) : Prop :=
  ∃ rest, behind = ',' :: rest ∨ behind = ')' :: rest

/-- Two texts part if they are told apart with anything behind them that may stand behind a value. -/
def Parted (left right : String) : Prop :=
  ∀ behind behindToo, Closes behind → Closes behindToo →
    left.toList ++ behind = right.toList ++ behindToo → left = right ∧ behind = behindToo

namespace Parted

variable {left right : String}

theorem refl (text : String) : Parted text text :=
  fun _ _ _ _ same => ⟨rfl, List.append_cancel_left same⟩

theorem symm (parted : Parted left right) : Parted right left := by
  intro behind behindToo closes closesToo same
  obtain ⟨text, rest⟩ := parted _ _ closesToo closes same.symm
  exact ⟨text.symm, rest.symm⟩

theorem quotes (left right : String) : Parted (quote left) (quote right) := by
  intro behind behindToo _ _ same
  obtain ⟨rfl, rest⟩ := quote_append_inj same
  exact ⟨rfl, rest⟩

/-- Texts that begin differently part. -/
theorem of_head {first second : Char} {others othersToo : List Char}
    (begins : left.toList = first :: others) (beginsToo : right.toList = second :: othersToo)
    (other : first ≠ second) : Parted left right := by
  intro behind behindToo _ _ same
  rw [begins, beginsToo] at same
  exact absurd (List.cons.inj same).1 other

theorem truths (left right : Bool) : Parted (toString left) (toString right) := by
  cases left <;> cases right
  · exact refl _
  · exact of_head rfl rfl (by decide)
  · exact of_head rfl rfl (by decide)
  · exact refl _

end Parted

/-! ## Records on one line -/

namespace Layout

variable {name nameToo value valueToo : String} {fields others : List (String × String)}
  {coverage coverageToo : Coverage}

/-- A variant tells its name and its value. -/
theorem variant_inj (free : '(' ∉ name.toList) (freeToo : '(' ∉ nameToo.toList)
    (same : oneLine.variant name value = oneLine.variant nameToo valueToo) :
    name = nameToo ∧ value = valueToo := by
  have lists := congrArg String.toList same
  simp only [oneLine, String.toList_append, List.append_assoc] at lists
  obtain ⟨names, rest⟩ := append_inj_of_notMem free freeToo lists
  have values : value.toList ++ [')'] = valueToo.toList ++ [')'] := rest
  exact ⟨String.toList_inj.1 names, String.toList_inj.1 (List.append_cancel_right values)⟩

theorem toList_optional_some (value : String) :
    (oneLine.optional (some value)).toList = "Some(".toList ++ (value.toList ++ [')']) := by
  simp [optional, oneLine]

theorem optional_none_ne_some (value : String) :
    oneLine.optional none ≠ oneLine.optional (some value) := by
  intro same
  have lists := congrArg String.toList same
  rw [toList_optional_some] at lists
  exact absurd (List.cons.inj lists).1 (by decide)

/-- An optional value is told from its text. -/
theorem optional_inj {left right : Option String} :
    oneLine.optional left = oneLine.optional right ↔ left = right := by
  constructor
  · intro same
    cases left with
    | none =>
      cases right with
      | none => rfl
      | some right => exact absurd same (optional_none_ne_some right)
    | some left =>
      cases right with
      | none => exact absurd same.symm (optional_none_ne_some left)
      | some right => exact congrArg some (variant_inj (by decide) (by decide) same).2
  · rintro rfl
    rfl

/-- Optional values part if the values do. -/
theorem parted_optional {left right : Option String}
    (values : ∀ first ∈ left, ∀ second ∈ right, Parted first second) :
    Parted (oneLine.optional left) (oneLine.optional right) := by
  cases left with
  | none =>
    cases right with
    | none => exact .refl _
    | some right => exact .of_head rfl (toList_optional_some right) (by decide)
  | some left =>
    cases right with
    | none => exact (Parted.of_head rfl (toList_optional_some left) (by decide)).symm
    | some right =>
      intro behind behindToo _ _ same
      rw [toList_optional_some, toList_optional_some, List.append_assoc, List.append_assoc,
        List.append_assoc, List.append_assoc] at same
      obtain ⟨rfl, rest⟩ := values left rfl right rfl _ _ ⟨behind, .inr rfl⟩ ⟨behindToo, .inr rfl⟩
        (List.append_cancel_left same)
      exact ⟨rfl, (List.cons.inj rest).2⟩

end Layout

/-! ## Fields -/

/-- Two lists of fields have the same labels, and their values part. -/
def Aligned : List (String × String) → List (String × String) → Prop :=
  List.Forall₂ fun field other => field.1 = other.1 ∧ Parted field.2 other.2

theorem aligned_quote (label left right : String) :
    Aligned [(label, quote left)] [(label, quote right)] :=
  .cons ⟨rfl, .quotes left right⟩ .nil

theorem aligned_same (label value : String) : Aligned [(label, value)] [(label, value)] :=
  .cons ⟨rfl, .refl value⟩ .nil

section Fields

variable {name nameToo label value valueToo : String} {fields others : List (String × String)}
  {tail : List String} {coverage coverageToo : Coverage}

/-- What is listed behind the first of several texts. -/
theorem toList_intercalate_cons (first : String) {rest : List String} (more : rest ≠ []) :
    (String.intercalate ", " (first :: rest)).toList =
      first.toList ++ ',' :: ' ' :: (String.intercalate ", " rest).toList := by
  rw [String.intercalate_cons_of_ne_nil more, String.toList_append, String.toList_append,
    List.append_assoc]
  rfl

theorem toList_labelled (label value : String) :
    (labelled (label, value)).toList = (label ++ ": ").toList ++ value.toList := by
  rw [labelled, String.toList_append]

/-- The last of several fields is told from the text, if nothing but the same stands behind it. -/
theorem labelled_inj_of_intercalate
    (same : String.intercalate ", " (labelled (label, value) :: tail) =
      String.intercalate ", " (labelled (label, valueToo) :: tail)) : value = valueToo := by
  have lists := congrArg String.toList same
  by_cases last : tail = []
  · subst last
    rw [String.intercalate_singleton, String.intercalate_singleton, toList_labelled,
      toList_labelled] at lists
    exact String.toList_inj.1 (List.append_cancel_left lists)
  · rw [toList_intercalate_cons _ last, toList_intercalate_cons _ last, toList_labelled,
      toList_labelled] at lists
    exact String.toList_inj.1 (List.append_cancel_left (List.append_cancel_right lists))

/-- Fields that part are read off one after the other, up to the last one. -/
theorem fields_inj_of_intercalate (aligned : Aligned fields others)
    (same : String.intercalate ", " ((fields ++ [(label, value)]).map labelled ++ tail) =
      String.intercalate ", " ((others ++ [(label, valueToo)]).map labelled ++ tail)) :
    fields = others ∧ value = valueToo := by
  induction aligned with
  | nil => exact ⟨rfl, labelled_inj_of_intercalate same⟩
  | @cons field other fields others parted aligned ih =>
    obtain ⟨fieldLabel, fieldValue⟩ := field
    obtain ⟨otherLabel, otherValue⟩ := other
    obtain ⟨rfl, parted⟩ := parted
    have lists := congrArg String.toList same
    rw [List.cons_append, List.cons_append, List.map_cons, List.map_cons, List.cons_append,
      List.cons_append, toList_intercalate_cons _ (by simp), toList_intercalate_cons _ (by simp),
      toList_labelled, toList_labelled, List.append_assoc, List.append_assoc] at lists
    obtain ⟨rfl, rest⟩ := parted _ _ ⟨_, .inl rfl⟩ ⟨_, .inl rfl⟩ (List.append_cancel_left lists)
    have behind := (List.cons.inj (List.cons.inj rest).2).2
    obtain ⟨rfl, last⟩ := ih (String.toList_inj.1 behind)
    exact ⟨rfl, last⟩

/-- **A record on one line tells its fields**, if all but the last of them part. -/
theorem record_inj (aligned : Aligned fields others)
    (same : record name (fields ++ [(label, value)]) coverage =
      record name (others ++ [(label, valueToo)]) coverage) : fields = others ∧ value = valueToo := by
  simp only [record, String.append_assoc, String.append_right_inj, String.append_left_inj] at same
  exact fields_inj_of_intercalate aligned same

theorem space_mem_record : ' ' ∈ (record name fields coverage).toList := by
  simp [record]

/-- A record tells its name. -/
theorem name_eq_of_record (free : ' ' ∉ name.toList) (freeToo : ' ' ∉ nameToo.toList)
    (same : record name fields coverage = record nameToo others coverageToo) : name = nameToo := by
  have lists := congrArg String.toList same
  simp only [record, String.toList_append, List.append_assoc] at lists
  exact String.toList_inj.1 (append_inj_of_notMem free freeToo lists).1

end Fields

end StorageBroker.Text
