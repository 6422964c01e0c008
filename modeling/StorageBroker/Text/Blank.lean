/-!
# Blank text

White space is the Unicode property `White_Space`: twenty-five characters, among them the
no-break space and the ideographic space, but not the zero-width space or the byte order mark.
A text is blank when it holds white space only. `trim` removes white space from both ends, and a
text is blank exactly when nothing is left of it (`trimChars_eq_nil_iff`).
-/

set_option autoImplicit false

namespace StorageBroker.Text

/-- The characters of the Unicode property `White_Space`. -/
def isBlankChar (character : Char) : Bool :=
  let code := character.toNat
  (9 ≤ code && code ≤ 13) || code == 0x20 || code == 0x85 || code == 0xA0 || code == 0x1680 ||
    (0x2000 ≤ code && code ≤ 0x200A) || code == 0x2028 || code == 0x2029 || code == 0x202F ||
    code == 0x205F || code == 0x3000

/-- The characters without the white space they begin with. -/
def trimStart (characters : List Char) : List Char :=
  characters.dropWhile isBlankChar

/-- The characters without the white space at either end. -/
def trimChars (characters : List Char) : List Char :=
  (trimStart (trimStart characters).reverse).reverse

/-- The text without the white space at either end. -/
def trim (text : String) : String :=
  String.ofList (trimChars text.toList)

/-- A text of white space only. -/
def isBlank (text : String) : Bool :=
  text.toList.all isBlankChar

/-! ## Blank means trimmed to nothing -/

theorem dropWhile_eq_nil_iff_all {α : Type} (accepts : α → Bool) (items : List α) :
    items.dropWhile accepts = [] ↔ items.all accepts = true := by
  induction items with
  | nil => simp
  | cons head tail ih =>
    by_cases accepted : accepts head = true
    · simp [accepted, ih]
    · simp [accepted]

theorem all_dropWhile_imp {α : Type} (accepts : α → Bool) (items : List α)
    (every : (items.dropWhile accepts).all accepts = true) : items.all accepts = true := by
  induction items with
  | nil => simp
  | cons head tail ih =>
    by_cases accepted : accepts head = true
    · simp only [List.dropWhile_cons, accepted, if_true] at every
      simp [accepted, ih every]
    · simp [accepted] at every

theorem trimChars_eq_nil_iff (characters : List Char) :
    trimChars characters = [] ↔ characters.all isBlankChar = true := by
  unfold trimChars trimStart
  rw [List.reverse_eq_nil_iff, dropWhile_eq_nil_iff_all, List.all_reverse]
  refine ⟨all_dropWhile_imp isBlankChar characters, fun every => ?_⟩
  rw [(dropWhile_eq_nil_iff_all isBlankChar characters).2 every]
  rfl

end StorageBroker.Text
