import StorageBroker.Proofs.Table.Identifier

/-!
# Written forms of identifiers

Every text consists of parts, with separators between them and none inside, in just one way
(`Text.exists_splits`, `Text.Splits.unique`). A text is the written form of an identifier if it has a
separator and no part is blank, and then the parts are the components, just as they stand in the
text.

An identifier whose components hold no slash has a written form with slashes, and one without dots in
its components has a second one with dots. Both are parsed as the identifier that was written
(`TableId.written_forms`), so it makes no difference for a cache by which of them a table is named.
-/

set_option autoImplicit false

namespace StorageBroker

/-! ## The parts of a text -/

namespace Text

/-- A text consists of parts, with separators between them and none inside. -/
structure Splits (separator : Char) (text : String) (parts : List String) : Prop where
  filled : parts ≠ []
  joined : text = String.intercalate (String.singleton separator) parts
  free : ∀ part ∈ parts, separator ∉ part.toList

variable {separator character : Char} {text : String} {parts others : List String}

theorem splits_iff : Splits separator text parts ↔
    parts ≠ [] ∧ (pieces separator text.toList).map String.ofList = parts := by
  constructor
  · intro splits
    exact ⟨splits.filled, (map_pieces_eq_iff splits.filled).2 ⟨splits.joined, splits.free⟩⟩
  · rintro ⟨filled, cut⟩
    obtain ⟨joined, free⟩ := (map_pieces_eq_iff filled).1 cut
    exact ⟨filled, joined, free⟩

/-- Every text consists of parts. -/
theorem exists_splits (separator : Char) (text : String) :
    ∃ parts, Splits separator text parts := by
  have filled : (pieces separator text.toList).map String.ofList ≠ [] := by
    simp [pieces_ne_nil]
  exact ⟨_, splits_iff.2 ⟨filled, rfl⟩⟩

/-- A text consists of its parts in one way only. -/
theorem Splits.unique (splits : Splits separator text parts)
    (also : Splits separator text others) : others = parts :=
  (splits_iff.1 also).2.symm.trans (splits_iff.1 splits).2

/-- What stands in a joined text stands in a part, or it is a separator between two parts. -/
theorem mem_intercalate_iff : character ∈ (String.intercalate (String.singleton separator)
      parts).toList ↔
    (∃ part ∈ parts, character ∈ part.toList) ∨ character = separator ∧ 1 < parts.length := by
  rw [String.toList_intercalate, String.toList_singleton]
  induction parts with
  | nil => simp
  | cons part parts ih =>
    cases parts with
    | nil => simp
    | cons second parts =>
      rw [List.map_cons, List.map_cons, List.intercalate_cons_cons, ← List.map_cons] at *
      have either : (∃ some ∈ part :: second :: parts, character ∈ some.toList) ↔
          character ∈ part.toList ∨ ∃ later ∈ second :: parts, character ∈ later.toList := by
        simp
      rw [either, List.mem_append, List.mem_append, List.mem_singleton, ih]
      simp only [List.length_cons]
      constructor
      · rintro ((here | same) | later | ⟨same, -⟩)
        · exact .inl (.inl here)
        · exact .inr ⟨same, by omega⟩
        · exact .inl (.inr later)
        · exact .inr ⟨same, by omega⟩
      · rintro ((here | later) | ⟨same, -⟩)
        · exact .inl (.inl here)
        · exact .inr (.inl later)
        · exact .inl (.inr same)

/-- There is a separator in a text if it has more than one part. -/
theorem Splits.mem_iff (splits : Splits separator text parts) :
    separator ∈ text.toList ↔ 1 < parts.length := by
  rw [splits.joined, mem_intercalate_iff]
  constructor
  · rintro (⟨part, among, inside⟩ | ⟨-, several⟩)
    · exact absurd inside (splits.free part among)
    · exact several
  · intro several
    exact .inr ⟨rfl, several⟩

end Text

/-! ## Parsing and writing -/

namespace TableId

variable {id : TableId} {text : String} {parts : List String} {error : TableError}

theorem separatorOf_of_mem (slash : '/' ∈ text.toList) : separatorOf text = '/' :=
  if_pos (List.contains_iff_mem.2 slash)

theorem separatorOf_of_not_mem (free : '/' ∉ text.toList) : separatorOf text = '.' :=
  if_neg fun slash => free (List.contains_iff_mem.1 slash)

/-- A text is parsed as an identifier if and only if it consists of its components. -/
theorem parse_eq_ok_iff_splits :
    parse text = .ok id ↔ id.Proper ∧ Text.Splits (separatorOf text) text id.components := by
  rw [parse_eq_ok_iff]
  refine and_congr_right fun _ => ⟨?_, ?_⟩
  · rintro ⟨joined, free⟩
    exact ⟨components_ne_nil id, joined, free⟩
  · intro splits
    exact ⟨splits.joined, splits.free⟩

/-- Whatever is wrong with a text, it is reported as a fault of configuration. -/
theorem category_of_parse (fails : parse text = .error error) : error.category = .config := by
  unfold parse at fails
  dsimp only at fails
  split at fails
  · cases fails
    rfl
  · split at fails
    · cases fails
    · cases fails
      rfl

/-- The components of a proper identifier are at least two, and none is blank. -/
theorem proper_iff : id.Proper ↔
    1 < id.components.length ∧ ∀ component ∈ id.components, Text.isBlank component = false := by
  have several : 1 < id.components.length ↔ id.levels ≠ [] := by
    simp [components, List.length_pos_iff]
  rw [several, components, List.forall_mem_append, List.forall_mem_singleton]
  constructor
  · intro proper
    exact ⟨proper.qualified, proper.filled, proper.named⟩
  · rintro ⟨qualified, filled, named⟩
    exact ⟨qualified, filled, named⟩

/-- **A text is parsed if and only if it has a separator and no part is blank.** -/
theorem exists_parse_iff (splits : Text.Splits (separatorOf text) text parts) :
    (∃ id, parse text = .ok id) ↔
      separatorOf text ∈ text.toList ∧ ∀ part ∈ parts, Text.isBlank part = false := by
  rw [splits.mem_iff]
  constructor
  · rintro ⟨id, parsed⟩
    obtain ⟨proper, also⟩ := parse_eq_ok_iff_splits.1 parsed
    rw [← splits.unique also]
    exact proper_iff.1 proper
  · rintro ⟨several, filled⟩
    obtain rfl | ⟨levels, name, rfl⟩ := List.eq_nil_or_concat parts
    · exact absurd rfl splits.filled
    · rw [List.concat_eq_append] at *
      exact ⟨⟨levels, name⟩, parse_eq_ok_iff_splits.2 ⟨proper_iff.2 ⟨several, filled⟩, splits⟩⟩

/-- The form with slashes is parsed as the identifier that was written. -/
theorem parse_slashes (proper : id.Proper) (free : ∀ component ∈ id.components,
    '/' ∉ component.toList) : parse (String.intercalate "/" id.components) = .ok id := by
  have splits : Text.Splits '/' (String.intercalate "/" id.components) id.components :=
    ⟨components_ne_nil id, rfl, free⟩
  have slash := splits.mem_iff.2 (proper_iff.1 proper).1
  rw [parse_eq_ok_iff_splits, separatorOf_of_mem slash]
  exact ⟨proper, splits⟩

/-- So is the form with dots. -/
theorem parse_display (proper : id.Proper)
    (slashes : ∀ component ∈ id.components, '/' ∉ component.toList)
    (dots : ∀ component ∈ id.components, '.' ∉ component.toList) :
    parse id.display = .ok id := by
  have splits : Text.Splits '.' id.display id.components :=
    ⟨components_ne_nil id, proper.parts.2.2, dots⟩
  have free : '/' ∉ id.display.toList := by
    rw [splits.joined, Text.mem_intercalate_iff]
    rintro (⟨component, among, slash⟩ | ⟨⟨⟩, -⟩)
    exact slashes component among slash
  rw [parse_eq_ok_iff_splits, separatorOf_of_not_mem free]
  exact ⟨proper, splits⟩

/-- **Written forms and identifiers.**

* Every text consists of parts in just one way. It is parsed if and only if it has a separator and no
  part is blank, and whatever else it is, the error is one of configuration. What it is parsed as has
  just these parts as its components: joined again they are the text, and no separator stands in one.
* An identifier that could be made is parsed from its components with slashes between them, if they
  hold no slash, and from the form with dots as well, if they hold no dot either. -/
theorem written_forms :
    (∀ text : String, ∃ parts, Text.Splits (separatorOf text) text parts ∧
      (∀ others, Text.Splits (separatorOf text) text others → others = parts) ∧
      ((∃ id, parse text = .ok id) ↔
        separatorOf text ∈ text.toList ∧ ∀ part ∈ parts, Text.isBlank part = false) ∧
      (∀ error, parse text = .error error → error.category = .config) ∧
      ∀ id, parse text = .ok id → id.levels ++ [id.name] = parts ∧
        String.intercalate (String.singleton (separatorOf text)) (id.levels ++ [id.name]) = text ∧
        ∀ component ∈ id.levels ++ [id.name], separatorOf text ∉ component.toList) ∧
    (∀ (levels : List String) (name : String) (id : TableId), make levels name = .ok id →
      (∀ component ∈ levels ++ [name], '/' ∉ component.toList) →
        parse (String.intercalate "/" (levels ++ [name])) = .ok id ∧
        ((∀ component ∈ levels ++ [name], '.' ∉ component.toList) →
          parse id.display = .ok id)) := by
  constructor
  · intro text
    obtain ⟨parts, splits⟩ := Text.exists_splits (separatorOf text) text
    refine ⟨parts, splits, fun _ => splits.unique, exists_parse_iff splits, ?_, ?_⟩
    · intro error fails
      exact category_of_parse fails
    · intro id parsed
      obtain ⟨-, also⟩ := parse_eq_ok_iff_splits.1 parsed
      exact ⟨splits.unique also, also.joined.symm, also.free⟩
  · intro levels name id made slashes
    obtain ⟨rfl, proper⟩ := make_eq_ok_iff.1 made
    have parsed := parse_slashes proper slashes
    exact ⟨parsed, parse_display proper slashes⟩

/-- Both forms of one identifier, and a text with an empty part. -/
theorem written_forms_orders :
    parse "sales/eu/orders" = .ok ⟨["sales", "eu"], "orders"⟩ ∧
      parse "sales.eu.orders" = .ok ⟨["sales", "eu"], "orders"⟩ ∧
      ∃ error, parse "sales//orders.v2" = .error error ∧ error.category = .config := by
  obtain ⟨parses, writes⟩ := written_forms
  have free : ∀ component ∈ ["sales", "eu"] ++ ["orders"],
      '/' ∉ component.toList ∧ '.' ∉ component.toList := by decide
  obtain ⟨slashes, dots⟩ := writes ["sales", "eu"] "orders" ⟨["sales", "eu"], "orders"⟩
    (make_eq_ok_iff.2 ⟨rfl, by decide⟩) fun component among => (free component among).1
  have withSlashes : String.intercalate "/" (["sales", "eu"] ++ ["orders"]) = "sales/eu/orders" := by
    decide
  have withDots : (TableId.mk ["sales", "eu"] "orders").display = "sales.eu.orders" := by decide
  rw [withSlashes] at slashes
  rw [withDots] at dots
  refine ⟨slashes, dots fun component among => (free component among).2, ?_⟩
  obtain ⟨parts, -, unique, accepted, refused, -⟩ := parses "sales//orders.v2"
  have split : ["sales", "", "orders.v2"] = parts := unique _ ⟨by simp, rfl, by decide⟩
  cases parsed : parse "sales//orders.v2" with
  | error error => exact ⟨error, rfl, refused error parsed⟩
  | ok id =>
    have empty : Text.isBlank "" = false := (accepted.1 ⟨id, parsed⟩).2 "" (split ▸ by simp)
    exact absurd empty (by decide)

end TableId

end StorageBroker
