/-
**Documents come back from their texts.**

The reader takes a document from the front of a text and leaves what follows. What follows a document
inside another one is a mark that no number goes on with, so that each part of what was written is
read up to its own end, and containers are read item by item. The bound on the number of calls is
never reached, since every item has a character and a mark after it.

* `Sound`: documents that can be written as they are;
* `Reads`: a document that is read wherever it stands;
* `items?_write`, `fields?_write`: what containers hold;
* `Sound.reads`: every sound document is read wherever it stands;
* `parse?_write`: so it is from its text.
-/

import Wayfinder.Proofs.Json.Scalars

namespace Wayfinder.Json

/-! ### Sound documents -/

/-- A document whose texts are sequences of characters and whose numbers have the form of the
format. -/
inductive Sound : Json → Prop
  | null : Sound .null
  | bool (value : Bool) : Sound (.bool value)
  | number {value : Number} (sound : value.Sound) : Sound (.number value)
  | string (text : String) : Sound (.string (some text))
  | array {items : List Json} (each : ∀ item ∈ items, Sound item) : Sound (.array items)
  | object {fields : List (Option String × Json)} (named : ∀ field ∈ fields, field.1 ≠ none)
      (each : ∀ field ∈ fields, Sound field.2) : Sound (.object fields)

theorem Sound.ofInt (value : Int) : (Json.ofInt value).Sound :=
  .number ⟨places_ofNat _, Numeral.ofNat_head (by decide) (by decide) _,
    fun places member => by cases member⟩

theorem Sound.ofList {α : Type} {write : α → Json} {items : List α}
    (each : ∀ item ∈ items, (write item).Sound) : (Json.ofList write items).Sound := by
  refine .array fun document member => ?_
  obtain ⟨item, there, rfl⟩ := List.mem_map.mp member
  exact each item there

theorem Sound.ofFields {fields : List (String × Json)} (each : ∀ field ∈ fields, field.2.Sound) :
    (Json.ofFields fields).Sound := by
  refine .object (fun field member => ?_) fun field member => ?_ <;>
    obtain ⟨field, there, rfl⟩ := List.mem_map.mp member
  · exact Option.some_ne_none _
  · exact each field there

/-! ### Documents -/

section Documents

variable {document item : Json} {items : List Json} {fields : List (Option String × Json)}
  {first : Char} {rest : List Char}

theorem skipBlanks_cons (solid : isBlank first = false) (rest : List Char) :
    skipBlanks (first :: rest) = first :: rest :=
  List.dropWhile_cons_of_neg (by simp [solid])

/-- A character with which a document can begin. -/
def Opens (first : Char) : Prop := isBlank first = false ∧ first ≠ ']'

/-- A document that is read wherever it stands. -/
structure Reads (document : Json) : Prop where
  spelled : ∃ first rest, Opens first ∧
    ∀ after, writeBefore document after = first :: (rest ++ after)
  read : ∀ steps after, Closes after →
    (writeBefore document after).length ≤ steps + after.length →
    value? steps (writeBefore document after) = some (document, after)

theorem Reads.length_lt (reads : Reads document) (after : List Char) :
    after.length < (writeBefore document after).length := by
  obtain ⟨first, rest, _, spelled⟩ := reads.spelled
  rw [spelled, List.length_cons, List.length_append]
  omega

/-- A document is read if it is after its first character has been seen. -/
theorem Reads.of_first (first : Char) (text : List Char) (opens : Opens first)
    (spelled : ∀ after, writeBefore document after = first :: (text ++ after))
    (step : ∀ steps after, Closes after → text.length ≤ steps →
      value? (steps + 1) (first :: (text ++ after)) = some (document, after)) : Reads document where
  spelled := ⟨first, text, opens, spelled⟩
  read := by
    intro steps after closes enough
    rw [spelled, List.length_cons, List.length_append] at enough
    obtain ⟨steps, rfl⟩ := Nat.exists_eq_add_one_of_ne_zero (show steps ≠ 0 by omega)
    rw [spelled]
    exact step steps after closes (by omega)

theorem Reads.null : Reads .null :=
  .of_first 'n' ['u', 'l', 'l'] ⟨rfl, by decide⟩ (fun _ => rfl) fun _ _ _ _ => rfl

theorem Reads.bool (value : Bool) : Reads (.bool value) := by
  cases value
  · exact .of_first 'f' ['a', 'l', 's', 'e'] ⟨rfl, by decide⟩ (fun _ => rfl) fun _ _ _ _ => rfl
  · exact .of_first 't' ['r', 'u', 'e'] ⟨rfl, by decide⟩ (fun _ => rfl) fun _ _ _ _ => rfl

/-- What a number begins with is none of the marks of other documents. -/
theorem ne_of_numeral {mark : Char} (numeral : Numeral.isDigitOf 10 first = true ∨ first = '-')
    (other : Numeral.isDigitOf 10 mark = false) (apart : '-' ≠ mark) : first ≠ mark := by
  rcases numeral with isDigit | rfl
  · exact ne_of_digit isDigit other
  · exact apart

theorem opens_of_numeral (numeral : Numeral.isDigitOf 10 first = true ∨ first = '-') :
    Opens first := by
  have space : first ≠ ' ' := ne_of_numeral numeral (by decide) (by decide)
  have tab : first ≠ '\t' := ne_of_numeral numeral (by decide) (by decide)
  have line : first ≠ '\n' := ne_of_numeral numeral (by decide) (by decide)
  have carriage : first ≠ '\r' := ne_of_numeral numeral (by decide) (by decide)
  exact ⟨by simp [isBlank, space, tab, line, carriage],
    ne_of_numeral numeral (by decide) (by decide)⟩

/-- What begins with a digit or with a minus sign is a number. -/
theorem value?_of_numeral (numeral : Numeral.isDigitOf 10 first = true ∨ first = '-') (steps : Nat)
    (rest : List Char) :
    value? (steps + 1) (first :: rest) =
      (number? (first :: rest)).map fun (numeral, rest) => (.number numeral, rest) := by
  rw [value?, skipBlanks_cons (opens_of_numeral numeral).1]
  split
  case h_7 => rfl
  all_goals
    next rest' begins =>
      exact absurd (List.cons.inj begins).1 (ne_of_numeral numeral (by decide) (by decide))

theorem Reads.number {value : Number} (sound : value.Sound) : Reads (.number value) := by
  obtain ⟨first, text, numeral, written⟩ := sound.head
  refine .of_first first text (opens_of_numeral numeral) written fun steps after closes _ => ?_
  rw [value?_of_numeral numeral, ← written, number?_write sound closes]
  rfl

theorem writeString_append (text : String) (after : List Char) :
    writeString text ++ after = '"' :: (text.toList.flatMap writeChar ++ '"' :: after) := by
  simp [writeString]

theorem Reads.string (text : String) : Reads (.string (some text)) := by
  refine .of_first '"' (text.toList.flatMap writeChar ++ ['"']) ⟨rfl, by decide⟩ (fun after => ?_)
    fun steps after _ _ => ?_
  · rw [writeBefore, Option.getD_some, writeString_append, List.append_assoc]
    rfl
  · rw [value?, skipBlanks_cons rfl, List.append_assoc, List.singleton_append]
    simp only [stringAfterQuote_write, Option.map_some]

/-! ### Arrays -/

/-- The text of items begins as that of a document, and goes on to what follows them. -/
theorem writeItems_spelled (each : ∀ other ∈ item :: items, Reads other) : ∃ first rest,
    Opens first ∧ ∀ after, writeItems (item :: items) after = first :: (rest ++ after) := by
  induction items generalizing item with
  | nil => exact (each item List.mem_cons_self).spelled
  | cons next others hypothesis =>
    obtain ⟨first, rest, opens, spelled⟩ := (each item List.mem_cons_self).spelled
    obtain ⟨first', rest', _, spelled'⟩ :=
      hypothesis fun other member => each other (List.mem_cons_of_mem _ member)
    refine ⟨first, rest ++ ',' :: first' :: rest', opens, fun after => ?_⟩
    rw [writeItems, spelled, spelled']
    · simp
    · exact fun none => List.cons_ne_nil _ _ none

section Item

variable {steps : Nat} {text left after : List Char}

/-- An item is read up to the end of the array. -/
theorem items?_last (read : value? steps text = some (item, ']' :: after)) :
    items? (steps + 1) text = some ([item], after) := by
  rw [items?, read]
  rfl

/-- An item is read up to the next one. -/
theorem items?_more (read : value? steps text = some (item, ',' :: left))
    (later : items? steps left = some (items, after)) :
    items? (steps + 1) text = some (item :: items, after) := by
  have comma : skipBlanks (',' :: left) = ',' :: left := skipBlanks_cons rfl _
  simp only [items?, read, Option.bind_eq_bind, Option.bind_some, comma, later]
  rfl

end Item

/-- **Items are read up to the end of the array.** -/
theorem items?_write (each : ∀ other ∈ item :: items, Reads other) (steps : Nat) (after : List Char)
    (enough : (writeItems (item :: items) (']' :: after)).length ≤ steps + after.length) :
    items? steps (writeItems (item :: items) (']' :: after)) = some (item :: items, after) := by
  have first := each item List.mem_cons_self
  induction items generalizing item steps with
  | nil =>
    have longer := first.length_lt (']' :: after)
    rw [writeItems] at enough ⊢
    rw [List.length_cons] at longer
    obtain ⟨steps, rfl⟩ := Nat.exists_eq_add_one_of_ne_zero (show steps ≠ 0 by omega)
    exact items?_last (first.read steps (']' :: after) (fun mark head => by cases head; simp)
      (by rw [List.length_cons]; omega))
  | cons next others hypothesis =>
    have later : ∀ other ∈ next :: others, Reads other :=
      fun other member => each other (List.mem_cons_of_mem item member)
    obtain ⟨begin, rest, _, spelled⟩ := writeItems_spelled later
    have text : writeItems (item :: next :: others) (']' :: after) =
        writeBefore item (',' :: writeItems (next :: others) (']' :: after)) := rfl
    -- what is left of the text after the first item and its mark is shorter by two at least
    have longer := first.length_lt (',' :: writeItems (next :: others) (']' :: after))
    have remaining := congrArg List.length (spelled (']' :: after))
    rw [text] at enough ⊢
    simp only [List.length_cons, List.length_append] at longer remaining
    obtain ⟨steps, rfl⟩ := Nat.exists_eq_add_one_of_ne_zero (show steps ≠ 0 by omega)
    exact items?_more (first.read steps (',' :: writeItems (next :: others) (']' :: after))
      (fun mark head => by cases head; simp) (by rw [List.length_cons]; omega))
      (hypothesis later steps (by omega) (later next List.mem_cons_self))

/-- An array that does not end at once has items. -/
theorem value?_array (opens : Opens first) (steps : Nat) (rest : List Char) :
    value? (steps + 1) ('[' :: first :: rest) =
      (items? steps (first :: rest)).map fun (items, rest) => (.array items, rest) := by
  have bracket : skipBlanks ('[' :: first :: rest) = '[' :: first :: rest := skipBlanks_cons rfl _
  simp only [value?, bracket, skipBlanks_cons opens.1]
  split
  · next closing => exact absurd (List.cons.inj closing).1 opens.2
  · rfl

theorem Reads.array (each : ∀ item ∈ items, Reads item) : Reads (.array items) := by
  cases items with
  | nil => exact .of_first '[' [']'] ⟨rfl, by decide⟩ (fun _ => rfl) fun _ _ _ _ => rfl
  | cons item others =>
    obtain ⟨begin, rest, opens, spelled⟩ := writeItems_spelled each
    refine .of_first '[' (begin :: rest ++ [']']) ⟨rfl, by decide⟩ (fun after => ?_)
      fun steps after _ enough => ?_
    · rw [writeBefore, spelled]
      simp
    · have whole : begin :: rest ++ [']'] ++ after = writeItems (item :: others) (']' :: after) := by
        rw [spelled]
        simp
      have within : (writeItems (item :: others) (']' :: after)).length ≤ steps + after.length := by
        rw [← whole, List.length_append]
        omega
      rw [whole, spelled, value?_array opens, ← spelled, items?_write each steps after within]
      rfl

/-! ### Objects -/

/-- A field whose document is read wherever it stands. -/
def ReadsField (field : Option String × Json) : Prop :=
  ∃ name value, field = (some name, value) ∧ Reads value

/-- The text of fields begins with a quote, and goes on to what follows them. -/
theorem writeFields_spelled {field : Option String × Json}
    (each : ∀ other ∈ field :: fields, ReadsField other) : ∃ rest,
    ∀ after, writeFields (field :: fields) after = '"' :: (rest ++ after) := by
  induction fields generalizing field with
  | nil =>
    obtain ⟨name, value, rfl, reads⟩ := each field List.mem_cons_self
    obtain ⟨first, rest, _, spelled⟩ := reads.spelled
    refine ⟨name.toList.flatMap writeChar ++ '"' :: ':' :: first :: rest, fun after => ?_⟩
    rw [writeFields, Option.getD_some, writeString_append, spelled]
    simp
  | cons next others hypothesis =>
    obtain ⟨name, value, rfl, reads⟩ := each field List.mem_cons_self
    obtain ⟨first, rest, _, spelled⟩ := reads.spelled
    obtain ⟨rest', spelled'⟩ :=
      hypothesis fun other member => each other (List.mem_cons_of_mem _ member)
    refine ⟨name.toList.flatMap writeChar ++ '"' :: ':' :: first :: (rest ++ ',' :: '"' :: rest'),
      fun after => ?_⟩
    rw [writeFields, Option.getD_some, writeString_append, spelled, spelled']
    · simp
    · exact fun none => List.cons_ne_nil _ _ none

section Field

variable {steps : Nat} {name : String} {value : Json} {text left after : List Char}

/-- A field is read up to the end of the object. -/
theorem fields?_last (read : value? steps text = some (value, '\x7d' :: after)) :
    fields? (steps + 1) (writeString name ++ ':' :: text) = some ([(some name, value)], after) := by
  have quote (text : List Char) : skipBlanks ('"' :: text) = '"' :: text := skipBlanks_cons rfl _
  have colon : skipBlanks (':' :: text) = ':' :: text := skipBlanks_cons rfl _
  have brace : skipBlanks ('\x7d' :: after) = '\x7d' :: after := skipBlanks_cons rfl _
  simp only [writeString_append, fields?, quote, stringAfterQuote_write, Option.bind_eq_bind,
    Option.bind_some, colon, read, brace]
  rfl

/-- A field is read up to the next one. -/
theorem fields?_more (read : value? steps text = some (value, ',' :: left))
    (later : fields? steps left = some (fields, after)) :
    fields? (steps + 1) (writeString name ++ ':' :: text) =
      some ((some name, value) :: fields, after) := by
  have quote (text : List Char) : skipBlanks ('"' :: text) = '"' :: text := skipBlanks_cons rfl _
  have colon : skipBlanks (':' :: text) = ':' :: text := skipBlanks_cons rfl _
  have comma : skipBlanks (',' :: left) = ',' :: left := skipBlanks_cons rfl _
  simp only [writeString_append, fields?, quote, stringAfterQuote_write, Option.bind_eq_bind,
    Option.bind_some, colon, read, comma, later]
  rfl

end Field

/-- **Fields are read up to the end of the object.** -/
theorem fields?_write {field : Option String × Json}
    (each : ∀ other ∈ field :: fields, ReadsField other) (steps : Nat) (after : List Char)
    (enough : (writeFields (field :: fields) ('\x7d' :: after)).length ≤ steps + after.length) :
    fields? steps (writeFields (field :: fields) ('\x7d' :: after)) =
      some (field :: fields, after) := by
  induction fields generalizing field steps with
  | nil =>
    obtain ⟨name, value, rfl, reads⟩ := each field List.mem_cons_self
    have text : writeFields [(some name, value)] ('\x7d' :: after) =
        writeString name ++ ':' :: writeBefore value ('\x7d' :: after) := rfl
    have longer := reads.length_lt ('\x7d' :: after)
    rw [text] at enough ⊢
    simp only [List.length_append, List.length_cons] at enough longer
    obtain ⟨steps, rfl⟩ := Nat.exists_eq_add_one_of_ne_zero (show steps ≠ 0 by omega)
    exact fields?_last (reads.read steps ('\x7d' :: after) (fun mark head => by cases head; simp)
      (by rw [List.length_cons]; omega))
  | cons next others hypothesis =>
    obtain ⟨name, value, rfl, reads⟩ := each field List.mem_cons_self
    have later : ∀ other ∈ next :: others, ReadsField other :=
      fun other member => each other (List.mem_cons_of_mem _ member)
    obtain ⟨rest, spelled⟩ := writeFields_spelled later
    have text : writeFields ((some name, value) :: next :: others) ('\x7d' :: after) =
        writeString name ++
          ':' :: writeBefore value (',' :: writeFields (next :: others) ('\x7d' :: after)) := rfl
    have longer := reads.length_lt (',' :: writeFields (next :: others) ('\x7d' :: after))
    have remaining := congrArg List.length (spelled ('\x7d' :: after))
    rw [text] at enough ⊢
    simp only [List.length_append, List.length_cons] at enough longer remaining
    obtain ⟨steps, rfl⟩ := Nat.exists_eq_add_one_of_ne_zero (show steps ≠ 0 by omega)
    exact fields?_more (reads.read steps (',' :: writeFields (next :: others) ('\x7d' :: after))
      (fun mark head => by cases head; simp) (by rw [List.length_cons]; omega))
      (hypothesis later steps (by omega))

/-- An object that does not end at once has fields. -/
theorem value?_object (steps : Nat) (rest : List Char) :
    value? (steps + 1) ('\x7b' :: '"' :: rest) =
      (fields? steps ('"' :: rest)).map fun (fields, rest) => (.object fields, rest) := by
  have brace : skipBlanks ('\x7b' :: '"' :: rest) = '\x7b' :: '"' :: rest := skipBlanks_cons rfl _
  have quote : skipBlanks ('"' :: rest) = '"' :: rest := skipBlanks_cons rfl _
  simp only [value?, brace, quote]
  rfl

theorem Reads.object (each : ∀ field ∈ fields, ReadsField field) : Reads (.object fields) := by
  cases fields with
  | nil => exact .of_first '\x7b' ['\x7d'] ⟨rfl, by decide⟩ (fun _ => rfl) fun _ _ _ _ => rfl
  | cons field others =>
    obtain ⟨rest, spelled⟩ := writeFields_spelled each
    refine .of_first '\x7b' ('"' :: rest ++ ['\x7d']) ⟨rfl, by decide⟩ (fun after => ?_)
      fun steps after _ enough => ?_
    · rw [writeBefore, spelled]
      simp
    · have whole : '"' :: rest ++ ['\x7d'] ++ after =
          writeFields (field :: others) ('\x7d' :: after) := by
        rw [spelled]
        simp
      have within :
          (writeFields (field :: others) ('\x7d' :: after)).length ≤ steps + after.length := by
        rw [← whole, List.length_append]
        omega
      rw [whole, spelled, value?_object, ← spelled, fields?_write each steps after within]
      rfl

/-- **Every sound document is read wherever it stands.** -/
theorem Sound.reads (sound : document.Sound) : Reads document := by
  induction sound with
  | null => exact .null
  | bool value => exact .bool value
  | number sound => exact .number sound
  | string text => exact .string text
  | array each hypothesis => exact .array hypothesis
  | object named each hypothesis =>
    refine .object fun field member => ?_
    obtain ⟨name, value⟩ := field
    cases name with
    | none => exact absurd rfl (named _ member)
    | some name => exact ⟨name, value, rfl, hypothesis _ member⟩

/-- **A document is read from its text**, and nothing follows it. -/
theorem parse?_write (sound : document.Sound) : parse? document.write = some document := by
  have read := sound.reads.read ((writeBefore document []).length + 1) []
    (fun mark head => by cases head) (Nat.le_succ_of_le (Nat.le_refl _))
  rw [parse?, write, String.toList_ofList]
  simp only [read]
  rfl

end Documents

end Wayfinder.Json
