import PhantomHost.Json.Depth
import PhantomHost.Proofs.Json.Plain
/-!
Reading what has been written on several lines. Every value whose integers are not too long and whose
collections are not nested too deep is read back in its normal form.
-/
namespace PhantomHost.Json

open PhantomHost.Text PhantomHost.Decimal

/-- Fields put one after the other: of two fields of one name the last counts, in the place of the first. -/
def united (fields : List (Text × Json)) : List (Text × Json) :=
  fields.foldl (fun known (key, value) => putField key value known) []

mutual

/-- A value as it is read back. Its texts are those that their units stand for, and no two fields of an
object have the same name. -/
def normal : Json → Json
  | .null => .null
  | .bool value => .bool value
  | .int value => .int value
  | .float value => .float value
  | .text value => .text (ofUnits (units value))
  | .arr items => .arr (normalItems items)
  | .obj fields => .obj (united (normalFields fields))

/-- The normal forms of the values of a list. -/
def normalItems : List Json → List Json
  | [] => []
  | item :: rest => normal item :: normalItems rest

/-- The normal forms of fields, names included, before fields of one name are united. -/
def normalFields : List (Text × Json) → List (Text × Json)
  | [] => []
  | (key, value) :: rest => (ofUnits (units key), normal value) :: normalFields rest

end

/-- What a word or a number starts with: a letter, a digit or a sign. -/
def startsScalar (c : Symbol) : Bool :=
  c.is Char.isAlphanum || c == .char '-'

theorem startsScalar_of_isDigit {c : Symbol} (h : c.is Char.isDigit = true) : startsScalar c = true := by
  cases c with
  | char c =>
      have hDigit : c.isDigit = true := h
      simp [startsScalar, Symbol.is, Char.isAlphanum, hDigit]
  | lone half => cases h

/-- A text that starts with a sign or a digit. -/
theorem signText_start (negative : Bool) {text : Text}
    (h : ∃ c more, text = c :: more ∧ c.is Char.isDigit = true) :
    ∃ c more, signText negative ++ text = c :: more ∧ startsScalar c = true := by
  obtain ⟨c, more, rfl, hDigit⟩ := h
  cases negative with
  | true => exact ⟨.char '-', c :: more, rfl, by decide⟩
  | false => exact ⟨c, more, rfl, startsScalar_of_isDigit hDigit⟩

theorem decimalText_start (n : Int) : ∃ c more, decimalText n = c :: more ∧ startsScalar c = true := by
  rw [decimalText_eq]
  apply signText_start
  obtain ⟨c, more, hDigits⟩ := List.exists_cons_of_ne_nil (digits_ne_nil n.natAbs)
  exact ⟨c, more, hDigits, allDigits_digits n.natAbs c (by rw [hDigits]; exact List.mem_cons_self)⟩

theorem writeFloat_start (x : Float) : ∃ c more, writeFloat x = c :: more ∧ startsScalar c = true := by
  rcases Nat.lt_trichotomy (Decimal.magnitude x) Decimal.infinityBits with hFinite | hInfinite | hNone
  · rw [writeFloat_eq hFinite]
    exact signText_start _ (magnitudeText_start hFinite)
  · rw [writeFloat, Decimal.writeDouble, if_neg (by omega), if_pos hInfinite]
    split
    · exact ⟨_, _, rfl, by decide⟩
    · exact ⟨_, _, rfl, by decide⟩
  · rw [writeFloat, Decimal.writeDouble, if_pos hNone]
    exact ⟨_, _, rfl, by decide⟩

theorem readValue_scalar {c : Symbol} (h : startsScalar c = true) (depth fuel : Nat) (rest : Text) :
    readValue depth (fuel + 1) (c :: rest) = readScalar (c :: rest) := by
  rw [readValue]
  · rintro more ⟨⟩
    cases h
  · rintro more ⟨⟩
    cases h
  · rintro more ⟨⟩
    cases h

theorem skipSpace_cons {c : Symbol} (h : isSpace c = false) (text : Text) :
    skipSpace (c :: text) = c :: text := by
  rw [skipSpace, List.dropWhile_cons_of_neg (by simp [h])]

theorem isSpace_of_startsScalar {c : Symbol} (h : startsScalar c = true) : isSpace c = false := by
  cases hSpace : isSpace c with
  | false => rfl
  | true =>
      simp only [isSpace, Bool.or_eq_true, beq_iff_eq] at hSpace
      rcases hSpace with ((rfl | rfl) | rfl) | rfl
      all_goals cases h

@[simp] theorem skipSpace_newLine (depth : Nat) (text : Text) :
    skipSpace (newLine depth ++ text) = skipSpace text := by
  have hSpaces : ∀ c ∈ newLine depth, isSpace c = true := by
    intro c hc
    rcases List.mem_cons.1 hc with rfl | hBlank
    · decide
    · rw [List.eq_of_mem_replicate hBlank]
      decide
  rw [skipSpace, List.dropWhile_append_of_pos hSpaces, skipSpace]

theorem length_newLine (depth : Nat) : (newLine depth).length = 2 * depth + 1 := by
  simp [newLine]

/-- What is written for a value starts neither with a blank nor with the end of a list. -/
theorem writeAt_start (depth : Nat) (value : Json) :
    ∃ c more, writeAt depth value = c :: more ∧ isSpace c = false ∧ c ≠ .char ']' := by
  have hScalar {text : Text} (h : ∃ c more, text = c :: more ∧ startsScalar c = true) :
      ∃ c more, text = c :: more ∧ isSpace c = false ∧ c ≠ .char ']' := by
    obtain ⟨c, more, rfl, hStart⟩ := h
    refine ⟨c, more, rfl, isSpace_of_startsScalar hStart, ?_⟩
    rintro rfl
    cases hStart
  cases value with
  | null => exact ⟨_, _, rfl, by decide, by decide⟩
  | bool value => cases value <;> exact ⟨_, _, rfl, by decide, by decide⟩
  | int n =>
      rw [writeAt]
      exact hScalar (decimalText_start n)
  | float x =>
      rw [writeAt]
      exact hScalar (writeFloat_start x)
  | text content =>
      rw [writeAt, writeText_eq]
      exact ⟨_, _, rfl, by decide, by decide⟩
  | arr items => cases items <;> exact ⟨_, _, rfl, by decide, by decide⟩
  | obj fields => cases fields <;> exact ⟨_, _, rfl, by decide, by decide⟩

theorem skipSpace_writeAt (depth : Nat) (value : Json) (rest : Text) :
    skipSpace (writeAt depth value ++ rest) = writeAt depth value ++ rest := by
  obtain ⟨c, more, hFirst, hSpace, -⟩ := writeAt_start depth value
  rw [hFirst, List.cons_append, skipSpace_cons hSpace]

theorem ends_newLine (depth : Nat) (rest : Text) : Ends (newLine depth ++ rest) :=
  ends_cons _ (by decide) (by decide) (by decide) (by decide)

theorem ends_writeItems (depth margin : Nat) (items : List Json) (rest : Text) :
    Ends (writeItems depth items ++ (newLine margin ++ rest)) := by
  cases items with
  | nil => exact ends_newLine margin rest
  | cons item items => exact ends_cons _ (by decide) (by decide) (by decide) (by decide)

theorem ends_writeFields (depth margin : Nat) (fields : List (Text × Json)) (rest : Text) :
    Ends (writeFields depth fields ++ (newLine margin ++ rest)) := by
  cases fields with
  | nil => exact ends_newLine margin rest
  | cons field fields => exact ends_cons _ (by decide) (by decide) (by decide) (by decide)

theorem readValue_of_readScalar {depth fuel : Nat} {text rest : Text} {value : Json}
    (hStart : ∃ c more, text = c :: more ∧ startsScalar c = true)
    (hRead : readScalar (text ++ rest) = .ok (value, rest)) :
    readValue depth (fuel + 1) (text ++ rest) = .ok (value, rest) := by
  obtain ⟨c, more, rfl, hc⟩ := hStart
  rw [List.cons_append, readValue_scalar hc, ← List.cons_append, hRead]

theorem readValue_null (depth fuel : Nat) (rest : Text) :
    readValue depth (fuel + 1) ("null" ++ rest) = .ok (.null, rest) := by
  have hStart : startsScalar (.char 'n') = true := by decide
  apply readValue_of_readScalar ⟨.char 'n', "ull", rfl, hStart⟩
  apply readScalar_word
  simp [wordValues, Text.ofString]

theorem readValue_bool (value : Bool) (depth fuel margin : Nat) (rest : Text) :
    readValue depth (fuel + 1) (writeAt margin (.bool value) ++ rest) = .ok (.bool value, rest) := by
  rw [writeAt]
  cases value with
  | true =>
      have hStart : startsScalar (.char 't') = true := by decide
      apply readValue_of_readScalar ⟨.char 't', "rue", rfl, hStart⟩
      apply readScalar_word
      simp [wordValues, Text.ofString]
  | false =>
      have hStart : startsScalar (.char 'f') = true := by decide
      apply readValue_of_readScalar ⟨.char 'f', "alse", rfl, hStart⟩
      apply readScalar_word
      simp [wordValues, Text.ofString]

theorem readValue_writeText (content : Text) (depth fuel : Nat) (rest : Text) :
    readValue depth (fuel + 1) (writeText content ++ rest) = .ok (.text (ofUnits (units content)), rest) := by
  rw [writeText_eq, List.cons_append, List.append_assoc, List.singleton_append, readValue, readQuoted_units]
  rfl

theorem readValue_list {depth fuel : Nat} {text : Text} (hDepth : depth < nestingLimit)
    (hStart : ∀ more, skipSpace text ≠ .char ']' :: more) :
    readValue depth (fuel + 1) (.char '[' :: text) =
      (readItems (depth + 1) fuel (skipSpace text)).map fun (items, after) => (.arr items, after) := by
  rw [readValue, if_neg (by omega)]
  split
  · rename_i after hEnd
    exact absurd hEnd (hStart after)
  · rfl

theorem readValue_object {depth fuel : Nat} {text : Text} (hDepth : depth < nestingLimit)
    (hStart : ∀ more, skipSpace text ≠ .char '\x7d' :: more) :
    readValue depth (fuel + 1) (.char '\x7b' :: text) =
      (readFields (depth + 1) fuel (skipSpace text)).map fun (fields, after) =>
        (.obj (united fields), after) := by
  rw [readValue, if_neg (by omega)]
  split
  · rename_i after hEnd
    exact absurd hEnd (hStart after)
  · rfl

/-- The items of a list, up to its end and with what follows. -/
def itemsText (depth closing : Nat) (item : Json) (items : List Json) (rest : Text) : Text :=
  writeAt depth item ++ (writeItems depth items ++ (newLine closing ++ .char ']' :: rest))

/-- The fields of an object, up to its end and with what follows. -/
def fieldsText (depth closing : Nat) (key : Text) (value : Json) (fields : List (Text × Json))
    (rest : Text) : Text :=
  writeText key ++ .char ':' :: .char ' ' :: (writeAt depth value ++
    (writeFields depth fields ++ (newLine closing ++ .char '\x7d' :: rest)))

theorem writeAt_items (depth : Nat) (item : Json) (items : List Json) (rest : Text) :
    writeAt depth (.arr (item :: items)) ++ rest =
      .char '[' :: (newLine (depth + 1) ++ itemsText (depth + 1) depth item items rest) := by
  rw [writeAt]
  simp [itemsText, Text.ofString]

theorem writeItems_cons_append (depth closing : Nat) (item : Json) (items : List Json) (rest : Text) :
    writeItems depth (item :: items) ++ (newLine closing ++ .char ']' :: rest) =
      .char ',' :: (newLine depth ++ itemsText depth closing item items rest) := by
  simp [writeItems, itemsText]

theorem writeAt_fields (depth : Nat) (key : Text) (value : Json) (fields : List (Text × Json))
    (rest : Text) :
    writeAt depth (.obj ((key, value) :: fields)) ++ rest =
      .char '\x7b' :: (newLine (depth + 1) ++ fieldsText (depth + 1) depth key value fields rest) := by
  rw [writeAt]
  simp [fieldsText, Text.ofString]

theorem writeFields_cons_append (depth closing : Nat) (key : Text) (value : Json)
    (fields : List (Text × Json)) (rest : Text) :
    writeFields depth ((key, value) :: fields) ++ (newLine closing ++ .char '\x7d' :: rest) =
      .char ',' :: (newLine depth ++ fieldsText depth closing key value fields rest) := by
  simp [writeFields, fieldsText, Text.ofString]

theorem skipSpace_itemsText (depth closing : Nat) (item : Json) (items : List Json) (rest : Text) :
    skipSpace (itemsText depth closing item items rest) = itemsText depth closing item items rest :=
  skipSpace_writeAt depth item _

theorem fieldsText_eq (depth closing : Nat) (key : Text) (value : Json) (fields : List (Text × Json))
    (rest : Text) :
    fieldsText depth closing key value fields rest =
      .char '"' :: ((units key).flatMap escapeUnit ++ .char '"' :: .char ':' :: .char ' ' ::
        (writeAt depth value ++ (writeFields depth fields ++ (newLine closing ++ .char '\x7d' :: rest)))) := by
  simp [fieldsText, writeText_eq]

theorem skipSpace_fieldsText (depth closing : Nat) (key : Text) (value : Json)
    (fields : List (Text × Json)) (rest : Text) :
    skipSpace (fieldsText depth closing key value fields rest) =
      fieldsText depth closing key value fields rest := by
  rw [fieldsText_eq]
  exact skipSpace_cons (by decide) _

mutual

/-- A value is read back in its normal form. -/
theorem readValue_writeAt (value : Json) {limit depth fuel margin : Nat} {rest : Text}
    (hDeep : deepest? limit value = none) (hShort : isOverlong value = false)
    (hNest : depth + limit ≤ nestingLimit) (hFuel : (writeAt margin value).length < fuel)
    (hRest : Ends rest) :
    readValue depth fuel (writeAt margin value ++ rest) = .ok (normal value, rest) := by
  obtain ⟨fuel, rfl⟩ : ∃ more, fuel = more + 1 := ⟨fuel - 1, by omega⟩
  cases value with
  | null =>
      rw [writeAt, normal]
      exact readValue_null depth fuel rest
  | bool value =>
      rw [normal]
      exact readValue_bool value depth fuel margin rest
  | int n =>
      rw [isOverlong, decide_eq_false_iff_not, not_le] at hShort
      rw [writeAt]
      exact readValue_of_readScalar (decimalText_start n) (readScalar_decimalText hShort hRest)
  | float x =>
      rw [writeAt]
      exact readValue_of_readScalar (writeFloat_start x) (readScalar_writeFloat x hRest)
  | text content =>
      rw [writeAt, normal]
      exact readValue_writeText content depth fuel rest
  | arr items =>
      cases limit with
      | zero => cases hDeep
      | succ limit =>
          cases items with
          | nil =>
              rw [writeAt, normal, List.cons_append, readValue, if_neg (by omega)]
              rfl
          | cons item items =>
              have hLength := congrArg List.length (writeAt_items margin item items rest)
              simp only [itemsText, List.length_append, List.length_cons, length_newLine] at hLength
              rw [writeAt_items, readValue_list (by omega), skipSpace_newLine, skipSpace_itemsText,
                readItems_itemsText item items hDeep hShort (by omega) (by omega), normal]
              · rfl
              · intro after hAfter
                obtain ⟨c, more, hFirst, -, hEnd⟩ := writeAt_start (margin + 1) item
                rw [skipSpace_newLine, skipSpace_itemsText, itemsText, hFirst] at hAfter
                exact hEnd (List.cons.inj hAfter).1
  | obj fields =>
      cases limit with
      | zero => cases hDeep
      | succ limit =>
          cases fields with
          | nil =>
              rw [writeAt, normal, List.cons_append, readValue, if_neg (by omega)]
              rfl
          | cons field fields =>
              cases field with
              | mk key value =>
                  have hLength := congrArg List.length (writeAt_fields margin key value fields rest)
                  simp only [fieldsText, List.length_append, List.length_cons, length_newLine] at hLength
                  rw [writeAt_fields, readValue_object (by omega), skipSpace_newLine, skipSpace_fieldsText,
                    readFields_fieldsText key value fields hDeep hShort (by omega) (by omega), normal]
                  · rfl
                  · intro after hAfter
                    rw [skipSpace_newLine, skipSpace_fieldsText, fieldsText_eq] at hAfter
                    cases hAfter
termination_by sizeOf value

/-- The items of a list are read back in their normal forms. -/
theorem readItems_itemsText (item : Json) (items : List Json) {limit depth fuel margin closing : Nat}
    {rest : Text} (hDeep : deepestItem? limit (item :: items) = none)
    (hShort : anyOverlong (item :: items) = false) (hNest : depth + limit ≤ nestingLimit)
    (hFuel : (writeAt margin item).length + (writeItems margin items).length + 1 < fuel) :
    readItems depth fuel (itemsText margin closing item items rest) =
      .ok (normalItems (item :: items), rest) := by
  obtain ⟨fuel, rfl⟩ : ∃ more, fuel = more + 1 := ⟨fuel - 1, by omega⟩
  rw [deepestItem?, Option.or_eq_none_iff] at hDeep
  rw [anyOverlong, Bool.or_eq_false_iff] at hShort
  have hEnds := ends_writeItems margin closing items (.char ']' :: rest)
  have hItem : readValue depth fuel (writeAt margin item ++ _) = _ :=
    readValue_writeAt item hDeep.1 hShort.1 hNest (by omega) hEnds
  rw [itemsText, readItems, hItem]
  cases items with
  | nil =>
      have hSpace : isSpace (.char ']') = false := by decide
      simp only [writeItems, List.nil_append, skipSpace_newLine, skipSpace_cons hSpace, normalItems]
  | cons next items =>
      have hSpace : isSpace (.char ',') = false := by decide
      have hLength := congrArg List.length (writeItems_cons_append margin closing next items rest)
      simp only [itemsText, List.length_append, List.length_cons, length_newLine] at hLength
      have hItems : readItems depth fuel (itemsText margin closing next items rest) = _ :=
        readItems_itemsText next items hDeep.2 hShort.2 hNest (by omega)
      simp only [writeItems_cons_append, skipSpace_cons hSpace, skipSpace_newLine, skipSpace_itemsText,
        hItems, normalItems]
      rfl
termination_by sizeOf (item :: items)

/-- The fields of an object are read back in their normal forms. -/
theorem readFields_fieldsText (key : Text) (value : Json) (fields : List (Text × Json))
    {limit depth fuel margin closing : Nat} {rest : Text}
    (hDeep : deepestField? limit ((key, value) :: fields) = none)
    (hShort : anyFieldOverlong ((key, value) :: fields) = false) (hNest : depth + limit ≤ nestingLimit)
    (hFuel : (writeText key).length + (writeAt margin value).length + (writeFields margin fields).length + 1 <
      fuel) :
    readFields depth fuel (fieldsText margin closing key value fields rest) =
      .ok (normalFields ((key, value) :: fields), rest) := by
  obtain ⟨fuel, rfl⟩ : ∃ more, fuel = more + 1 := ⟨fuel - 1, by omega⟩
  rw [deepestField?, Option.or_eq_none_iff] at hDeep
  rw [anyFieldOverlong, Bool.or_eq_false_iff] at hShort
  have hColon : isSpace (.char ':') = false := by decide
  have hBlank (text : Text) : skipSpace (.char ' ' :: text) = skipSpace text := rfl
  have hEnds := ends_writeFields margin closing fields (.char '\x7d' :: rest)
  have hValue : readValue depth fuel (writeAt margin value ++ _) = _ :=
    readValue_writeAt value hDeep.1 hShort.1 hNest (by omega) hEnds
  rw [fieldsText_eq, readFields]
  simp only [readQuoted_units, skipSpace_cons hColon, hBlank, skipSpace_writeAt, hValue]
  cases fields with
  | nil =>
      have hSpace : isSpace (.char '\x7d') = false := by decide
      simp only [writeFields, List.nil_append, skipSpace_newLine, skipSpace_cons hSpace, normalFields]
  | cons field fields =>
      cases field with
      | mk name next =>
          have hSpace : isSpace (.char ',') = false := by decide
          have hLength := congrArg List.length (writeFields_cons_append margin closing name next fields rest)
          simp only [fieldsText, List.length_append, List.length_cons, length_newLine] at hLength
          have hFields : readFields depth fuel (fieldsText margin closing name next fields rest) = _ :=
            readFields_fieldsText name next fields hDeep.2 hShort.2 hNest (by omega)
          simp only [writeFields_cons_append, skipSpace_cons hSpace, skipSpace_newLine, skipSpace_fieldsText,
            hFields, normalFields]
          rfl
termination_by sizeOf ((key, value) :: fields)

end

/-- A value that is written on several lines is read back in its normal form. -/
theorem read_indented {limit : Nat} {value : Json} (hDeep : deepest? limit value = none)
    (hShort : isOverlong value = false) (hNest : limit ≤ nestingLimit) :
    read (indented value) = .ok (normal value) := by
  obtain ⟨c, more, hFirst, hSpace, -⟩ := writeAt_start 0 value
  have hRead : readValue 0 (2 * (indented value).length + 2) (indented value) = .ok (normal value, []) := by
    have hValue : readValue 0 (2 * (indented value).length + 2) (writeAt 0 value ++ []) = _ :=
      readValue_writeAt value hDeep hShort (by omega) (by rw [indented]; omega) ends_nil
    rw [List.append_nil] at hValue
    exact hValue
  have hSkip : skipSpace (indented value) = indented value := by
    rw [indented, hFirst, skipSpace_cons hSpace]
  have hMark : ¬((indented value).head? == some (.char '\uFEFF')) = true := by
    have hPlain := all_isPlain_writeAt 0 value
    rw [hFirst, List.all_cons, Bool.and_eq_true] at hPlain
    rw [indented, hFirst, List.head?_cons, beq_iff_eq, Option.some.injEq]
    rintro rfl
    exact absurd hPlain.1 (by decide)
  rw [read, if_neg hMark, hSkip, hRead]
  rfl

end PhantomHost.Json
