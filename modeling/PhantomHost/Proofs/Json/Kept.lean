import PhantomHost.Proofs.Json.RoundTrip
/-!
Values that are written and read back as they are. Whatever has been read from a text is such a value: its
texts are made of units, an object has no two fields of one name, and no integer has too many digits.
-/
namespace PhantomHost.Json

open PhantomHost.Text PhantomHost.Decimal

/-- A value that is written and read back as it is. -/
inductive Kept : Json → Prop where
  | null : Kept .null
  | bool (value : Bool) : Kept (.bool value)
  | int {n : Int} (h : Readable n) : Kept (.int n)
  | float (x : Float) : Kept (.float x)
  | text {content : Text} (h : ofUnits (units content) = content) : Kept (.text content)
  | arr {items : List Json} (h : ∀ item ∈ items, Kept item) : Kept (.arr items)
  | obj {fields : List (Text × Json)} (hNodup : (fields.map Prod.fst).Nodup)
      (hNames : ∀ field ∈ fields, ofUnits (units field.1) = field.1)
      (hValues : ∀ field ∈ fields, Kept field.2) : Kept (.obj fields)

theorem mem_putField {key : Text} {value : Json} {fields : List (Text × Json)} {field : Text × Json}
    (h : field ∈ putField key value fields) : field = (key, value) ∨ field ∈ fields := by
  induction fields with
  | nil => exact Or.inl (List.mem_singleton.1 h)
  | cons first rest ih =>
      rw [putField] at h
      split at h
      · rename_i hKey
        rw [hKey] at h
        rcases List.mem_cons.1 h with hFirst | hRest
        · exact Or.inl hFirst
        · exact Or.inr (List.mem_cons_of_mem _ hRest)
      · rcases List.mem_cons.1 h with hFirst | hRest
        · exact Or.inr (hFirst ▸ List.mem_cons_self)
        · rcases ih hRest with hNew | hOld
          · exact Or.inl hNew
          · exact Or.inr (List.mem_cons_of_mem _ hOld)

theorem nodup_putField {key : Text} {value : Json} {fields : List (Text × Json)}
    (h : (fields.map Prod.fst).Nodup) : ((putField key value fields).map Prod.fst).Nodup := by
  induction fields with
  | nil => simp [putField]
  | cons first rest ih =>
      rw [List.map_cons, List.nodup_cons] at h
      rw [putField]
      split
      · rw [List.map_cons, List.nodup_cons]
        exact h
      · rename_i hKey
        rw [List.map_cons, List.nodup_cons]
        refine ⟨?_, ih h.2⟩
        intro hMore
        obtain ⟨field, hField, hName⟩ := List.mem_map.1 hMore
        rcases mem_putField hField with rfl | hOld
        · exact hKey hName.symm
        · exact h.1 (List.mem_map.2 ⟨field, hOld, hName⟩)

theorem putField_of_notMem {key : Text} {value : Json} {fields : List (Text × Json)}
    (h : key ∉ fields.map Prod.fst) : putField key value fields = fields ++ [(key, value)] := by
  induction fields with
  | nil => rfl
  | cons first rest ih =>
      rw [List.map_cons, List.mem_cons, not_or] at h
      rw [putField, if_neg fun hKey => h.1 hKey.symm, ih h.2]
      rfl

/-! ### United fields -/

theorem foldl_putField_spec {P : Text × Json → Prop} {fields known : List (Text × Json)}
    (h : ∀ field ∈ fields, P field) (hKnown : ∀ field ∈ known, P field)
    (hNodup : (known.map Prod.fst).Nodup) :
    (∀ field ∈ fields.foldl (fun known (key, value) => putField key value known) known, P field) ∧
      ((fields.foldl (fun known (key, value) => putField key value known) known).map Prod.fst).Nodup := by
  induction fields generalizing known with
  | nil => exact ⟨hKnown, hNodup⟩
  | cons first rest ih =>
      refine ih (fun field hField => h field (List.mem_cons_of_mem _ hField)) ?_ (nodup_putField hNodup)
      intro field hField
      rcases mem_putField hField with rfl | hOld
      · exact h _ List.mem_cons_self
      · exact hKnown field hOld

theorem foldl_putField_of_nodup {fields known : List (Text × Json)}
    (hNodup : ((known ++ fields).map Prod.fst).Nodup) :
    fields.foldl (fun known (key, value) => putField key value known) known = known ++ fields := by
  induction fields generalizing known with
  | nil => exact (List.append_nil known).symm
  | cons first rest ih =>
      have hFresh : first.1 ∉ known.map Prod.fst := by
        rw [List.map_append, List.nodup_append] at hNodup
        intro hOld
        exact hNodup.2.2 first.1 hOld first.1 List.mem_cons_self rfl
      rw [List.foldl_cons]
      simp only [putField_of_notMem hFresh]
      rw [ih, List.append_assoc]
      · rfl
      · rw [List.append_assoc]
        exact hNodup

/-- What holds of all fields holds of them when they are united, and no two of them have the same name. -/
theorem united_spec {P : Text × Json → Prop} {fields : List (Text × Json)}
    (h : ∀ field ∈ fields, P field) :
    (∀ field ∈ united fields, P field) ∧ ((united fields).map Prod.fst).Nodup :=
  foldl_putField_spec h (List.forall_mem_nil P) List.nodup_nil

/-- Fields of different names stay as they are when they are united. -/
theorem united_of_nodup {fields : List (Text × Json)} (h : (fields.map Prod.fst).Nodup) :
    united fields = fields :=
  foldl_putField_of_nodup h

theorem Kept.normal_eq {value : Json} (h : value.Kept) : value.normal = value := by
  induction h with
  | null => rfl
  | bool value => rfl
  | int h => rfl
  | float x => rfl
  | text h => rw [normal, h]
  | arr h ih =>
      rename_i items
      have hItems : normalItems items = items := by
        clear h
        induction items with
        | nil => rfl
        | cons item rest ihRest =>
            rw [normalItems, ih item List.mem_cons_self,
              ihRest fun other hOther => ih other (List.mem_cons_of_mem _ hOther)]
      rw [normal, hItems]
  | obj hNodup hNames hValues ih =>
      rename_i fields
      have hFields : normalFields fields = fields := by
        clear hNodup hValues
        induction fields with
        | nil => rfl
        | cons field rest ihRest =>
            rw [normalFields, hNames field List.mem_cons_self, ih field List.mem_cons_self,
              ihRest (fun other hOther => hNames other (List.mem_cons_of_mem _ hOther))
                fun other hOther => ih other (List.mem_cons_of_mem _ hOther)]
      rw [normal, hFields, united_of_nodup hNodup]

theorem Kept.isOverlong_eq_false {value : Json} (h : value.Kept) : value.isOverlong = false := by
  induction h with
  | null => rfl
  | bool value => rfl
  | int h =>
      rw [isOverlong, decide_eq_false_iff_not, not_le]
      exact h
  | float x => rfl
  | text h => rfl
  | arr h ih =>
      rename_i items
      rw [isOverlong]
      clear h
      induction items with
      | nil => rfl
      | cons item rest ihRest =>
          rw [anyOverlong, ih item List.mem_cons_self,
            ihRest fun other hOther => ih other (List.mem_cons_of_mem _ hOther)]
          rfl
  | obj hNodup hNames hValues ih =>
      rename_i fields
      rw [isOverlong]
      clear hNodup hNames hValues
      induction fields with
      | nil => rfl
      | cons field rest ihRest =>
          rw [anyFieldOverlong, ih field List.mem_cons_self,
            ihRest fun other hOther => ih other (List.mem_cons_of_mem _ hOther)]
          rfl

theorem exists_of_map_eq_ok {α β ε : Type} {f : α → β} {reading : Except ε α} {b : β}
    (h : reading.map f = .ok b) : ∃ a, reading = .ok a ∧ f a = b := by
  cases reading with
  | error fault => cases h
  | ok a => exact ⟨a, rfl, Except.ok.inj h⟩

theorem ofUnits_units_of_readQuoted {text content after : Text} (h : readQuoted text = .ok (content, after)) :
    ofUnits (units content) = content := by
  unfold readQuoted at h
  split at h
  · cases h
  · obtain ⟨found, -, hFound⟩ := exists_of_map_eq_ok h
    cases hFound
    rw [units_ofUnits]

theorem allDigits_asciiDigits (text : Text) : AllDigits (asciiDigits text).1 :=
  List.all_eq_true.1 List.all_takeWhile

theorem allDigits_readWhole (text : Text) : AllDigits (readWhole text).1 := by
  unfold readWhole
  split
  · intro c hc
    rw [List.mem_singleton.1 hc]
    decide
  · exact allDigits_asciiDigits text

theorem kept_of_readNumber {text after : Text} {value : Json} (h : readNumber text = .ok (value, after)) :
    Kept value := by
  unfold readNumber at h
  split at h
  rename_i negative body _
  have hDigits := allDigits_readWhole body
  split at h
  · cases h
  · rename_i whole afterWhole _ hWhole
    rw [hWhole] at hDigits
    simp only at h
    split at h
    · rename_i hInteger
      rw [Bool.and_eq_true, decide_eq_true_eq] at hInteger
      split at h
      · cases h
      · rename_i hLength
        rw [hInteger.1, List.append_nil, not_lt] at *
        cases h
        apply Kept.int
        have hNumber := numberOf_lt hDigits
        have hPower := Nat.pow_le_pow_right (show 0 < 10 by decide) hLength
        have hSign (n : Nat) : (if negative then -(n : Int) else n).natAbs = n := by
          split <;> omega
        rw [Readable, hSign]
        exact lt_of_lt_of_le hNumber hPower
    · cases h
      exact .float _

theorem kept_of_readScalar {text after : Text} {value : Json} (h : readScalar text = .ok (value, after)) :
    Kept value := by
  unfold readScalar at h
  split at h
  · rename_i word known hFound
    cases h
    have hMember := List.mem_of_find?_eq_some hFound
    simp only [wordValues, List.mem_cons, List.not_mem_nil, or_false, Prod.mk.injEq] at hMember
    rcases hMember with ⟨-, rfl⟩ | ⟨-, rfl⟩ | ⟨-, rfl⟩ | ⟨-, rfl⟩ | ⟨-, rfl⟩ | ⟨-, rfl⟩
    · exact .null
    · exact .bool true
    · exact .bool false
    all_goals exact .float _
  · exact kept_of_readNumber h

/-- What is read with some fuel can be written and read back as it is. -/
structure KeepsWith (fuel : Nat) : Prop where
  value {depth : Nat} {text after : Text} {value : Json} :
    readValue depth fuel text = .ok (value, after) → Kept value
  items {depth : Nat} {text after : Text} {items : List Json} :
    readItems depth fuel text = .ok (items, after) → ∀ item ∈ items, Kept item
  fields {depth : Nat} {text after : Text} {fields : List (Text × Json)} :
    readFields depth fuel text = .ok (fields, after) →
      ∀ field ∈ fields, ofUnits (units field.1) = field.1 ∧ field.2.Kept

section

variable {fuel depth : Nat} {text after : Text}

theorem KeepsWith.value_succ (ih : KeepsWith fuel) {value : Json}
    (h : readValue depth (fuel + 1) text = .ok (value, after)) : Kept value := by
  unfold readValue at h
  split at h
  · obtain ⟨found, hText, hFound⟩ := exists_of_map_eq_ok h
    cases hFound
    exact .text (ofUnits_units_of_readQuoted hText)
  · split at h
    · cases h
    · split at h
      · cases h
        exact .arr (List.forall_mem_nil _)
      · obtain ⟨found, hItems, hFound⟩ := exists_of_map_eq_ok h
        cases hFound
        exact .arr (ih.items hItems)
  · split at h
    · cases h
    · split at h
      · cases h
        exact .obj List.nodup_nil (List.forall_mem_nil _) (List.forall_mem_nil _)
      · obtain ⟨found, hFields, hFound⟩ := exists_of_map_eq_ok h
        cases hFound
        obtain ⟨hUnited, hNodup⟩ := united_spec (ih.fields hFields)
        exact .obj hNodup (fun field hField => (hUnited field hField).1) fun field hField =>
          (hUnited field hField).2
  · exact kept_of_readScalar h

theorem KeepsWith.items_succ (ih : KeepsWith fuel) {items : List Json}
    (h : readItems depth (fuel + 1) text = .ok (items, after)) : ∀ item ∈ items, Kept item := by
  unfold readItems at h
  split at h
  · cases h
  · rename_i item _ hItem
    have hFirst := ih.value hItem
    split at h
    · cases h
      intro other hOther
      rw [List.mem_singleton.1 hOther]
      exact hFirst
    · obtain ⟨found, hItems, hFound⟩ := exists_of_map_eq_ok h
      cases hFound
      intro other hOther
      rcases List.mem_cons.1 hOther with rfl | hMore
      · exact hFirst
      · exact ih.items hItems other hMore
    · cases h

theorem KeepsWith.fields_succ (ih : KeepsWith fuel) {fields : List (Text × Json)}
    (h : readFields depth (fuel + 1) text = .ok (fields, after)) :
    ∀ field ∈ fields, ofUnits (units field.1) = field.1 ∧ field.2.Kept := by
  unfold readFields at h
  split at h
  · split at h
    · cases h
    · rename_i key _ hKey
      split at h
      · split at h
        · cases h
        · rename_i value _ hValue
          have hFirst := And.intro (ofUnits_units_of_readQuoted hKey) (ih.value hValue)
          split at h
          · cases h
            intro other hOther
            rw [List.mem_singleton.1 hOther]
            exact hFirst
          · obtain ⟨found, hFields, hFound⟩ := exists_of_map_eq_ok h
            cases hFound
            intro other hOther
            rcases List.mem_cons.1 hOther with rfl | hMore
            · exact hFirst
            · exact ih.fields hFields other hMore
          · cases h
      · cases h
  · cases h

end

theorem keepsWith (fuel : Nat) : KeepsWith fuel := by
  induction fuel with
  | zero => exact ⟨nofun, nofun, nofun⟩
  | succ fuel ih => exact ⟨ih.value_succ, ih.items_succ, ih.fields_succ⟩

/-- A value that has been read can be written and read back as it is. -/
theorem kept_of_read {text : Text} {value : Json} (h : read text = .ok value) : Kept value := by
  unfold read at h
  split at h
  · cases h
  · split at h
    · cases h
    · rename_i found after hFound
      split at h
      · cases h
        exact (keepsWith _).value hFound
      · cases h

end PhantomHost.Json
