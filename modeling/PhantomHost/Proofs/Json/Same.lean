import Mathlib.Data.List.Forall2
import PhantomHost.Json.Basic
/-!
Values that denote the same.

Two lists denote the same if their items match in pairs, and so do two objects whose names are the same in the same
order. In another order the names are looked up: every field has its match among the fields of the other object.
-/
namespace PhantomHost.Json

/-- Two values that a collection does not tell from each other. -/
def Matches (a b : Json) : Prop :=
  a.same b = true ∨ a.isNotANumber = true ∧ b.isNotANumber = true

@[simp] theorem matches_text_iff (s t : Text) : (text s).Matches (text t) ↔ s = t := by
  simp [Matches, same, isNotANumber]

@[simp] theorem matches_obj_iff (fields others : List (Text × Json)) :
    (obj fields).Matches (obj others) ↔ (obj fields).same (obj others) = true := by
  simp [Matches, isNotANumber]

/-- By induction on the values: two lists denote the same if their values match in pairs. -/
theorem sameItems_iff (xs ys : List Json) : sameItems xs ys = true ↔ List.Forall₂ Matches xs ys := by
  induction xs generalizing ys with
  | nil => cases ys <;> simp [sameItems]
  | cons x xs ih =>
      cases ys with
      | nil => simp [sameItems]
      | cons y ys => simp [sameItems, ih, Matches]

@[simp] theorem matches_arr_iff (xs ys : List Json) : (arr xs).Matches (arr ys) ↔ List.Forall₂ Matches xs ys := by
  simp [Matches, same, isNotANumber, sameItems_iff]

/-- Every field of a value has its match among the fields of a value that denotes the same. -/
theorem exists_lookup_of_sameFields {fields others : List (Text × Json)} (h : sameFields fields others = true)
    {name : Text} {value : Json} (hField : (name, value) ∈ fields) :
    ∃ other, lookup name others = some other ∧ value.Matches other := by
  induction fields with
  | nil => cases hField
  | cons first rest ih =>
      obtain ⟨key, kept⟩ := first
      rw [sameFields, Bool.and_eq_true] at h
      rcases List.mem_cons.1 hField with hFirst | hRest
      · cases hFirst
        have hHere := h.1
        cases hOther : lookup name others with
        | none => simp [hOther] at hHere
        | some other => exact ⟨other, rfl, by simpa [hOther, Matches] using hHere⟩
      · exact ih h.2 hRest

theorem lookup_append_of_notMem {name : Text} {before : List (Text × Json)} (h : name ∉ before.map Prod.fst)
    (rest : List (Text × Json)) : lookup name (before ++ rest) = lookup name rest := by
  induction before with
  | nil => rfl
  | cons first before ih =>
      rw [List.map_cons, List.mem_cons, not_or] at h
      rw [List.cons_append, lookup, if_neg fun hKey => h.1 hKey.symm, ih h.2]

/-- Fields that come under the same names, in the same order and no name twice, are compared in pairs. The names of
what stands before the second list are not looked for. -/
theorem sameFields_iff {fields others : List (Text × Json)} (before : List (Text × Json))
    (hNames : fields.map Prod.fst = others.map Prod.fst) (hNodup : ((before ++ fields).map Prod.fst).Nodup) :
    sameFields fields (before ++ others) = true ↔
      List.Forall₂ (fun field other => Matches field.2 other.2) fields others := by
  induction fields generalizing before others with
  | nil =>
      obtain rfl := List.map_eq_nil_iff.1 hNames.symm
      simp [sameFields]
  | cons field fields ih =>
      obtain ⟨key, value⟩ := field
      cases others with
      | nil => cases hNames
      | cons other others =>
          obtain ⟨name, kept⟩ := other
          obtain ⟨hName, hOthers⟩ := List.cons.inj hNames
          obtain rfl : key = name := hName
          have hFresh : key ∉ before.map Prod.fst := by
            rw [List.map_append, List.nodup_append] at hNodup
            exact fun hOld => hNodup.2.2 key hOld key List.mem_cons_self rfl
          have hHere : lookup key (before ++ (key, kept) :: others) = some kept := by
            rw [lookup_append_of_notMem hFresh, lookup, if_pos rfl]
          have hRest := ih (before ++ [(key, kept)]) hOthers (by simpa using hNodup)
          rw [List.append_assoc, List.singleton_append] at hRest
          rw [sameFields, hHere, Bool.and_eq_true, hRest, List.forall₂_cons]
          simp [Matches]

/-- Two objects with the same names in the same order denote the same if their values match in pairs. -/
theorem same_obj_iff {fields others : List (Text × Json)} (hNames : fields.map Prod.fst = others.map Prod.fst)
    (hNodup : (fields.map Prod.fst).Nodup) :
    (obj fields).same (obj others) = true ↔
      List.Forall₂ (fun field other => Matches field.2 other.2) fields others := by
  have hLength : fields.length = others.length := by simpa using congrArg List.length hNames
  rw [same, hLength, beq_self_eq_true, Bool.true_and]
  exact sameFields_iff [] hNames hNodup

end PhantomHost.Json
