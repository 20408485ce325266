import PhantomHost.Profile.Store
import PhantomHost.Proofs.Decimal.Integer
import PhantomHost.Proofs.Json.Kept
/-!
Profiles in the text of a file: what is rendered is read back, and what has been read can be rendered.
-/
namespace PhantomHost

open PhantomHost.Text PhantomHost.Decimal

namespace Profile

/-- A profile as it is read back. -/
def normal (profile : Profile) : Profile :=
  { profile with
    id := profile.id.normal
    label := profile.label.normal
    host := profile.host.normal
    username := profile.username.normal
    authType := profile.authType.normal }

/-- A profile that can be written and read back as it is, whatever else stands in the file. -/
structure Kept (profile : Profile) : Prop where
  values : ∀ value ∈ profile.values, value.Kept
  port : Readable profile.port

theorem Kept.normal_eq {profile : Profile} (h : profile.Kept) : profile.normal = profile := by
  have hId := (h.values profile.id (by simp [Profile.values])).normal_eq
  have hLabel := (h.values profile.label (by simp [Profile.values])).normal_eq
  have hHost := (h.values profile.host (by simp [Profile.values])).normal_eq
  have hUsername := (h.values profile.username (by simp [Profile.values])).normal_eq
  have hAuthType := (h.values profile.authType (by simp [Profile.values])).normal_eq
  rw [normal, hId, hLabel, hHost, hUsername, hAuthType]

theorem map_normal_eq {profiles : List Profile} (h : ∀ profile ∈ profiles, profile.Kept) :
    profiles.map normal = profiles := by
  induction profiles with
  | nil => rfl
  | cons profile rest ih =>
      rw [List.map_cons, (h profile List.mem_cons_self).normal_eq,
        ih fun other hOther => h other (List.mem_cons_of_mem _ hOther)]

theorem Kept.isOverlong_toJson {profile : Profile} (h : profile.Kept) : profile.toJson.isOverlong = false := by
  have hValues {value : Json} (hValue : value ∈ profile.values) : value.isOverlong = false :=
    (h.values value hValue).isOverlong_eq_false
  have hPort : (Json.int profile.port).isOverlong = false := (Json.Kept.int h.port).isOverlong_eq_false
  simp only [toJson, Json.isOverlong, Json.anyFieldOverlong, Bool.or_eq_false_iff] at hPort ⊢
  refine ⟨?_, ?_, ?_, ?_, hPort, ?_, trivial⟩
  all_goals exact hValues (by simp [Profile.values])

theorem normal_toJson (profile : Profile) : profile.toJson.normal = profile.normal.toJson := by
  have hName (name : Text) (h : name.all (fun c => !c.isLone) = true) : ofUnits (units name) = name := by
    apply ofUnits_units
    intro c hc
    simpa using List.all_eq_true.1 h c hc
  simp only [toJson, Json.normal, Json.normalFields]
  rw [hName "id" (by decide), hName "label" (by decide), hName "host" (by decide),
    hName "username" (by decide), hName "port" (by decide), hName "auth_type" (by decide),
    Json.united_of_nodup]
  · rfl
  · simp only [List.map_cons, List.map_nil]
    decide

theorem deepest?_toJson {limit : Nat} {profile : Profile} (h : Json.deepestItem? limit profile.values = none) :
    Json.deepest? (limit + 1) profile.toJson = none := by
  simp only [values, Json.deepestItem?, Option.or_eq_none_iff] at h
  simp only [toJson, Json.deepest?, Json.deepestField?, Option.or_eq_none_iff]
  obtain ⟨hId, hLabel, hHost, hUsername, hAuthType, -⟩ := h
  exact ⟨hId, hLabel, hHost, hUsername, trivial, hAuthType, trivial⟩

/-- A port that has been found in a value that has been read can be written. -/
theorem readable_of_portOf {value : Json} {port : Int} (hValue : value.Kept) (h : portOf value = .ok port) :
    Readable port := by
  cases hValue with
  | int hPort =>
      cases h
      exact hPort
  | bool value =>
      cases h
      apply readable_of_lt_hundred
      split <;> decide
  | float x =>
      simp only [portOf] at h
      split at h
      · cases h
      · split at h
        · cases h
        · cases h
          exact readable_truncate (by omega)
  | text hContent =>
      simp only [portOf] at h
      split at h
      · rename_i n hRead
        cases h
        exact readable_of_readInt hRead
      · cases h
  | null => cases h
  | arr hItems => cases h
  | obj hNodup hNames hValues => cases h

theorem kept_of_lookup {name : Text} {fields : List (Text × Json)} {value : Json}
    (hFields : ∀ field ∈ fields, field.2.Kept) (h : Json.lookup name fields = some value) : value.Kept := by
  induction fields with
  | nil => cases h
  | cons field rest ih =>
      rw [Json.lookup] at h
      split at h
      · cases h
        exact hFields field List.mem_cons_self
      · exact ih (fun other hOther => hFields other (List.mem_cons_of_mem _ hOther)) h

theorem kept_getD_lookup {name : Text} {fields : List (Text × Json)} {default : Json}
    (hFields : ∀ field ∈ fields, field.2.Kept) (hDefault : default.Kept) :
    ((Json.lookup name fields).getD default).Kept := by
  cases h : Json.lookup name fields with
  | none => exact hDefault
  | some value => exact kept_of_lookup hFields h

theorem kept_defaultPort : (Json.int defaultPort).Kept :=
  .int (readable_of_lt_hundred (by decide))

theorem kept_defaultAuthType : defaultAuthType.Kept :=
  .text (by decide)

/-- A profile that has been found in a value that has been read can be written and read back as it is. -/
theorem kept_of_ofJson {value : Json} {profile : Profile} (hValue : value.Kept)
    (h : ofJson value = .ok profile) : profile.Kept := by
  cases hValue with
  | obj hNodup hNames hValues =>
      have hPort := @kept_getD_lookup "port" _ _ hValues kept_defaultPort
      have hAuthType := @kept_getD_lookup "auth_type" _ _ hValues kept_defaultAuthType
      simp only [ofJson] at h
      split at h
      · cases h
      · rename_i port hFound
        split at h
        · rename_i hId hLabel hHost hUsername
          cases h
          refine ⟨?_, readable_of_portOf hPort hFound⟩
          intro value hMember
          simp only [values, List.mem_cons, List.not_mem_nil, or_false] at hMember
          rcases hMember with rfl | rfl | rfl | rfl | rfl
          · exact kept_of_lookup hValues hId
          · exact kept_of_lookup hValues hLabel
          · exact kept_of_lookup hValues hHost
          · exact kept_of_lookup hValues hUsername
          · exact hAuthType
        · cases h
  | null => cases h
  | bool value => cases h
  | int hInt => cases h
  | float x => cases h
  | text hContent => cases h
  | arr hItems => cases h

end Profile

namespace ProfileStore

/-- Why a profile has been found in a value. -/
theorem ofJson_of_mem_readAll {items : List Json} {profiles : List Profile} (h : readAll items = .ok profiles)
    {profile : Profile} (hProfile : profile ∈ profiles) :
    ∃ item ∈ items, Profile.ofJson item = .ok profile := by
  induction items generalizing profiles with
  | nil =>
      cases h
      cases hProfile
  | cons item rest ih =>
      rw [readAll] at h
      split at h
      · cases h
      · rename_i first hFirst
        obtain ⟨others, hOthers, rfl⟩ := Json.exists_of_map_eq_ok h
        rcases List.mem_cons.1 hProfile with rfl | hMore
        · exact ⟨item, List.mem_cons_self, hFirst⟩
        · obtain ⟨found, hFound, hOf⟩ := ih hOthers hMore
          exact ⟨found, List.mem_cons_of_mem _ hFound, hOf⟩

/-- Profiles that have been read from a text can be written and read back as they are. -/
theorem kept_of_parse {text : Text} {profiles : List Profile} (h : parse text = .ok profiles) :
    ∀ profile ∈ profiles, profile.Kept := by
  intro profile hProfile
  unfold parse at h
  split at h
  · cases h
  · rename_i value hRead
    have hKept := Json.kept_of_read hRead
    split at h
    · cases h
    · rename_i items hItems
      obtain ⟨item, hItem, hOf⟩ := ofJson_of_mem_readAll h hProfile
      have hText {content : Text} (hContent : item = .text content) : False := by
        rw [hContent] at hOf
        cases hOf
      cases hKept with
      | arr hMore =>
          cases hItems
          exact Profile.kept_of_ofJson (hMore item hItem) hOf
      | obj hNodup hNames hValues =>
          cases hItems
          obtain ⟨field, -, hField⟩ := List.mem_map.1 hItem
          exact (hText hField.symm).elim
      | text hContent =>
          cases hItems
          obtain ⟨c, -, hc⟩ := List.mem_map.1 hItem
          exact (hText hc.symm).elim
      | null => cases hItems
      | bool value => cases hItems
      | int hInt => cases hItems
      | float x => cases hItems

theorem readAll_toJson (profiles : List Profile) : readAll (profiles.map Profile.toJson) = .ok profiles := by
  induction profiles with
  | nil => rfl
  | cons profile rest ih =>
      rw [List.map_cons, readAll, Profile.ofJson_toJson]
      simp only [ih]
      rfl

/-- The text of a file is read as the list of the objects of its profiles. -/
theorem read_render {profiles : List Profile} (hCopied : profiles.findSome? Profile.uncopied? = none)
    (hShort : Json.anyOverlong (profiles.map Profile.toJson) = false) :
    Json.read (render profiles) = .ok (.arr ((profiles.map Profile.normal).map Profile.toJson)) := by
  have hDeep : Json.deepest? (Profile.copyLimit + 2) (.arr (profiles.map Profile.toJson)) = none := by
    clear hShort
    rw [Json.deepest?]
    induction profiles with
    | nil => rfl
    | cons profile rest ih =>
        rw [List.findSome?_cons] at hCopied
        split at hCopied
        · cases hCopied
        · rename_i hProfile
          rw [List.map_cons, Json.deepestItem?, Profile.deepest?_toJson hProfile, ih hCopied]
          rfl
  have hNormal : Json.normalItems (profiles.map Profile.toJson) =
      (profiles.map Profile.normal).map Profile.toJson := by
    clear hShort hCopied hDeep
    induction profiles with
    | nil => rfl
    | cons profile rest ih =>
        rw [List.map_cons, Json.normalItems, Profile.normal_toJson, ih]
        rfl
  have hRead : Json.read (render profiles) = _ := Json.read_indented hDeep hShort (by decide)
  rw [hRead, Json.normal, hNormal]

/-- The text of a file is read back as the profiles that it was made of. -/
theorem parse_render {profiles : List Profile} (hCopied : profiles.findSome? Profile.uncopied? = none)
    (hShort : Json.anyOverlong (profiles.map Profile.toJson) = false) :
    parse (render profiles) = .ok (profiles.map Profile.normal) := by
  simp only [parse, read_render hCopied hShort, candidates, readAll_toJson]

end ProfileStore

end PhantomHost
