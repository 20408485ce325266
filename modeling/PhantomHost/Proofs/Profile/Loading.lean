import PhantomHost.Proofs.Profile.Shelf
/-!
Which files a store can deal with.

A file that holds no list of profiles counts as an empty list, with three exceptions: bytes that are no UTF-8,
collections that are nested deeper than the reader goes, and an infinite number for a port. Every other file
loads, and then the store answers, unless a profile that it would have to write is nested too deep to be copied.
-/
namespace PhantomHost

open PhantomHost.Text PhantomHost.Decimal

namespace Profile

theorem portOf_eq_infinite_iff {value : Json} :
    portOf value = .error .infinite ↔ ∃ x, value = .float x ∧ magnitude x = infinityBits := by
  constructor
  · intro h
    unfold portOf at h
    split at h
    · cases h
    · cases h
    · rename_i x
      simp only at h
      split at h
      · cases h
      · split at h
        · rename_i hInfinite
          exact ⟨x, rfl, hInfinite⟩
        · cases h
    · split at h
      · cases h
      · cases h
    · cases h
  · rintro ⟨x, rfl, hInfinite⟩
    simp only [portOf, hInfinite, Nat.lt_irrefl, if_false, if_true]

/-- The port that keeps a whole file from being loaded. -/
theorem ofJson_eq_infinite_iff {item : Json} :
    ofJson item = .error (.port .infinite) ↔
      ∃ fields x, item = .obj fields ∧ Json.lookup "port" fields = some (.float x) ∧
        magnitude x = infinityBits := by
  constructor
  · intro h
    unfold ofJson at h
    split at h
    · rename_i fields
      simp only at h
      split at h
      · rename_i fault hPort
        cases h
        obtain ⟨x, hValue, hInfinite⟩ := portOf_eq_infinite_iff.1 hPort
        cases hFound : Json.lookup "port" fields with
        | none => simp [hFound] at hValue
        | some found => exact ⟨fields, x, rfl, by simpa [hFound] using hValue, hInfinite⟩
      · split at h
        · cases h
        · cases h
    · cases h
  · rintro ⟨fields, x, rfl, hFound, hInfinite⟩
    have hPort := portOf_eq_infinite_iff.2 ⟨x, rfl, hInfinite⟩
    simp only [ofJson, hFound, Option.getD_some, hPort]

end Profile

namespace ProfileStore

/-- Among values, the first that is no profile decides. -/
theorem readAll_eq_error_iff {items : List Json} {reason : Unreadable} :
    readAll items = .error reason ↔
      ∃ before item after fault, items = before ++ item :: after ∧
        (∀ other ∈ before, Profile.Accepted other) ∧ Profile.ofJson item = .error fault ∧
        reason = .profile fault := by
  constructor
  · intro h
    induction items with
    | nil => cases h
    | cons first rest ih =>
        rw [readAll] at h
        split at h
        · rename_i fault hFirst
          cases h
          exact ⟨[], first, rest, fault, rfl, List.forall_mem_nil _, hFirst, rfl⟩
        · rename_i profile hFirst
          cases hRest : readAll rest with
          | ok others =>
              rw [hRest] at h
              cases h
          | error other =>
              rw [hRest] at h
              cases h
              obtain ⟨before, item, after, fault, rfl, hBefore, hItem, hReason⟩ := ih hRest
              refine ⟨first :: before, item, after, fault, rfl, ?_, hItem, hReason⟩
              exact List.forall_mem_cons.2 ⟨⟨profile, hFirst⟩, hBefore⟩
  · rintro ⟨before, item, after, fault, rfl, hBefore, hItem, rfl⟩
    induction before with
    | nil => rw [List.nil_append, readAll, hItem]
    | cons first before ih =>
        obtain ⟨⟨profile, hFirst⟩, hMore⟩ := List.forall_mem_cons.1 hBefore
        rw [List.cons_append, readAll, hFirst]
        simp only [ih hMore]
        rfl

/-- The bytes of a file that cannot be loaded: they are no text, or collections are nested too deep in the
text, or it is a list in which only profiles stand before an object whose port is infinite. -/
inductive Unloadable (bytes : List UInt8) : Prop where
  | noText {error : Utf8.Error} (hText : Utf8.decode bytes = .error error)
  | tooDeep {text : Text} {object : Bool} (hText : Utf8.decode bytes = .ok text)
      (hRead : Json.read (Utf8.unifyLineEnds text) = .error (.tooDeep object))
  | infinitePort {text : Text} {before after : List Json} {fields : List (Text × Json)} {port : Float}
      (hText : Utf8.decode bytes = .ok text)
      (hRead : Json.read (Utf8.unifyLineEnds text) = .ok (.arr (before ++ .obj fields :: after)))
      (hBefore : ∀ item ∈ before, Profile.Accepted item)
      (hPort : Json.lookup "port" fields = some (.float port)) (hInfinite : magnitude port = infinityBits)

theorem candidates_eq_error {value : Json} {reason : Unreadable} (h : candidates value = .error reason) :
    reason = .noList value.kindName := by
  cases value with
  | arr | obj | text => cases h
  | null | bool | int | float => exact (Except.error.inj h).symm

/-- The keys of an object and the letters of a text are texts, so objects are found in lists only. -/
theorem eq_arr_of_obj_mem {value : Json} {items : List Json} {fields : List (Text × Json)}
    (h : candidates value = .ok items) (hMem : .obj fields ∈ items) : value = .arr items := by
  cases value with
  | arr found => exact congrArg Json.arr (Except.ok.inj h)
  | obj found =>
      rw [← Except.ok.inj h] at hMem
      obtain ⟨field, -, hField⟩ := List.mem_map.1 hMem
      cases hField
  | text found =>
      rw [← Except.ok.inj h] at hMem
      obtain ⟨c, -, hc⟩ := List.mem_map.1 hMem
      cases hc
  | null | bool | int | float => cases h

theorem parse_eq_infinite_iff {text : Text} :
    parse text = .error (.profile (.port .infinite)) ↔
      ∃ before fields after port, Json.read text = .ok (.arr (before ++ .obj fields :: after)) ∧
        (∀ item ∈ before, Profile.Accepted item) ∧ Json.lookup "port" fields = some (.float port) ∧
        magnitude port = infinityBits := by
  constructor
  · intro h
    unfold parse at h
    split at h
    · cases h
    · rename_i value hRead
      split at h
      · rename_i hNone
        rw [candidates_eq_error hNone] at h
        cases h
      · rename_i items hItems
        obtain ⟨before, item, after, fault, rfl, hBefore, hItem, hFault⟩ := readAll_eq_error_iff.1 h
        cases hFault
        obtain ⟨fields, port, rfl, hPort, hInfinite⟩ := Profile.ofJson_eq_infinite_iff.1 hItem
        obtain rfl := eq_arr_of_obj_mem hItems (List.mem_append_right _ List.mem_cons_self)
        exact ⟨before, fields, after, port, hRead, hBefore, hPort, hInfinite⟩
  · rintro ⟨before, fields, after, port, hRead, hBefore, hPort, hInfinite⟩
    have hItem := Profile.ofJson_eq_infinite_iff.2 ⟨fields, port, rfl, hPort, hInfinite⟩
    simp only [parse, hRead, candidates]
    exact readAll_eq_error_iff.2 ⟨before, _, after, _, rfl, hBefore, hItem, rfl⟩

theorem parse_eq_tooDeep_iff {text : Text} {object : Bool} :
    parse text = .error (.json (.tooDeep object)) ↔ Json.read text = .error (.tooDeep object) := by
  unfold parse
  split
  · rename_i fault hRead
    rw [hRead]
    simp
  · rename_i value hRead
    rw [hRead]
    refine iff_of_false ?_ nofun
    split
    · rename_i hNone
      rw [candidates_eq_error hNone]
      exact nofun
    · intro h
      obtain ⟨-, -, -, fault, -, -, -, hReason⟩ := readAll_eq_error_iff.1 h
      cases hReason

/-- A text is dealt with unless it is nested too deep or holds an infinite port. -/
theorem understand_eq_error_iff {text : Text} {world : World} :
    (∃ fault, (understand text world).1 = .error fault) ↔
      (∃ object, Json.read text = .error (.tooDeep object)) ∨
        parse text = .error (.profile (.port .infinite)) := by
  have hDeep {object : Bool} : parse text = .error (.json (.tooDeep object)) ↔ _ := parse_eq_tooDeep_iff
  unfold understand
  split
  · rename_i hBlank
    refine iff_of_false nofun ?_
    rintro (⟨object, hRead⟩ | hPort)
    · exact Json.not_blank_of_tooDeep hRead hBlank
    · obtain ⟨before, fields, after, port, hRead, -⟩ := parse_eq_infinite_iff.1 hPort
      exact Json.not_blank_of_read hRead hBlank
  · simp only [← hDeep]
    split
    · rename_i hParse
      simp [hParse]
    · rename_i object hParse
      simp [hParse]
    · rename_i hParse
      simp [hParse]
    · rename_i reason hNotDeep hNotInfinite hParse
      rw [hParse]
      refine iff_of_false nofun ?_
      rintro (⟨object, hReason⟩ | hReason)
      · exact hNotDeep object (Except.error.inj hReason)
      · exact hNotInfinite (Except.error.inj hReason)

/-- A file is loaded unless it is one of the three kinds that cannot be. -/
theorem load_eq_error_iff {store : ProfileStore} {world : World} {bytes : List UInt8}
    (hFile : world.disk.read store.path = .ok bytes) :
    (∃ fault, (store.load world).1 = .error fault) ↔ Unloadable bytes := by
  obtain ⟨name, hName⟩ := Disk.exists_bytes?_of_read hFile
  simp only [load, hName, hFile]
  cases hText : Utf8.decode bytes with
  | error error => exact iff_of_true ⟨_, rfl⟩ (.noText hText)
  | ok text =>
      simp only [understand_eq_error_iff, parse_eq_infinite_iff]
      constructor
      · rintro (⟨object, hRead⟩ | ⟨before, fields, after, port, hRead, hBefore, hPort, hInfinite⟩)
        · exact .tooDeep hText hRead
        · exact .infinitePort hText hRead hBefore hPort hInfinite
      · intro h
        cases h with
        | noText hNone =>
            rw [hText] at hNone
            cases hNone
        | tooDeep hSome hRead =>
            cases Except.ok.inj (hText.symm.trans hSome)
            exact Or.inl ⟨_, hRead⟩
        | infinitePort hSome hRead hBefore hPort hInfinite =>
            cases Except.ok.inj (hText.symm.trans hSome)
            exact Or.inr ⟨_, _, _, _, hRead, hBefore, hPort, hInfinite⟩

/-! ### What a store answers whose file loads -/

/-- All profiles can be copied, so they can be written. -/
def Copied (profiles : List Profile) : Prop :=
  profiles.findSome? Profile.uncopied? = none

theorem isOverlong_drafted {form : Form} (hPort : Readable form.port) {id : Json}
    (hId : id.isOverlong = false) : (drafted form.draft id form.port).toJson.isOverlong = false := by
  have hShort : (Json.int form.port).isOverlong = false := (Json.Kept.int hPort).isOverlong_eq_false
  simp only [drafted, Form.draft, Profile.toJson, Json.isOverlong, Json.anyFieldOverlong] at hShort ⊢
  simp only [hId, hShort, Bool.or_false]

theorem isOverlong_identify (form : Form) (world : World) :
    (identify form.draft world).1.isOverlong = false := by
  unfold identify
  split
  · cases hId : form.id <;> simp [Form.draft, hId, Json.isOverlong]
  · rfl

/-- Where a file stands already it can be written again. -/
theorem ready_of_read {store : ProfileStore} {disk : Disk} {bytes : List UInt8}
    (hFile : disk.read store.path = .ok bytes) : store.Ready disk := by
  obtain ⟨place, hPlace, hEntry⟩ := Disk.read_eq_ok_iff.1 hFile
  exact ⟨Disk.find?_parent_of_stands? hPlace hEntry, place, hPlace, by rw [hEntry]; exact nofun⟩

/-- Where the file can be written, profiles without overlong integers are written if all of them can be
copied. -/
theorem Ready.write_fst {store : ProfileStore} {world : World} (h : store.Ready world.disk)
    {profiles : List Profile} (hShort : ∀ profile ∈ profiles, profile.toJson.isOverlong = false) :
    (Copied profiles → (store.write profiles world).1 = .ok ()) ∧
      (¬Copied profiles → ∃ object, (store.write profiles world).1 = .error (.uncopied object)) := by
  have hAny := anyOverlong_of_forall hShort
  obtain ⟨hDisk, -⟩ := h.write profiles
  constructor
  · intro hCopied
    cases hWrite : store.write profiles world with
    | mk result after =>
        cases result with
        | ok done => rfl
        | error fault =>
            obtain ⟨reason, rfl⟩ := write_eq_error hWrite hCopied hAny
            rw [hWrite] at hDisk
            exact absurd rfl (hDisk reason)
  · intro hCopied
    obtain ⟨object, hObject⟩ := Option.ne_none_iff_exists'.1 hCopied
    refine ⟨object, ?_⟩
    simp only [ProfileStore.write, Disk.makeDirectories_of_find? h.directory, hObject]

/-- What a store answers whose file loads as the given profiles: a search and a deletion answer as the list
does, and a form with a label and a port of an ordinary length is saved. Only a profile that is written again
and is nested too deep to be copied keeps a deletion or a save from it. -/
structure Serves (store : ProfileStore) (world : World) (profiles : List Profile) : Prop where
  get (id : Json) :
    (store.get id world).1 = .ok (profiles.find? fun profile => profile.id.same id)
  delete (id : Json) :
    let others := profiles.filter fun profile => !profile.id.same id
    (others.length = profiles.length ∨ Copied others →
      (store.delete id world).1 = .ok (profiles.any fun profile => profile.id.same id)) ∧
    (¬(others.length = profiles.length ∨ Copied others) →
      ∃ object, (store.delete id world).1 = .error (.uncopied object))
  save (form : Form) (hLabel : form.label ≠ []) (hPort : Readable form.port) :
    let new := drafted form.draft (identify form.draft world).1 form.port
    (Copied (put new profiles) → (store.save form.draft world).1 = .ok new) ∧
    (¬Copied (put new profiles) → ∃ object, (store.save form.draft world).1 = .error (.uncopied object))

section

variable {store : ProfileStore} {world : World} {bytes : List UInt8}

theorem get_fst (id : Json) :
    (store.get id world).1 =
      (store.load world).1.map fun profiles => profiles.find? fun profile => profile.id.same id := rfl

theorem delete_fst (hFile : world.disk.read store.path = .ok bytes) {profiles : List Profile}
    (hLoad : (store.load world).1 = .ok profiles) (id : Json) :
    let others := profiles.filter fun profile => !profile.id.same id
    (others.length = profiles.length ∨ Copied others →
      (store.delete id world).1 = .ok (profiles.any fun profile => profile.id.same id)) ∧
    (¬(others.length = profiles.length ∨ Copied others) →
      ∃ object, (store.delete id world).1 = .error (.uncopied object)) := by
  intro others
  have hReady := (ready_of_read hFile).load
  have hKept := kept_of_load hLoad
  have hShort : ∀ profile ∈ others, profile.toJson.isOverlong = false := fun profile hProfile =>
    (hKept profile (List.mem_of_mem_filter hProfile)).isOverlong_toJson
  obtain ⟨hWritten, hStuck⟩ := hReady.write_fst hShort
  have hDelete := delete_eq hLoad id
  simp only at hDelete
  by_cases hLength : others.length = profiles.length
  · rw [if_pos hLength] at hDelete
    rw [hDelete, (length_filter_not_iff profiles _).1 hLength]
    exact ⟨fun _ => rfl, fun h => absurd (Or.inl hLength) h⟩
  · rw [if_neg hLength] at hDelete
    have hAny : profiles.any (fun profile => profile.id.same id) = true := by
      rw [← Bool.not_eq_false, ← length_filter_not_iff]
      exact hLength
    constructor
    · rintro (hSame | hCopied)
      · exact absurd hSame hLength
      · rw [hDelete, eq_mk_of_fst_eq (hWritten hCopied), hAny]
    · intro h
      obtain ⟨object, hFault⟩ := hStuck fun hCopied => h (Or.inr hCopied)
      exact ⟨object, by rw [hDelete, eq_mk_of_fst_eq hFault]⟩

theorem save_fst (hFile : world.disk.read store.path = .ok bytes) {profiles : List Profile}
    (hLoad : (store.load world).1 = .ok profiles) {form : Form} (hLabel : form.label ≠ [])
    (hPort : Readable form.port) :
    let new := drafted form.draft (identify form.draft world).1 form.port
    (Copied (put new profiles) → (store.save form.draft world).1 = .ok new) ∧
    (¬Copied (put new profiles) →
      ∃ object, (store.save form.draft world).1 = .error (.uncopied object)) := by
  intro new
  have hNew : drafted form.draft (identify form.draft (store.load world).2).1 form.port = new := by
    rw [identify_fst_congr (profileCount_load store world)]
  have hReady : store.Ready (identify form.draft (store.load world).2).2.disk := by
    rw [identify_snd]
    exact (ready_of_read hFile).load
  have hShort : ∀ profile ∈ put new profiles, profile.toJson.isOverlong = false := by
    intro profile hProfile
    rcases mem_put hProfile with rfl | hOld
    · exact isOverlong_drafted hPort (isOverlong_identify form world)
    · exact (kept_of_load hLoad profile hOld).isOverlong_toJson
  obtain ⟨hWritten, hStuck⟩ := hReady.write_fst hShort
  have hSave := save_eq (form.isTruthy_label hLabel) hLoad (show Profile.portOf form.draft.port = .ok form.port from rfl)
  simp only [hNew] at hSave
  constructor
  · intro hCopied
    rw [hSave, eq_mk_of_fst_eq (hWritten hCopied)]
  · intro hCopied
    obtain ⟨object, hFault⟩ := hStuck hCopied
    exact ⟨object, by rw [hSave, eq_mk_of_fst_eq hFault]⟩

theorem serves_of_load (hFile : world.disk.read store.path = .ok bytes) {profiles : List Profile}
    (hLoad : (store.load world).1 = .ok profiles) : store.Serves world profiles where
  get id := by rw [get_fst, hLoad]; rfl
  delete := delete_fst hFile hLoad
  save _ hLabel hPort := save_fst hFile hLoad hLabel hPort

/-- A fault in loading is the answer to every call that has to load. -/
theorem faults_of_load {fault : Fault} (hLoad : (store.load world).1 = .error fault) :
    (∀ id, (store.get id world).1 = .error fault ∧ (store.delete id world).1 = .error fault) ∧
      ∀ form : Form, form.label ≠ [] → (store.save form.draft world).1 = .error fault := by
  have hWhole := eq_mk_of_fst_eq hLoad
  refine ⟨fun id => ⟨by rw [get_fst, hLoad]; rfl, by rw [delete, hWhole]⟩, ?_⟩
  intro form hLabel
  rw [save_def, form.isTruthy_label hLabel, hWhole]
  rfl

end

/-- Whatever bytes stand in the file of a store, it loads unless they are no text, nested too deep, or hold an
infinite port. If it does not load, the fault is what every other call answers; if it loads, the store serves
the profiles that were loaded. -/
theorem load_fails_iff_unloadable {store : ProfileStore} {world : World} {bytes : List UInt8}
    (hFile : world.disk.read store.path = .ok bytes) :
    ((∃ fault, (store.load world).1 = .error fault) ↔ Unloadable bytes) ∧
    (∀ fault, (store.load world).1 = .error fault →
      (∀ id, (store.get id world).1 = .error fault ∧ (store.delete id world).1 = .error fault) ∧
      ∀ form : Form, form.label ≠ [] → (store.save form.draft world).1 = .error fault) ∧
    ∀ profiles, (store.load world).1 = .ok profiles → store.Serves world profiles :=
  ⟨load_eq_error_iff hFile, fun _ => faults_of_load, fun _ => serves_of_load hFile⟩

/-- A file with one profile is served. -/
theorem load_serves_profileA :
    worldA.disk.read atRoot.path = .ok (Utf8.encode ("[" ++ entryA ++ "]")) ∧
      (atRoot.load worldA).1 = .ok [profileA] ∧ ¬Unloadable (Utf8.encode ("[" ++ entryA ++ "]")) ∧
      atRoot.Serves worldA [profileA] := by
  have hFile : worldA.disk.read atRoot.path = .ok (Utf8.encode ("[" ++ entryA ++ "]")) :=
    Disk.read_write (write_quietWith _)
  have hLoad : (atRoot.load worldA).1 = .ok [profileA] := by decide +kernel
  obtain ⟨hIff, -, hServes⟩ := load_fails_iff_unloadable hFile
  refine ⟨hFile, hLoad, ?_, hServes _ hLoad⟩
  rw [← hIff, hLoad]
  exact nofun

/-- A world at rest in which the file of the store is a byte that is no text. -/
def worldOfByte : World :=
  { World.quiet with disk := World.quiet.disk.put atRoot.path (.file [0xFF]) }

/-- One byte keeps the store from loading its file, and from everything else. -/
theorem load_fails_on_byte :
    worldOfByte.disk.read atRoot.path = .ok [0xFF] ∧
      (atRoot.load worldOfByte).1 = .error (.noText ⟨0, 1, 0xFF, .invalidStart⟩) ∧
      (atRoot.get (.text "a") worldOfByte).1 = .error (.noText ⟨0, 1, 0xFF, .invalidStart⟩) ∧
      (atRoot.delete (.text "a") worldOfByte).1 = .error (.noText ⟨0, 1, 0xFF, .invalidStart⟩) ∧
      (atRoot.save draftB worldOfByte).1 = .error (.noText ⟨0, 1, 0xFF, .invalidStart⟩) := by
  decide +kernel

example : (atRoot.load (quietWith "[\x7b\"port\": -Infinity\x7d]")).1 = .error (.port .infinite) := by
  decide +kernel

end ProfileStore

end PhantomHost
