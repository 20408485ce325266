import PhantomHost.Proofs.Profile.Loading
/-!
Fields of a file that no profile has.

Two worlds with the same log, clock and counters, whose files differ in nothing but such fields, cannot be
told apart by any operations of the store. With the first of them that writes, the files become the same, and
every file that is written is a list of objects with the six fields of a profile.
-/
namespace PhantomHost

open PhantomHost.Text

namespace Profile

/-- The names of the fields of a profile, in the order in which they are written. -/
def names : List Text := ["id", "label", "host", "username", "port", "auth_type"]

/-- The fields among others that a profile has, in the order of their names. The order in which an object
lists its fields is lost by this, too; their values stay as they are. -/
def ownFields (fields : List (Text × Json)) : List (Text × Json) :=
  names.filterMap fun name => (Json.lookup name fields).map (name, ·)

/-- An object without the fields that no profile has. Other values stay as they are. -/
def strip : Json → Json
  | .obj fields => .obj (ownFields fields)
  | other => other

/-- A value in a file, with the objects of its list stripped. -/
def stripFile : Json → Json
  | .arr items => .arr (items.map strip)
  | other => other

theorem lookup_filterMap (name : Text) (wanted : List Text) (fields : List (Text × Json)) :
    Json.lookup name (wanted.filterMap fun other => (Json.lookup other fields).map (other, ·)) =
      if name ∈ wanted then Json.lookup name fields else none := by
  induction wanted with
  | nil => rfl
  | cons first rest ih =>
      by_cases hName : first = name
      · subst hName
        cases hFound : Json.lookup first fields with
        | some value => simp [hFound, Json.lookup]
        | none => simpa [hFound] using ih
      · cases hFound : Json.lookup first fields with
        | some value => simpa [hFound, Json.lookup, hName, Ne.symm hName] using ih
        | none => simpa [hFound, Ne.symm hName] using ih

theorem lookup_ownFields {name : Text} (h : name ∈ names) (fields : List (Text × Json)) :
    Json.lookup name (ownFields fields) = Json.lookup name fields := by
  rw [ownFields, lookup_filterMap, if_pos h]

/-- No field but those that a profile has decides which profile an object is, or why it is none. -/
theorem ofJson_strip (item : Json) : ofJson (strip item) = ofJson item := by
  cases item with
  | obj fields =>
      have hRequired : required.filter (fun name => (Json.lookup name (ownFields fields)).isNone) =
          required.filter fun name => (Json.lookup name fields).isNone := by
        apply List.filter_congr
        intro name hName
        rw [lookup_ownFields ((by decide : required ⊆ names) hName)]
      have hOwn (name : Text) (h : name ∈ names) := lookup_ownFields h fields
      simp only [names, List.forall_mem_cons] at hOwn
      obtain ⟨hId, hLabel, hHost, hUsername, hPort, hAuthType, -⟩ := hOwn
      simp only [strip, ofJson, hRequired, hId, hLabel, hHost, hUsername, hPort, hAuthType]
  | null | bool | int | float | text | arr => rfl

end Profile

namespace World

/-- Worlds that differ in their disks only. -/
def Beside (a b : World) : Prop :=
  ∃ disk, b = { a with disk := disk }

variable {a b : World}

theorem Beside.listener_eq (h : a.Beside b) : b.listener = a.listener := by
  obtain ⟨disk, rfl⟩ := h
  rfl

/-- What is logged does not depend on the disk. -/
theorem Beside.say (h : a.Beside b) (notice : Notice) : (a.say notice).Beside (b.say notice) := by
  obtain ⟨disk, rfl⟩ := h
  unfold World.say hear
  simp only
  split
  · exact ⟨disk, rfl⟩
  · split
    · exact ⟨disk, rfl⟩
    · exact ⟨_, rfl⟩

end World

namespace ProfileStore

/-! ### Reading a file with strays -/

/-- The bytes of a file are the text of a value. -/
def Spells (bytes : List UInt8) (value : Json) : Prop :=
  ∃ text, Utf8.decode bytes = .ok text ∧ Json.read (Utf8.unifyLineEnds text) = .ok value

/-- Files that become equal when the objects of their lists are stripped. -/
def Alike (own other : List UInt8) : Prop :=
  ∃ value stray, Spells own value ∧ Spells other stray ∧ Profile.stripFile value = Profile.stripFile stray

theorem readAll_strip (items : List Json) : readAll (items.map Profile.strip) = readAll items := by
  induction items with
  | nil => rfl
  | cons item rest ih => rw [List.map_cons, readAll, readAll, Profile.ofJson_strip, ih]

/-- The profiles that are found in a value. -/
def found (value : Json) : Except Unreadable (List Profile) :=
  match candidates value with
  | .error reason => .error reason
  | .ok items => readAll items

theorem found_stripFile (value : Json) : found (Profile.stripFile value) = found value := by
  cases value with
  | arr items => exact readAll_strip items
  | null | bool | int | float | text | obj => rfl

theorem parse_of_read {text : Text} {value : Json} (h : Json.read text = .ok value) :
    parse text = found value := by
  simp only [parse, h]
  rfl

theorem found_ne_json (value : Json) (fault : Json.Fault) : found value ≠ .error (.json fault) := by
  unfold found
  split
  · rename_i hNone
    rw [candidates_eq_error hNone]
    exact nofun
  · intro h
    obtain ⟨-, -, -, reason, -, -, -, hReason⟩ := readAll_eq_error_iff.1 h
    cases hReason

/-- Texts of values that differ in strays only are understood in the same way, and the same is logged: only
a fault in the text itself would be reported with a place in the text. -/
theorem understand_eq {text stray : Text} {value other : Json} (hText : Json.read text = .ok value)
    (hStray : Json.read stray = .ok other) (hStrip : Profile.stripFile value = Profile.stripFile other)
    (world : World) : understand text world = understand stray world := by
  have hFound : found value = found other := by
    rw [← found_stripFile, hStrip, found_stripFile]
  simp only [understand, if_neg (Json.not_blank_of_read hText), if_neg (Json.not_blank_of_read hStray),
    parse_of_read hText, parse_of_read hStray, hFound]
  split
  · rfl
  · rfl
  · rfl
  · rename_i reason _ _ hReason
    cases reason with
    | json fault => exact absurd hReason (found_ne_json other fault)
    | noList kind => rfl
    | profile fault => rfl

theorem understand_beside {a b : World} (h : a.Beside b) (text : Text) :
    (understand text a).1 = (understand text b).1 ∧ (understand text a).2.Beside (understand text b).2 := by
  refine ⟨understand_fst text a b, ?_⟩
  unfold understand
  split
  · exact h
  · split
    · exact h
    · exact h
    · exact h
    · exact h.say _

/-! ### Two runs side by side -/

/-- Two worlds that differ in their disks only, with files that are alike; they are the same file if the flag
says so. -/
structure Twins (store : ProfileStore) (same : Bool) (a b : World) : Prop where
  beside : a.Beside b
  log : store.LogsElsewhere a
  files : ∃ own other, a.disk.read store.path = .ok own ∧ b.disk.read store.path = .ok other ∧
    Alike own other ∧ (same = true → own = other)

section

variable {store : ProfileStore} {same : Bool} {a b : World}

theorem Twins.otherLog (h : Twins store same a b) : store.LogsElsewhere b :=
  h.log.of_listener_eq h.beside.listener_eq

/-- What leaves both files as they are keeps worlds twins. -/
theorem Twins.of_read_iff {after later : World} (h : Twins store same a b) (hBeside : after.Beside later)
    (hListener : after.listener = a.listener)
    (hAfter : ∀ bytes, after.disk.read store.path = .ok bytes ↔ a.disk.read store.path = .ok bytes)
    (hLater : ∀ bytes, later.disk.read store.path = .ok bytes ↔ b.disk.read store.path = .ok bytes) :
    Twins store same after later := by
  obtain ⟨own, other, hOwn, hOther, hAlike⟩ := h.files
  refine ⟨hBeside, h.log.of_listener_eq hListener, own, other, ?_, ?_, hAlike⟩
  · exact (hAfter own).2 hOwn
  · exact (hLater other).2 hOther

theorem Twins.say (h : Twins store same a b) (notice : Notice) :
    Twins store same (a.say notice) (b.say notice) :=
  h.of_read_iff (h.beside.say notice) (World.listener_say notice a) (read_say h.log notice)
    (read_say h.otherLog notice)

theorem Twins.load (h : Twins store same a b) :
    (store.load a).1 = (store.load b).1 ∧ Twins store same (store.load a).2 (store.load b).2 := by
  obtain ⟨own, other, hOwn, hOther, ⟨value, stray, hSpells, hStraySpells, hStrip⟩, -⟩ := h.files
  obtain ⟨text, hText, hValue⟩ := hSpells
  obtain ⟨strayText, hStrayText, hStray⟩ := hStraySpells
  obtain ⟨name, hName⟩ := Disk.exists_bytes?_of_read hOwn
  have hFirst : store.load a = understand (Utf8.unifyLineEnds strayText) a := by
    simp only [ProfileStore.load, hName, hOwn, hText]
    exact understand_eq hValue hStray hStrip a
  have hSecond : store.load b = understand (Utf8.unifyLineEnds strayText) b := by
    simp only [ProfileStore.load, hName, hOther, hStrayText]
  obtain ⟨hAnswer, hBeside⟩ := understand_beside h.beside (Utf8.unifyLineEnds strayText)
  rw [← hFirst, ← hSecond] at hAnswer hBeside
  exact ⟨hAnswer, h.of_read_iff hBeside (listener_load store a) (read_load h.log)
    (read_load h.otherLog)⟩

theorem Twins.identify (h : Twins store same a b) (draft : ProfileDraft) :
    (identify draft a).1 = (identify draft b).1 ∧
      Twins store same (identify draft a).2 (identify draft b).2 := by
  obtain ⟨⟨disk, rfl⟩, hLog, hFiles⟩ := h
  unfold ProfileStore.identify newId
  split
  · exact ⟨rfl, ⟨disk, rfl⟩, hLog, hFiles⟩
  · exact ⟨rfl, ⟨disk, rfl⟩, hLog, hFiles⟩

theorem spells_encode {text : Text} {value : Json} (hPlain : text.all Json.isPlain = true)
    (hValue : Json.read text = .ok value) : Spells (Utf8.encode text) value := by
  refine ⟨text, Json.decode_encode_plain hPlain, ?_⟩
  rw [Json.unifyLineEnds_eq hPlain]
  exact hValue

/-- A file that has been written spells the objects of the profiles. -/
theorem spells_render {profiles : List Profile} (hCopied : profiles.findSome? Profile.uncopied? = none)
    (hShort : Json.anyOverlong (profiles.map Profile.toJson) = false) :
    Spells (Utf8.encode (render profiles)) (.arr ((profiles.map Profile.normal).map Profile.toJson)) :=
  spells_encode (Json.all_isPlain_writeAt 0 _) (read_render hCopied hShort)

/-- Where the file can be written, the profiles alone decide whether they are. -/
theorem write_cases (store : ProfileStore) (profiles : List Profile) :
    (∃ fault, ∀ world, store.Ready world.disk → store.write profiles world = (.error fault, world)) ∨
      ∀ world, store.Ready world.disk → ∃ after, store.write profiles world = (.ok (), after) := by
  cases hCopied : profiles.findSome? Profile.uncopied? with
  | some object =>
      refine Or.inl ⟨.uncopied object, fun world h => ?_⟩
      simp only [ProfileStore.write, Disk.makeDirectories_of_find? h.directory, hCopied]
  | none =>
      cases hShort : Json.anyOverlong (profiles.map Profile.toJson) with
      | true =>
          refine Or.inl ⟨.overlong, fun world h => ?_⟩
          simp only [ProfileStore.write, Disk.makeDirectories_of_find? h.directory, hCopied, hShort, if_true]
      | false =>
          refine Or.inr fun world h => ?_
          obtain ⟨place, hPlace, hEntry⟩ := h.place
          have hWrite : world.disk.write store.path (Utf8.encode (render profiles)) = .ok _ :=
            Disk.write_eq_ok_iff.2 ⟨place, hPlace, hEntry, rfl⟩
          simp only [ProfileStore.write, Disk.makeDirectories_of_find? h.directory, hCopied, hShort, hWrite,
            Bool.false_eq_true, if_false]
          exact ⟨_, rfl⟩

/-- Twins write the same profiles, or none. -/
theorem Twins.write (h : Twins store same a b) (profiles : List Profile) :
    (∃ fault, store.write profiles a = (.error fault, a) ∧ store.write profiles b = (.error fault, b)) ∨
      ∃ after later, store.write profiles a = (.ok (), after) ∧ store.write profiles b = (.ok (), later) ∧
        Twins store true after later := by
  obtain ⟨own, other, hOwn, hOther, -⟩ := h.files
  have hReady := ready_of_read hOwn
  have hReadyOther := ready_of_read hOther
  obtain ⟨fault, hRefused⟩ | hWritten := store.write_cases profiles
  · exact Or.inl ⟨fault, hRefused a hReady, hRefused b hReadyOther⟩
  · obtain ⟨after, hAfter⟩ := hWritten a hReady
    obtain ⟨later, hLater⟩ := hWritten b hReadyOther
    obtain ⟨⟨hCopied, hShort⟩, hRead, hRest⟩ := write_eq_ok hAfter
    obtain ⟨-, hReadLater, hRestLater⟩ := write_eq_ok hLater
    have hSpells := spells_render hCopied hShort
    refine Or.inr ⟨after, later, hAfter, hLater, ?_, h.log.of_listener_eq (listener_write hAfter), ?_⟩
    · obtain ⟨disk, rfl⟩ := h.beside
      rw [hRest, hRestLater]
      exact ⟨later.disk, rfl⟩
    · exact ⟨_, _, hRead, hReadLater, ⟨_, _, hSpells, hSpells, rfl⟩, fun _ => rfl⟩

/-- A call of a store with any values at all. -/
inductive Operation where
  | load
  | get (id : Json)
  | delete (id : Json)
  | save (draft : ProfileDraft)

/-- The answer of a store to an operation. -/
def perform (store : ProfileStore) : Operation → World → Except Fault Result × World
  | .load, world => ((store.load world).1.map .listed, (store.load world).2)
  | .get id, world => ((store.get id world).1.map .found, (store.get id world).2)
  | .delete id, world => ((store.delete id world).1.map .deleted, (store.delete id world).2)
  | .save draft, world => ((store.save draft world).1.map .saved, (store.save draft world).2)

/-- The answers of a store to operations, one after the other. -/
def performAll (store : ProfileStore) : List Operation → World → List (Except Fault Result) × World
  | [], world => ([], world)
  | operation :: rest, world =>
    ((store.perform operation world).1 :: (store.performAll rest (store.perform operation world).2).1,
      (store.performAll rest (store.perform operation world).2).2)

theorem changes_map {α : Type} {f : α → Result} (h : ∀ value, changes (.ok (f value)) = false)
    (answer : Except Fault α) : changes (answer.map f) = false := by
  cases answer with
  | ok value => exact h value
  | error fault => rfl

/-- Twins stay twins where nothing is written. -/
theorem Twins.unchanged (h : Twins store same a b) {changed : Bool} (hSame : changed = false) :
    Twins store (same || changed) a b := by
  rwa [hSame, Bool.or_false]

/-- Twins whose files are the same have the same file from then on. -/
theorem Twins.changed (h : Twins store true a b) {changed : Bool} (hChanged : changed = true) :
    Twins store (same || changed) a b := by
  rwa [hChanged, Bool.or_true]

theorem Twins.get (h : Twins store same a b) (id : Json) :
    (store.get id a).1 = (store.get id b).1 ∧ Twins store same (store.get id a).2 (store.get id b).2 := by
  obtain ⟨hAnswer, hNext⟩ := h.load
  rw [get_fst, get_fst, hAnswer]
  exact ⟨rfl, hNext⟩

theorem Twins.delete (h : Twins store same a b) (id : Json) :
    (store.delete id a).1 = (store.delete id b).1 ∧
      Twins store (same || changes ((store.delete id a).1.map .deleted)) (store.delete id a).2
        (store.delete id b).2 := by
  obtain ⟨hAnswer, hNext⟩ := h.load
  unfold ProfileStore.delete
  rw [eq_mk_of_fst_eq hAnswer]
  cases hLoad : store.load b with
  | mk answer later =>
      rw [hLoad] at hNext
      cases answer with
      | error fault => exact ⟨rfl, hNext.unchanged rfl⟩
      | ok profiles =>
          simp only
          split
          · exact ⟨rfl, hNext.unchanged rfl⟩
          · obtain ⟨fault, hFirst, hSecond⟩ | ⟨after, last, hFirst, hSecond, hWritten⟩ :=
              hNext.write (profiles.filter fun profile => !profile.id.same id)
            · rw [hFirst, hSecond]
              exact ⟨rfl, hNext.unchanged rfl⟩
            · rw [hFirst, hSecond]
              exact ⟨rfl, (hWritten.say _).changed rfl⟩

theorem Twins.save (h : Twins store same a b) (draft : ProfileDraft) :
    (store.save draft a).1 = (store.save draft b).1 ∧
      Twins store (same || changes ((store.save draft a).1.map .saved)) (store.save draft a).2
        (store.save draft b).2 := by
  obtain ⟨hAnswer, hNext⟩ := h.load
  rw [save_def, save_def]
  split
  · exact ⟨rfl, h.unchanged rfl⟩
  · rw [eq_mk_of_fst_eq hAnswer]
    cases hLoad : store.load b with
    | mk answer later =>
        rw [hLoad] at hNext
        cases answer with
        | error fault => exact ⟨rfl, hNext.unchanged rfl⟩
        | ok profiles =>
            obtain ⟨hId, hNamed⟩ := hNext.identify draft
            simp only
            split
            · exact ⟨rfl, hNamed.unchanged rfl⟩
            · rename_i port hPort
              rw [hId]
              obtain ⟨fault, hFirst, hSecond⟩ | ⟨after, last, hFirst, hSecond, hWritten⟩ :=
                hNamed.write (put (drafted draft (ProfileStore.identify draft later).1 port) profiles)
              · rw [hFirst, hSecond]
                exact ⟨rfl, hNamed.unchanged rfl⟩
              · rw [hFirst, hSecond]
                exact ⟨rfl, (hWritten.say _).changed rfl⟩

/-- Twins give the same answers and stay twins, and with a write their files become the same. -/
theorem Twins.perform (h : Twins store same a b) (operation : Operation) :
    (store.perform operation a).1 = (store.perform operation b).1 ∧
      Twins store (same || changes (store.perform operation a).1) (store.perform operation a).2
        (store.perform operation b).2 := by
  cases operation with
  | load =>
      obtain ⟨hAnswer, hNext⟩ := h.load
      exact ⟨congrArg (Except.map Result.listed) hAnswer, hNext.unchanged (changes_map (fun _ => rfl) _)⟩
  | get id =>
      obtain ⟨hAnswer, hNext⟩ := h.get id
      exact ⟨congrArg (Except.map Result.found) hAnswer, hNext.unchanged (changes_map (fun _ => rfl) _)⟩
  | delete id =>
      obtain ⟨hAnswer, hNext⟩ := h.delete id
      exact ⟨congrArg (Except.map Result.deleted) hAnswer, hNext⟩
  | save draft =>
      obtain ⟨hAnswer, hNext⟩ := h.save draft
      exact ⟨congrArg (Except.map Result.saved) hAnswer, hNext⟩

/-- The file of a store is a list of objects with the fields of a profile, and no others. -/
def HoldsOwnFields (store : ProfileStore) (world : World) : Prop :=
  ∃ bytes items, world.disk.read store.path = .ok bytes ∧ Spells bytes (.arr items) ∧
    ∀ item ∈ items, ∃ fields, item = .obj fields ∧ fields.map Prod.fst = Profile.names

theorem holdsOwnFields_of_write {world written : World} {profiles : List Profile}
    (hLog : store.LogsElsewhere world) (hWrite : store.write profiles world = (.ok (), written))
    (notice : Notice) : store.HoldsOwnFields (written.say notice) := by
  obtain ⟨⟨hCopied, hShort⟩, hRead, -⟩ := write_eq_ok hWrite
  refine ⟨_, _, ?_, spells_render hCopied hShort, ?_⟩
  · rw [read_say (hLog.of_listener_eq (listener_write hWrite))]
    exact hRead
  · intro item hItem
    obtain ⟨profile, -, rfl⟩ := List.mem_map.1 hItem
    exact ⟨_, rfl, rfl⟩

/-- A deletion either leaves the bytes of the file as they are, or it says that it has deleted something. -/
theorem delete_cases {world : World} (hLog : store.LogsElsewhere world) (id : Json) :
    (changes ((store.delete id world).1.map .deleted) = false ∧ ∀ bytes,
      world.disk.read store.path = .ok bytes → (store.delete id world).2.disk.read store.path = .ok bytes) ∨
      (changes ((store.delete id world).1.map .deleted) = true ∧
        store.HoldsOwnFields (store.delete id world).2) := by
  have hLoaded := hLog.of_listener_eq (listener_load store world)
  have hRead (bytes : List UInt8) := (read_load hLog bytes).2
  unfold ProfileStore.delete
  cases hLoad : store.load world with
  | mk answer loaded =>
      rw [hLoad] at hLoaded hRead
      cases answer with
      | error fault => exact Or.inl ⟨rfl, hRead⟩
      | ok profiles =>
          simp only
          split
          · exact Or.inl ⟨rfl, hRead⟩
          · cases hWrite : store.write (profiles.filter fun profile => !profile.id.same id) loaded with
            | mk written after =>
                cases written with
                | error fault => exact Or.inl ⟨rfl, fun bytes h => read_of_write_eq_error hWrite (hRead bytes h)⟩
                | ok done => exact Or.inr ⟨rfl, holdsOwnFields_of_write hLoaded hWrite _⟩

/-- A save either leaves the bytes of the file as they are, or it gives back what it has saved. -/
theorem save_cases {world : World} (hLog : store.LogsElsewhere world) (draft : ProfileDraft) :
    (changes ((store.save draft world).1.map .saved) = false ∧ ∀ bytes,
      world.disk.read store.path = .ok bytes → (store.save draft world).2.disk.read store.path = .ok bytes) ∨
      (changes ((store.save draft world).1.map .saved) = true ∧
        store.HoldsOwnFields (store.save draft world).2) := by
  cases hSave : store.save draft world with
  | mk answer after =>
      cases answer with
      | error fault => exact Or.inl ⟨rfl, fun bytes => read_of_save_eq_error hLog hSave⟩
      | ok saved =>
          obtain ⟨profiles, written, hSaves⟩ := exists_saves hSave
          have hListener : (ProfileStore.identify draft (store.load world).2).2.listener = world.listener := by
            rw [identify_snd]
            exact listener_load store world
          rw [hSaves.noted]
          exact Or.inr ⟨rfl, holdsOwnFields_of_write (hLog.of_listener_eq hListener) hSaves.writes _⟩

/-- Whatever stands in the file, an operation either leaves its bytes as they are, or leaves nothing in it but
the fields of profiles, and its answer tells which. -/
theorem perform_cases {world : World} (hLog : store.LogsElsewhere world) (operation : Operation) :
    (changes (store.perform operation world).1 = false ∧ ∀ bytes, world.disk.read store.path = .ok bytes →
      (store.perform operation world).2.disk.read store.path = .ok bytes) ∨
      (changes (store.perform operation world).1 = true ∧
        store.HoldsOwnFields (store.perform operation world).2) := by
  cases operation with
  | load => exact Or.inl ⟨changes_map (fun _ => rfl) _, fun bytes => (read_load hLog bytes).2⟩
  | get id => exact Or.inl ⟨changes_map (fun _ => rfl) _, fun bytes => (read_load hLog bytes).2⟩
  | delete id => exact delete_cases hLog id
  | save draft => exact save_cases hLog draft

theorem read_perform {world : World} {operation : Operation} {bytes : List UInt8}
    (hLog : store.LogsElsewhere world) (hSame : changes (store.perform operation world).1 = false)
    (hRead : world.disk.read store.path = .ok bytes) :
    (store.perform operation world).2.disk.read store.path = .ok bytes := by
  obtain ⟨-, hKept⟩ | ⟨hChanged, -⟩ := perform_cases hLog operation
  · exact hKept bytes hRead
  · rw [hChanged] at hSame
    cases hSame

theorem Twins.performAll (h : Twins store same a b) (operations : List Operation) :
    (store.performAll operations a).1 = (store.performAll operations b).1 ∧
      Twins store (same || (store.performAll operations a).1.any changes) (store.performAll operations a).2
        (store.performAll operations b).2 := by
  induction operations generalizing same a b with
  | nil => exact ⟨rfl, h.unchanged rfl⟩
  | cons operation rest ih =>
      obtain ⟨hAnswer, hNext⟩ := h.perform operation
      obtain ⟨hAnswers, hLast⟩ := ih hNext
      simp only [ProfileStore.performAll, List.any_cons, ← Bool.or_assoc]
      exact ⟨congrArg₂ List.cons hAnswer hAnswers, hLast⟩

/-- As long as nothing is written, both files stay as they are. -/
theorem Twins.read_performAll (h : Twins store same a b) {operations : List Operation}
    (hSame : (store.performAll operations a).1.any changes = false) {own other : List UInt8}
    (hOwn : a.disk.read store.path = .ok own) (hOther : b.disk.read store.path = .ok other) :
    (store.performAll operations a).2.disk.read store.path = .ok own ∧
      (store.performAll operations b).2.disk.read store.path = .ok other := by
  induction operations generalizing same a b with
  | nil => exact ⟨hOwn, hOther⟩
  | cons operation rest ih =>
      obtain ⟨hAnswer, hNext⟩ := h.perform operation
      simp only [ProfileStore.performAll, List.any_cons, Bool.or_eq_false_iff] at hSame ⊢
      obtain ⟨hFirst, hRest⟩ := hSame
      have hOwnNext := read_perform h.log hFirst hOwn
      rw [hAnswer] at hFirst
      exact ih hNext hRest hOwnNext (read_perform h.otherLog hFirst hOther)

end

/-- Two worlds that differ in their disks only, whose files become equal when their objects are stripped of
the fields that no profile has, give the same answers to all operations and keep the same log. Before the
first operation that writes, each file is what it was; after it, both are the same. Every file that is written,
in these worlds or in any other, holds the fields of profiles only. -/
theorem strays_have_no_influence {store : ProfileStore} {a b : World} {own other : List UInt8}
    (hOwn : a.disk.read store.path = .ok own) (hOther : b.disk.read store.path = .ok other)
    (hAlike : Alike own other) (hBeside : a.Beside b) (hLog : store.LogsElsewhere a)
    (operations : List Operation) :
    let (answers, after) := store.performAll operations a
    let (others, later) := store.performAll operations b
    answers = others ∧ after.Beside later ∧
      (answers.any changes = false →
        after.disk.read store.path = .ok own ∧ later.disk.read store.path = .ok other) ∧
      (answers.any changes = true → ∃ bytes,
        after.disk.read store.path = .ok bytes ∧ later.disk.read store.path = .ok bytes) ∧
      ∀ world operation, store.LogsElsewhere world → changes (store.perform operation world).1 = true →
        store.HoldsOwnFields (store.perform operation world).2 := by
  have hTwins : Twins store false a b := ⟨hBeside, hLog, own, other, hOwn, hOther, hAlike, nofun⟩
  obtain ⟨hAnswers, hLast⟩ := hTwins.performAll operations
  refine ⟨hAnswers, hLast.beside, fun hSame => hTwins.read_performAll hSame hOwn hOther, ?_, ?_⟩
  · intro hChanged
    obtain ⟨bytes, stray, hBytes, hStray, -, hEqual⟩ := hLast.files
    exact ⟨bytes, hBytes, (hEqual hChanged).symm ▸ hStray⟩
  · intro world operation hElsewhere hChanged
    obtain ⟨hSame, -⟩ | ⟨-, hFields⟩ := perform_cases hElsewhere operation
    · rw [hChanged] at hSame
      cases hSame
    · exact hFields

/-- The text of a list with one profile that has two secrets beside its fields. -/
def secretA : Text :=
  "[\x7b\"password\": \"x\", \"label\": \"A\", \"id\": \"a\", \"host\": \"h\", \"key\": \"y\", " ++
    "\"username\": \"u\"\x7d]"

def secretValueA : Json :=
  .obj [("password", .text "x"), ("label", .text "A"), ("id", .text "a"), ("host", .text "h"), ("key", .text "y"),
    ("username", .text "u")]

/-- A search, a save and another search do not tell a file with secrets from one without. -/
theorem secretA_has_no_influence :
    let operations : List Operation := [.get (.text "a"), .save draftB, .load]
    let (answers, after) := atRoot.performAll operations (quietWith secretA)
    let (others, later) := atRoot.performAll operations worldA
    answers = others ∧ after.disk.read atRoot.path = later.disk.read atRoot.path := by
  have hSecret : (quietWith secretA).disk.read atRoot.path = .ok (Utf8.encode secretA) :=
    Disk.read_write (write_quietWith _)
  have hPlain : worldA.disk.read atRoot.path = .ok (Utf8.encode ("[" ++ entryA ++ "]")) :=
    Disk.read_write (write_quietWith _)
  have hAlike : Alike (Utf8.encode secretA) (Utf8.encode ("[" ++ entryA ++ "]")) := by
    refine ⟨.arr [secretValueA], .arr [valueA], spells_encode ?_ ?_, spells_encode ?_ ?_, ?_⟩
    all_goals decide +kernel
  obtain ⟨hAnswers, -, -, hFiles, -⟩ := strays_have_no_influence hSecret hPlain hAlike ⟨_, rfl⟩
    (logsElsewhere_quietWith _) [.get (.text "a"), .save draftB, .load]
  refine ⟨hAnswers, ?_⟩
  obtain ⟨bytes, hAfter, hLater⟩ := hFiles (by decide +kernel)
  exact hAfter.trans hLater.symm

end ProfileStore

end PhantomHost
