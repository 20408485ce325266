import PhantomHost.Proofs.Disk
import PhantomHost.Proofs.Json.Blank
import PhantomHost.Proofs.Profile.RoundTrip
import PhantomHost.Proofs.World.Frame
/-!
The file of a store over its operations: what is loaded depends on the bytes of the file only, and after a
write the profiles that were written are loaded, in their normal forms.

The log must not go to the file of the store. Where the paths of the two lead can depend on the directories
that exist, so this is asked of every disk.
-/
namespace PhantomHost

open PhantomHost.Text

namespace ProfileStore

/-- The log does not go to the file of the store: on no disk do their paths lead to the same place. -/
def LogsElsewhere (store : ProfileStore) (world : World) : Prop :=
  ∀ listener file, world.listener = some listener → listener.file = some file →
    ∀ (disk : Disk) (place : FilePath), disk.locate file = .ok place → disk.locate store.path ≠ .ok place

/-- A log whose file has another name does not go to the file of the store. -/
theorem logsElsewhere_of_name {store : ProfileStore} {world : World} {name : Text}
    (hName : store.path.parts.getLast? = some name) (hUp : name ≠ "..")
    (hLog : ∀ listener file, world.listener = some listener → listener.file = some file →
      ∃ last, file.parts.getLast? = some last ∧ last ≠ ".." ∧
        SystemName.settled? last ≠ SystemName.settled? name) : store.LogsElsewhere world := by
  intro listener file hListener hFile disk place hPlace
  obtain ⟨last, hLast, hDown, hNames⟩ := hLog listener file hListener hFile
  exact Disk.locate_ne_of_settled?_ne hLast hDown hName hUp hNames hPlace

/-- A notice leaves the file of the store as it is. -/
theorem read_say {store : ProfileStore} {world : World} (h : store.LogsElsewhere world) (notice : Notice)
    (bytes : List UInt8) :
    (world.say notice).disk.read store.path = .ok bytes ↔ world.disk.read store.path = .ok bytes := by
  rcases world.disk_say notice with hSame | ⟨listener, file, line, hListener, hFile, hAppend⟩
  · rw [hSame]
  · exact Disk.read_append_of_ne hAppend (h listener file hListener hFile world.disk) bytes

theorem eq_mk_of_fst_eq {α β : Type} {pair : α × β} {a : α} (h : pair.1 = a) : pair = (a, pair.2) := by
  rw [← h]

theorem understand_fst (text : Text) (a b : World) : (understand text a).1 = (understand text b).1 := by
  unfold understand
  split
  · rfl
  · split <;> rfl

theorem understand_snd (text : Text) (world : World) :
    (understand text world).2 = world ∨ ∃ notice, (understand text world).2 = world.say notice := by
  unfold understand
  split
  · exact Or.inl rfl
  · split
    · exact Or.inl rfl
    · exact Or.inl rfl
    · exact Or.inl rfl
    · exact Or.inr ⟨_, rfl⟩

/-- Loading changes nothing but the log. -/
theorem load_snd (store : ProfileStore) (world : World) :
    (store.load world).2 = world ∨ ∃ notice, (store.load world).2 = world.say notice := by
  unfold load
  split
  · exact Or.inl rfl
  · split
    · exact Or.inl rfl
    · exact Or.inr ⟨_, rfl⟩
    · split
      · exact Or.inl rfl
      · exact understand_snd _ world

/-- What is loaded depends on the bytes of the file only. -/
theorem load_congr {store : ProfileStore} {a b : World}
    (h : ∀ bytes, a.disk.read store.path = .ok bytes ↔ b.disk.read store.path = .ok bytes) :
    (store.load a).1 = (store.load b).1 := by
  have hNone {world : World} {bytes : List UInt8} (hPath : store.path.bytes? = .ok bytes)
      (hRead : ∀ found, world.disk.read store.path ≠ .ok found) : (store.load world).1 = .ok [] := by
    unfold load
    split
    · rename_i hFault
      rw [hPath] at hFault
      cases hFault
    · split
      · rfl
      · rfl
      · rename_i found hFound
        exact absurd hFound (hRead found)
  cases hPath : store.path.bytes? with
  | error fault => simp only [load, hPath]
  | ok bytes =>
      cases hRead : a.disk.read store.path with
      | ok found =>
          simp only [load, hPath, hRead, (h found).1 hRead]
          cases Utf8.decode found with
          | error error => rfl
          | ok text => exact understand_fst _ a b
      | error fault =>
          have hOther (found : List UInt8) : b.disk.read store.path ≠ .ok found := by
            intro hFound
            rw [(h found).2 hFound] at hRead
            cases hRead
          rw [hNone hPath hOther, hNone hPath]
          intro found hFound
          rw [hRead] at hFound
          cases hFound

/-- What no notice changes, loading does not change. -/
theorem preserved_load {P : World → Prop} {world : World} (store : ProfileStore) (h : P world)
    (hSay : ∀ notice, P (world.say notice)) : P (store.load world).2 := by
  rcases store.load_snd world with hSame | ⟨notice, hNotice⟩
  · rw [hSame]
    exact h
  · rw [hNotice]
    exact hSay notice

/-- Loading leaves the file of the store as it is. -/
theorem read_load {store : ProfileStore} {world : World} (h : store.LogsElsewhere world) (bytes : List UInt8) :
    (store.load world).2.disk.read store.path = .ok bytes ↔ world.disk.read store.path = .ok bytes :=
  preserved_load (P := fun other => other.disk.read store.path = .ok bytes ↔ _) store Iff.rfl
    fun notice => read_say h notice bytes

theorem profileCount_load (store : ProfileStore) (world : World) :
    (store.load world).2.profileCount = world.profileCount :=
  preserved_load (P := fun other => other.profileCount = _) store rfl
    fun notice => World.profileCount_say notice world

theorem listener_load (store : ProfileStore) (world : World) :
    (store.load world).2.listener = world.listener :=
  preserved_load (P := fun other => other.listener = _) store rfl
    fun notice => World.listener_say notice world

/-- What has been loaded can be written and read back as it is. -/
theorem kept_of_load {store : ProfileStore} {world : World} {profiles : List Profile}
    (h : (store.load world).1 = .ok profiles) : ∀ profile ∈ profiles, profile.Kept := by
  have hNone {found : List Profile} (hFound : (Except.ok [] : Except Fault (List Profile)) = .ok found) :
      ∀ profile ∈ found, profile.Kept := by
    cases hFound
    exact nofun
  unfold ProfileStore.load at h
  split at h
  · cases h
  · split at h
    · exact hNone h
    · exact hNone h
    · split at h
      · cases h
      · unfold understand at h
        split at h
        · exact hNone h
        · split at h
          · rename_i found hParse
            cases h
            exact kept_of_parse hParse
          · cases h
          · cases h
          · exact hNone h

/-- Writing succeeds, or is refused because of the profiles or of the disk. -/
theorem write_eq_ok {store : ProfileStore} {profiles : List Profile} {world after : World}
    (h : store.write profiles world = (.ok (), after)) :
    (profiles.findSome? Profile.uncopied? = none ∧
      Json.anyOverlong (profiles.map Profile.toJson) = false) ∧
    after.disk.read store.path = .ok (Utf8.encode (render profiles)) ∧
    after = { world with disk := after.disk } := by
  unfold write at h
  split at h
  · cases h
  · split at h
    · cases h
    · rename_i hCopied
      split at h
      · cases h
      · rename_i hShort
        split at h
        · cases h
        · rename_i disk hWrite
          cases h
          exact ⟨⟨hCopied, by simpa using hShort⟩, Disk.read_write hWrite, rfl⟩

theorem write_eq_error {store : ProfileStore} {profiles : List Profile} {world after : World} {fault : Fault}
    (h : store.write profiles world = (.error fault, after))
    (hCopied : profiles.findSome? Profile.uncopied? = none)
    (hShort : Json.anyOverlong (profiles.map Profile.toJson) = false) :
    ∃ reason, fault = .disk reason := by
  unfold write at h
  split at h
  · cases h
    exact ⟨_, rfl⟩
  · rw [hCopied, hShort] at h
    simp only [Bool.false_eq_true, if_false] at h
    split at h
    · cases h
      exact ⟨_, rfl⟩
    · cases h

/-- A write that fails leaves the bytes of the file as they are. -/
theorem read_of_write_eq_error {store : ProfileStore} {profiles : List Profile} {world after : World}
    {fault : Fault} {bytes : List UInt8} (h : store.write profiles world = (.error fault, after))
    (hRead : world.disk.read store.path = .ok bytes) : after.disk.read store.path = .ok bytes := by
  have hMade := Disk.read_makeDirectories hRead store.path.parent
  unfold write at h
  split at h
  · rename_i reason disk hDirectories
    cases h
    rw [hDirectories] at hMade
    exact hMade
  · rename_i disk hDirectories
    rw [hDirectories] at hMade
    split at h
    · cases h
      exact hMade
    · split at h
      · cases h
        exact hMade
      · split at h
        · cases h
          exact hMade
        · cases h

/-- What has been rendered is loaded in its normal form. -/
theorem load_of_read {store : ProfileStore} {world : World} {profiles : List Profile} {name : List UInt8}
    (hPath : store.path.bytes? = .ok name)
    (hRead : world.disk.read store.path = .ok (Utf8.encode (render profiles)))
    (hCopied : profiles.findSome? Profile.uncopied? = none)
    (hShort : Json.anyOverlong (profiles.map Profile.toJson) = false) :
    (store.load world).1 = .ok (profiles.map Profile.normal) := by
  have hPlain : (render profiles).all Json.isPlain = true := Json.all_isPlain_writeAt 0 _
  have hBlank := Json.not_blank_of_read (read_render hCopied hShort)
  simp only [ProfileStore.load, hPath, hRead, Json.decode_encode_plain hPlain, Json.unifyLineEnds_eq hPlain,
    understand, if_neg hBlank, parse_render hCopied hShort]

theorem exists_bytes_of_load {store : ProfileStore} {world : World} {profiles : List Profile}
    (h : (store.load world).1 = .ok profiles) : ∃ name, store.path.bytes? = .ok name := by
  unfold ProfileStore.load at h
  split at h
  · cases h
  · rename_i name hName
    exact ⟨name, hName⟩

/-- A deletion, if the file loads. -/
theorem delete_eq {store : ProfileStore} {world : World} {profiles : List Profile}
    (hLoad : (store.load world).1 = .ok profiles) (id : Json) :
    let remaining := profiles.filter fun profile => !profile.id.same id
    store.delete id world =
      if remaining.length = profiles.length then (.ok false, (store.load world).2)
      else
        match store.write remaining (store.load world).2 with
        | (.error fault, after) => (.error fault, after)
        | (.ok (), after) => (.ok true, after.say (.deleted id)) := by
  unfold delete
  cases hResult : store.load world with
  | mk result loaded =>
      rw [hResult] at hLoad
      cases hLoad
      rfl

/-- The profile of a draft, with its id and its port. -/
def drafted (draft : ProfileDraft) (id : Json) (port : Int) : Profile :=
  ⟨id, draft.label, draft.host, draft.username, port, draft.authType⟩

/-- The id of a draft, or a new one. -/
def identify (draft : ProfileDraft) (world : World) : Json × World :=
  if draft.id.isTruthy then (draft.id, world) else newId world

theorem identify_snd (draft : ProfileDraft) (world : World) :
    (identify draft world).2 = { world with profileCount := (identify draft world).2.profileCount } := by
  unfold identify newId
  split <;> rfl

/-- The id of a draft depends on how many have been given out, and on nothing else in the world. -/
theorem identify_fst_congr {draft : ProfileDraft} {a b : World} (h : a.profileCount = b.profileCount) :
    (identify draft a).1 = (identify draft b).1 := by
  unfold identify newId
  split
  · rfl
  · rw [h]

/-- A save, with the profile that is written. -/
theorem save_def (store : ProfileStore) (draft : ProfileDraft) (world : World) :
    store.save draft world =
      if !draft.label.isTruthy then (.error .noLabel, world)
      else
        match store.load world with
        | (.error fault, loaded) => (.error fault, loaded)
        | (.ok profiles, loaded) =>
          match Profile.portOf draft.port with
          | .error fault => (.error (.port fault), (identify draft loaded).2)
          | .ok port =>
            let saved := drafted draft (identify draft loaded).1 port
            match store.write (put saved profiles) (identify draft loaded).2 with
            | (.error fault, after) => (.error fault, after)
            | (.ok (), after) => (.ok saved, after.say (.saved draft.label)) :=
  rfl

/-- A save with a label and a port, if the file loads. -/
theorem save_eq {store : ProfileStore} {draft : ProfileDraft} {world : World} {profiles : List Profile}
    {port : Int} (hLabel : draft.label.isTruthy = true) (hLoad : (store.load world).1 = .ok profiles)
    (hPort : Profile.portOf draft.port = .ok port) :
    let identified := identify draft (store.load world).2
    let saved := drafted draft identified.1 port
    store.save draft world =
      match store.write (put saved profiles) identified.2 with
      | (.error fault, after) => (.error fault, after)
      | (.ok (), after) => (.ok saved, after.say (.saved draft.label)) := by
  rw [save_def, hLabel]
  cases hResult : store.load world with
  | mk result loaded =>
      rw [hResult] at hLoad
      cases hLoad
      simp only [Bool.not_true, Bool.false_eq_true, if_false, hPort]

/-- A save that fails leaves the bytes of the file as they are, whatever it is that fails. -/
theorem read_of_save_eq_error {store : ProfileStore} {draft : ProfileDraft} {world after : World} {fault : Fault}
    {bytes : List UInt8} (hLog : store.LogsElsewhere world) (h : store.save draft world = (.error fault, after))
    (hRead : world.disk.read store.path = .ok bytes) : after.disk.read store.path = .ok bytes := by
  have hLoaded := (read_load hLog bytes).2 hRead
  rw [save_def] at h
  split at h
  · cases h
    exact hRead
  · split at h
    · rename_i reason loaded hLoad
      rw [hLoad] at hLoaded
      cases h
      exact hLoaded
    · rename_i profiles loaded hLoad
      rw [hLoad] at hLoaded
      have hIdentified : (identify draft loaded).2.disk.read store.path = .ok bytes := by
        rw [identify_snd]
        exact hLoaded
      split at h
      · cases h
        exact hIdentified
      · simp only at h
        split at h
        · rename_i reason written hWrite
          cases h
          exact read_of_write_eq_error hWrite hIdentified
        · cases h

/-- What happens in a save that succeeds. -/
structure Saves (store : ProfileStore) (draft : ProfileDraft) (world after : World) (saved : Profile)
    (profiles : List Profile) (written : World) : Prop where
  loads : (store.load world).1 = .ok profiles
  profile : ∃ port, Profile.portOf draft.port = .ok port ∧
    saved = drafted draft (identify draft (store.load world).2).1 port
  writes : store.write (put saved profiles) (identify draft (store.load world).2).2 = (.ok (), written)
  noted : after = written.say (.saved draft.label)

theorem exists_saves {store : ProfileStore} {draft : ProfileDraft} {world after : World} {saved : Profile}
    (h : store.save draft world = (.ok saved, after)) :
    ∃ profiles written, Saves store draft world after saved profiles written := by
  rw [save_def] at h
  split at h
  · cases h
  · split at h
    · cases h
    · rename_i profiles loaded hLoad
      split at h
      · cases h
      · rename_i port hPort
        simp only at h
        split at h
        · cases h
        · rename_i written hWrite
          cases h
          refine ⟨profiles, written, ?_, ⟨port, hPort, ?_⟩, ?_, rfl⟩
          · rw [hLoad]
          · rw [hLoad]
          · rw [hLoad]
            exact hWrite

theorem LogsElsewhere.of_listener_eq {store : ProfileStore} {a b : World} (h : store.LogsElsewhere a)
    (hListener : b.listener = a.listener) : store.LogsElsewhere b := by
  rw [LogsElsewhere, hListener]
  exact h

theorem listener_write {store : ProfileStore} {profiles : List Profile} {world after : World}
    (h : store.write profiles world = (.ok (), after)) : after.listener = world.listener := by
  rw [(write_eq_ok h).2.2]

section

variable {store : ProfileStore} {draft : ProfileDraft} {world after written : World} {saved : Profile}
  {profiles : List Profile}

theorem Saves.listener_eq (h : Saves store draft world after saved profiles written) :
    written.listener = world.listener := by
  rw [listener_write h.writes, identify_snd, listener_load]

/-- After a save the profiles with the new one among them are loaded, in their normal forms. -/
theorem Saves.load_after (h : Saves store draft world after saved profiles written)
    (hLog : store.LogsElsewhere world) :
    (store.load after).1 = .ok ((put saved profiles).map Profile.normal) := by
  obtain ⟨name, hName⟩ := exists_bytes_of_load h.loads
  obtain ⟨⟨hCopied, hShort⟩, hRead, -⟩ := write_eq_ok h.writes
  refine load_of_read hName ?_ hCopied hShort
  rw [h.noted, read_say (hLog.of_listener_eq h.listener_eq)]
  exact hRead

end

end ProfileStore

end PhantomHost
