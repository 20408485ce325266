import PhantomHost.Proofs.Profile.File
/-!
What a save does to the other profiles of a file that holds a list.

If every item of the list is a profile by itself, the profiles with other ids are kept, in their order. If
some item is none, the file does not load, and the saved profile is the only one afterwards.
-/
namespace PhantomHost

open PhantomHost.Text

namespace Profile

/-- A value is a profile by itself. -/
def Accepted (item : Json) : Prop :=
  ∃ profile, ofJson item = .ok profile

/-- The profiles among values, in their order. -/
def acceptedOf (items : List Json) : List Profile :=
  items.filterMap fun item => (ofJson item).toOption

end Profile

namespace ProfileStore

/-- The file of a store holds the text of a list. -/
def HoldsList (store : ProfileStore) (world : World) (items : List Json) : Prop :=
  ∃ bytes text, world.disk.read store.path = .ok bytes ∧ Utf8.decode bytes = .ok text ∧
    Json.read (Utf8.unifyLineEnds text) = .ok (.arr items)

theorem readAll_of_accepted {items : List Json} (h : ∀ item ∈ items, Profile.Accepted item) :
    readAll items = .ok (Profile.acceptedOf items) := by
  induction items with
  | nil => rfl
  | cons item rest ih =>
      obtain ⟨profile, hProfile⟩ := h item List.mem_cons_self
      have hRest := ih fun other hOther => h other (List.mem_cons_of_mem _ hOther)
      have hFirst : (Profile.ofJson item).toOption = some profile := by
        rw [hProfile]
        rfl
      have hOf : Profile.acceptedOf (item :: rest) = profile :: Profile.acceptedOf rest :=
        List.filterMap_cons_some hFirst
      rw [hOf, readAll, hProfile]
      simp only [hRest]
      rfl

theorem accepted_of_readAll {items : List Json} {profiles : List Profile}
    (h : readAll items = .ok profiles) : ∀ item ∈ items, Profile.Accepted item := by
  induction items generalizing profiles with
  | nil => exact nofun
  | cons first rest ih =>
      rw [readAll] at h
      split at h
      · cases h
      · rename_i profile hProfile
        obtain ⟨others, hOthers, -⟩ := Json.exists_of_map_eq_ok h
        intro item hItem
        rcases List.mem_cons.1 hItem with rfl | hMore
        · exact ⟨profile, hProfile⟩
        · exact ih hOthers item hMore

/-- A file that holds a list loads as the profiles of all its items, or as nothing. -/
theorem load_of_holdsList {store : ProfileStore} {world : World} {items : List Json} {profiles : List Profile}
    (hFile : store.HoldsList world items) (hLoad : (store.load world).1 = .ok profiles) :
    ((∀ item ∈ items, Profile.Accepted item) → profiles = Profile.acceptedOf items) ∧
      ((∃ item ∈ items, ¬Profile.Accepted item) → profiles = []) := by
  obtain ⟨bytes, text, hRead, hText, hItems⟩ := hFile
  obtain ⟨name, hName⟩ := exists_bytes_of_load hLoad
  have hParse : parse (Utf8.unifyLineEnds text) = readAll items := by
    simp only [parse, hItems, candidates]
  simp only [ProfileStore.load, hName, hRead, hText, understand, if_neg (Json.not_blank_of_read hItems),
    hParse] at hLoad
  constructor
  · intro hAll
    rw [readAll_of_accepted hAll] at hLoad
    cases hLoad
    rfl
  · rintro ⟨item, hItem, hNone⟩
    split at hLoad
    · rename_i found hFound
      exact absurd (accepted_of_readAll hFound item hItem) hNone
    · cases hLoad
    · cases hLoad
    · cases hLoad
      rfl

/-- Putting a profile among others keeps those with other ids, in their order. -/
theorem sublist_put (new : Profile) (profiles : List Profile) :
    (profiles.filter fun profile => !profile.id.same new.id).Sublist (put new profiles) := by
  induction profiles with
  | nil => exact List.nil_sublist _
  | cons old rest ih =>
      rw [put]
      cases hSame : old.id.same new.id with
      | true =>
          rw [List.filter_cons_of_neg (by simp [hSame]), if_pos rfl]
          exact List.filter_sublist.cons new
      | false =>
          rw [List.filter_cons_of_pos (by simp [hSame]), if_neg Bool.false_ne_true]
          exact ih.cons_cons old

/-- After a save, the profiles with other ids are loaded in their order if every item of the file is a
profile by itself. Otherwise only the saved one is loaded. -/
theorem save_keeps_others {store : ProfileStore} {draft : ProfileDraft} {world after : World}
    {saved : Profile} {items : List Json} (hFile : store.HoldsList world items)
    (hLog : store.LogsElsewhere world) (hSave : store.save draft world = (.ok saved, after)) :
    ∃ loaded, (store.load after).1 = .ok loaded ∧
      ((∀ item ∈ items, Profile.Accepted item) →
        ((Profile.acceptedOf items).filter fun profile => !profile.id.same saved.id).Sublist loaded) ∧
      ((∃ item ∈ items, ¬Profile.Accepted item) → loaded = [saved.normal]) := by
  obtain ⟨profiles, written, hSaves⟩ := exists_saves hSave
  obtain ⟨hAll, hNone⟩ := load_of_holdsList hFile hSaves.loads
  refine ⟨_, hSaves.load_after hLog, ?_, ?_⟩
  · intro hAccepted
    have hKept := kept_of_load hSaves.loads
    rw [hAll hAccepted] at hKept ⊢
    have hOthers := (sublist_put saved (Profile.acceptedOf items)).map Profile.normal
    rw [Profile.map_normal_eq fun profile hProfile => hKept profile (List.mem_of_mem_filter hProfile)]
      at hOthers
    exact hOthers
  · intro hSome
    rw [hNone hSome]
    rfl

/-- A store whose file is in the root directory. -/
def atRoot : ProfileStore := ⟨⟨"/", ["profiles.json"]⟩⟩

/-- A listener that writes the messages of the log to another file in the root directory. -/
def logListener : Log.Listener :=
  ⟨⟨Log.Format.ofText? "%(message)s" >>= Log.Format.parts, false⟩, 20, some ⟨"/", ["host.log"]⟩⟩

/-- A world at rest with that listener, in which the file of that store holds a text. -/
def quietWith (text : Text) : World :=
  { World.quiet with
    listener := some logListener
    disk := World.quiet.disk.put atRoot.path (.file (Utf8.encode text)) }

theorem logsElsewhere_quietWith (text : Text) : atRoot.LogsElsewhere (quietWith text) := by
  have hName : atRoot.path.parts.getLast? = some "profiles.json" := rfl
  refine logsElsewhere_of_name hName (by decide) ?_
  rintro - file ⟨⟩ ⟨⟩
  exact ⟨"host.log", rfl, by decide, by decide +kernel⟩

theorem write_quietWith (text : Text) :
    World.quiet.disk.write atRoot.path (Utf8.encode text) = .ok (quietWith text).disk :=
  Disk.write_eq_ok_iff.2 ⟨atRoot.path, by decide +kernel, by decide +kernel, rfl⟩

theorem holdsList_quietWith {text : Text} {items : List Json} (hPlain : text.all Json.isPlain = true)
    (hItems : Json.read text = .ok (.arr items)) : atRoot.HoldsList (quietWith text) items := by
  refine ⟨Utf8.encode text, text, Disk.read_write (write_quietWith text),
    Json.decode_encode_plain hPlain, ?_⟩
  rw [Json.unifyLineEnds_eq hPlain]
  exact hItems

/-- A profile as it can stand in a file. -/
def entryA : Text :=
  "\x7b\"id\": \"a\", \"label\": \"A\", \"host\": \"h\", \"username\": \"u\"\x7d"

def valueA : Json :=
  .obj [("id", .text "a"), ("label", .text "A"), ("host", .text "h"), ("username", .text "u")]

def profileA : Profile := ⟨.text "a", .text "A", .text "h", .text "u", 22, .text "password"⟩

/-- A world whose file holds that profile alone. -/
def worldA : World := quietWith ("[" ++ entryA ++ "]")

/-- A world whose file holds that profile and a number. -/
def worldA5 : World := quietWith ("[" ++ entryA ++ ", 5]")

def draftB : ProfileDraft := ⟨.text "B", .text "h", .text "u", .int 22, .text "password", .text "b"⟩

def profileB : Profile := ⟨.text "b", .text "B", .text "h", .text "u", 22, .text "password"⟩

/-- The only item of a file is a profile, and it is kept. -/
theorem save_keeps_profileA :
    atRoot.HoldsList worldA [valueA] ∧ atRoot.LogsElsewhere worldA ∧
      atRoot.save draftB worldA = (.ok profileB, (atRoot.save draftB worldA).2) ∧
      ∃ loaded, (atRoot.load (atRoot.save draftB worldA).2).1 = .ok loaded ∧
        ((∀ item ∈ [valueA], Profile.Accepted item) →
          ((Profile.acceptedOf [valueA]).filter fun profile => !profile.id.same profileB.id).Sublist loaded) ∧
        ((∃ item ∈ [valueA], ¬Profile.Accepted item) → loaded = [profileB.normal]) := by
  have hFile : atRoot.HoldsList worldA [valueA] := holdsList_quietWith (by decide +kernel) (by decide +kernel)
  have hLog : atRoot.LogsElsewhere worldA := logsElsewhere_quietWith _
  have hSave : atRoot.save draftB worldA = (.ok profileB, (atRoot.save draftB worldA).2) :=
    eq_mk_of_fst_eq (by decide +kernel)
  exact ⟨hFile, hLog, hSave, save_keeps_others hFile hLog hSave⟩

/-- A profile is lost if a number stands beside it. -/
theorem save_loses_profileA :
    atRoot.HoldsList worldA5 [valueA, .int 5] ∧ atRoot.LogsElsewhere worldA5 ∧
      Profile.ofJson valueA = .ok profileA ∧ profileA.id.same profileB.id = false ∧
      atRoot.save draftB worldA5 = (.ok profileB, (atRoot.save draftB worldA5).2) ∧
      (atRoot.load (atRoot.save draftB worldA5).2).1 = .ok [profileB] ∧ profileA ∉ [profileB] := by
  refine ⟨holdsList_quietWith ?_ ?_, logsElsewhere_quietWith _, ?_, ?_, eq_mk_of_fst_eq ?_, ?_, ?_⟩
  all_goals decide +kernel

end ProfileStore

end PhantomHost
