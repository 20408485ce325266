import PhantomHost.Proofs.Assistant.Context
import PhantomHost.Proofs.Profile.Stray
/-!
A file that no one but the store has written: it starts missing, or as the store has left it, and all that stands in
it are profiles with ids of their own.

The path of a store can lead to its file only after a directory has been made, so what is asked of the file is asked
of every place that the path can lead to.
-/
namespace PhantomHost

open PhantomHost.Text

namespace Disk

/-- Everything on a disk stands in a directory. -/
def Rooted (disk : Disk) : Prop :=
  ∀ place entry, disk.stands? place = some entry → place.parts ≠ [] →
    disk.stands? place.parent = some .directory

/-- All directories of a disk are there on another one. -/
def Grows (disk later : Disk) : Prop :=
  ∀ place, disk.stands? place = some .directory → later.stands? place = some .directory

/-- A file has a property, wherever the path can lead to as directories are made. -/
def Holds (path : FilePath) (property : List UInt8 → Prop) (disk : Disk) : Prop :=
  ∀ later place bytes, disk.Grows later → later.locate path = .ok place →
    disk.stands? place = some (.file bytes) → property bytes

/-- No file stands where a path leads, or can lead to as directories are made. -/
def Misses (path : FilePath) (disk : Disk) : Prop :=
  disk.Holds path fun _ => False

section

variable {path : FilePath} {property : List UInt8 → Prop} {disk after : Disk}

theorem exists_inside_of_below {place next : FilePath} {name : Text} (h : below place name = .ok next) :
    ∃ shown, next = place.inside shown := by
  unfold below at h
  split at h
  · cases h
  · split at h
    · cases h
    · cases h
      exact ⟨_, rfl⟩

/-- Steps down to something that stands on a rooted disk can all be made there. -/
theorem foldlM_step_of_stands? {later : Disk} {start place : FilePath} {entry : Entry} {parts : List Text}
    (hRooted : disk.Rooted) (hPlain : ∀ part ∈ parts, part ≠ "..")
    (hSteps : parts.foldlM later.step start = .ok place) (hStands : disk.stands? place = some entry) :
    parts.foldlM disk.step start = .ok place := by
  -- The last step goes down from a directory, which has to be on the disk, too.
  induction parts using List.reverseRecOn generalizing place entry with
  | nil => exact hSteps
  | append_singleton parts last ih =>
      rw [List.forall_mem_append, List.forall_mem_singleton] at hPlain
      obtain ⟨hParts, hLast⟩ := hPlain
      rw [List.foldlM_append] at hSteps ⊢
      cases hAbove : parts.foldlM later.step start with
      | error fault =>
          rw [hAbove] at hSteps
          cases hSteps
      | ok above =>
          rw [hAbove] at hSteps
          replace hSteps : later.step above last >>= pure = .ok place := hSteps
          rw [bind_pure, step_eq_ok_iff, if_neg hLast] at hSteps
          obtain ⟨shown, rfl⟩ := exists_inside_of_below hSteps.2
          have hDirectory : disk.stands? above = some .directory := by
            have hParent : (above.inside shown).parent = above := by
              rw [FilePath.parent, FilePath.inside, List.dropLast_concat]
            have hInside : (above.inside shown).parts ≠ [] :=
              List.append_ne_nil_of_right_ne_nil _ (List.cons_ne_nil _ _)
            rw [← hParent]
            exact hRooted _ entry hStands hInside
          have hStep : disk.step above last = .ok (above.inside shown) := by
            rw [step_eq_ok_iff, if_neg hLast]
            exact ⟨hDirectory, hSteps.2⟩
          rw [ih hParts hAbove hDirectory]
          show disk.step above last >>= pure = .ok (above.inside shown)
          rw [hStep]
          rfl

/-- A path without steps up leads to what stands at a place as soon as it can lead there at all. -/
theorem locate_of_stands? {later : Disk} {place : FilePath} {entry : Entry} (hRooted : disk.Rooted)
    (hPlain : ∀ part ∈ path.parts, part ≠ "..") (hPlace : later.locate path = .ok place)
    (hStands : disk.stands? place = some entry) : disk.locate path = .ok place := by
  unfold locate at hPlace ⊢
  split at hPlace
  · cases hPlace
  · split at hPlace
    · cases hPlace
    · rename_i hLong
      rw [if_neg hLong]
      exact foldlM_step_of_stands? hRooted hPlain hPlace hStands

/-- Where every file stands in a directory, nothing is there for a path without steps up if it cannot be read. -/
theorem misses_of_rooted (hRooted : disk.Rooted) (hPlain : ∀ part ∈ path.parts, part ≠ "..")
    (hRead : ∀ bytes, disk.read path ≠ .ok bytes) : disk.Misses path := by
  intro later place bytes _ hPlace hFile
  exact hRead bytes (read_eq_ok_iff.2 ⟨place, locate_of_stands? hRooted hPlain hPlace hFile, hFile⟩)

theorem Misses.holds (h : disk.Misses path) : disk.Holds path property := by
  intro later place bytes hGrows hPlace hFile
  exact (h later place bytes hGrows hPlace hFile).elim

theorem Holds.of_read (h : disk.Holds path property) {bytes : List UInt8} (hRead : disk.read path = .ok bytes) :
    property bytes := by
  obtain ⟨place, hPlace, hFile⟩ := read_eq_ok_iff.1 hRead
  exact h disk place bytes (fun _ => id) hPlace hFile

/-- Of a disk with the same directories, only the files at the places of the path matter. -/
theorem Holds.of_stands? {other : Disk} (h : disk.Holds path property) (hGrows : disk.Grows other)
    (hFile : ∀ later place bytes, disk.Grows later → later.locate path = .ok place →
      other.stands? place = some (.file bytes) → disk.stands? place = some (.file bytes)) :
    other.Holds path property := by
  intro later place bytes hLater hPlace hFound
  have hBoth : disk.Grows later := fun target hTarget => hLater target (hGrows target hTarget)
  exact h later place bytes hBoth hPlace (hFile later place bytes hBoth hPlace hFound)

/-- What is written to a file has to have the property if the path can lead there. -/
theorem Holds.write {file : FilePath} {bytes : List UInt8} (h : disk.Holds path property)
    (hWrite : disk.write file bytes = .ok after)
    (hNew : ∀ (later : Disk) (place : FilePath), later.locate file = .ok place → later.locate path = .ok place →
      property bytes) :
    after.Holds path property := by
  obtain ⟨target, hTarget, hEntry, rfl⟩ := write_eq_ok_iff.1 hWrite
  intro later place found hGrows hPlace hFound
  have hBefore : disk.Grows later := fun other hOther =>
    hGrows other ((stands?_put_file_eq_directory_iff hEntry other).2 hOther)
  by_cases hSame : place = target
  · subst hSame
    rw [stands?_put_self (parts_ne_nil_of_stands? hEntry)] at hFound
    cases hFound
    exact hNew later place (locate_mono hBefore hTarget) hPlace
  · rw [stands?_put_of_ne hSame] at hFound
    exact h later place found hBefore hPlace hFound

theorem Holds.append {file : FilePath} {bytes : List UInt8} (h : disk.Holds path property)
    (hAppend : disk.append file bytes = .ok after)
    (hApart : ∀ (other : Disk) (place : FilePath), other.locate file = .ok place →
      other.locate path ≠ .ok place) : after.Holds path property := by
  unfold Disk.append at hAppend
  split at hAppend
  · exact h.write hAppend fun later place hFile hPath => absurd hPath (hApart later place hFile)
  · exact h.write hAppend fun later place hFile hPath => absurd hPath (hApart later place hFile)

theorem Holds.makeDirectory {directory : FilePath} (h : disk.Holds path property)
    (hMade : disk.makeDirectory directory = .ok after) : after.Holds path property := by
  obtain ⟨target, -, hTarget, rfl⟩ := makeDirectory_eq_ok_iff.1 hMade
  have hParts : target.parts ≠ [] := parts_ne_nil_of_stands? (by rw [hTarget]; exact nofun)
  apply h.of_stands?
  · intro place hPlace
    by_cases hSame : place = target
    · rw [hSame, stands?_put_self hParts]
    · rw [stands?_put_of_ne hSame, hPlace]
  · intro later place bytes _ _ hFound
    by_cases hSame : place = target
    · rw [hSame, stands?_put_self hParts] at hFound
      cases hFound
    · rwa [stands?_put_of_ne hSame] at hFound

theorem Holds.makeDirectories (h : disk.Holds path property) (directory : FilePath) :
    (disk.makeDirectories directory).2.Holds path property := by
  unfold Disk.makeDirectories
  generalize directory.parts.length = depth
  fun_induction makeWithin depth directory disk with
  | case1 depth directory disk after hMade => exact h.makeDirectory hMade
  | case2 directory disk hMissing => exact h
  | case3 directory disk hMissing depth fault after hAbove ih =>
      rw [hAbove] at ih
      exact ih h
  | case4 directory disk hMissing depth above hAbove after hMade ih =>
      rw [hAbove] at ih
      exact (ih h).makeDirectory hMade
  | case5 directory disk hMissing depth above hAbove fault hFault ih =>
      rw [hAbove] at ih
      exact ih h
  | case6 depth directory disk fault hFault => exact h

end

end Disk

namespace ProfileStore

/-- A value is an id as the store gives them out, or one that a file gives back as it was written: a text in which no
two halves of a surrogate pair meet. -/
def IsId (value : Json) : Prop :=
  ∃ content, value = .text content ∧ ofUnits (units content) = content

theorem IsId.normal_eq {id : Json} (h : IsId id) : id.normal = id := by
  obtain ⟨content, rfl, hContent⟩ := h
  exact (Json.Kept.text hContent).normal_eq

theorem IsId.same_iff {a b : Json} (ha : IsId a) (hb : IsId b) : a.same b = true ↔ a = b := by
  obtain ⟨first, rfl, -⟩ := ha
  obtain ⟨second, rfl, -⟩ := hb
  rw [Json.same, beq_iff_eq, Json.text.injEq]

/-- Every profile has an id, and no two have the same. -/
structure Apart (profiles : List Profile) : Prop where
  ids : ∀ profile ∈ profiles, IsId profile.id
  distinct : (profiles.map Profile.id).Nodup

theorem apart_nil : Apart [] :=
  ⟨nofun, List.nodup_nil⟩

theorem Apart.normal {profiles : List Profile} (h : Apart profiles) : Apart (profiles.map Profile.normal) := by
  have hId (profile : Profile) (hProfile : profile ∈ profiles) :
      (Profile.id ∘ Profile.normal) profile = profile.id :=
    (h.ids profile hProfile).normal_eq
  constructor
  · intro profile hProfile
    obtain ⟨old, hOld, rfl⟩ := List.mem_map.1 hProfile
    have hSame : old.normal.id = old.id := hId old hOld
    rw [hSame]
    exact h.ids old hOld
  · rw [List.map_map, List.map_congr_left hId]
    exact h.distinct

theorem Apart.sublist {profiles fewer : List Profile} (h : Apart profiles) (hFewer : fewer.Sublist profiles) :
    Apart fewer where
  ids profile hProfile := h.ids profile (hFewer.subset hProfile)
  distinct := h.distinct.sublist (hFewer.map Profile.id)

/-- The new profile takes the place of the one with its id, or has a place of its own. -/
theorem Apart.put {profiles : List Profile} (h : Apart profiles) {new : Profile} (hNew : IsId new.id) :
    Apart (put new profiles) where
  ids := by
    intro profile hProfile
    rcases mem_put hProfile with rfl | hOld
    · exact hNew
    · exact h.ids profile hOld
  distinct := by
    induction profiles with
    | nil => exact List.nodup_singleton _
    | cons old rest ih =>
        have hRest : Apart rest := h.sublist (List.sublist_cons_self old rest)
        have hDistinct := h.distinct
        rw [List.map_cons, List.nodup_cons] at hDistinct
        rw [ProfileStore.put]
        cases hSame : old.id.same new.id with
        | true =>
            have hId := ((h.ids old List.mem_cons_self).same_iff hNew).1 hSame
            rw [if_pos rfl, List.map_cons, List.nodup_cons, ← hId]
            exact hDistinct
        | false =>
            rw [if_neg Bool.false_ne_true, List.map_cons, List.nodup_cons]
            constructor
            · intro hMember
              obtain ⟨profile, hProfile, hId⟩ := List.mem_map.1 hMember
              rcases mem_put hProfile with rfl | hOld
              · rw [((h.ids old List.mem_cons_self).same_iff hNew).2 hId.symm] at hSame
                cases hSame
              · exact hDistinct.1 (hId ▸ List.mem_map_of_mem hOld)
            · exact ih hRest

/-- The bytes of a file that the store has written, with profiles that have ids of their own. -/
def Written (bytes : List UInt8) : Prop :=
  ∃ profiles, bytes = Utf8.encode (render profiles) ∧ profiles.findSome? Profile.uncopied? = none ∧
    Json.anyOverlong (profiles.map Profile.toJson) = false ∧ Apart profiles

/-- Nothing stands in the file but what the store has written, and the log does not go there. -/
structure Tended (store : ProfileStore) (world : World) : Prop where
  log : store.LogsElsewhere world
  file : world.disk.Holds store.path Written

/-- What becomes of a world when its store is used: the log grows, the file can change, and ids are given out. -/
def Filed (world after : World) : Prop :=
  ∃ log heard disk count, after = { world with log := log, heard := heard, disk := disk, profileCount := count }

theorem Filed.trans {first second third : World} (h : Filed first second) (h' : Filed second third) :
    Filed first third := by
  obtain ⟨_, _, _, _, rfl⟩ := h
  obtain ⟨_, _, _, _, rfl⟩ := h'
  exact ⟨_, _, _, _, rfl⟩

theorem Filed.messageCount_eq {world after : World} (h : Filed world after) :
    after.messageCount = world.messageCount := by
  obtain ⟨_, _, _, _, rfl⟩ := h
  rfl

theorem filed_refl (world : World) : Filed world world :=
  ⟨_, _, _, _, rfl⟩

theorem filed_say (notice : Notice) (world : World) : Filed world (world.say notice) := by
  obtain ⟨log, heard, disk, hSay⟩ := world.say_eq notice
  exact ⟨log, heard, disk, world.profileCount, hSay⟩

theorem filed_load (store : ProfileStore) (world : World) : Filed world (store.load world).2 :=
  preserved_load store (filed_refl world) fun notice => filed_say notice world

theorem filed_identify (draft : ProfileDraft) (world : World) : Filed world (identify draft world).2 :=
  ⟨_, _, _, _, identify_snd draft world⟩

theorem filed_write (store : ProfileStore) (profiles : List Profile) (world : World) :
    Filed world (store.write profiles world).2 := by
  unfold write
  split
  · exact ⟨_, _, _, _, rfl⟩
  · split
    · exact ⟨_, _, _, _, rfl⟩
    · split
      · exact ⟨_, _, _, _, rfl⟩
      · split <;> exact ⟨_, _, _, _, rfl⟩

section

variable {store : ProfileStore} {world : World}

/-- What writes nothing but the log does not touch the file. -/
theorem Tended.logged {after : World} (h : store.Tended world) (hLogged : world.Logged after) :
    store.Tended after where
  log := h.log.of_listener_eq hLogged.listener
  file := by
    have hDisk := hLogged.disk
    generalize after.disk = disk at hDisk ⊢
    induction hDisk with
    | refl => exact h.file
    | append _ hListener hFile hAppend ih => exact ih.append hAppend (h.log _ _ hListener hFile)

theorem Tended.say (h : store.Tended world) (notice : Notice) : store.Tended (world.say notice) :=
  h.logged (World.logged_say notice world)

theorem Tended.load (h : store.Tended world) : store.Tended (store.load world).2 :=
  preserved_load store h h.say

/-- What is loaded has ids of its own, whether there is a file or not. -/
theorem Tended.apart_of_load (h : store.Tended world) {profiles : List Profile}
    (hLoad : (store.load world).1 = .ok profiles) : Apart profiles := by
  obtain ⟨name, hName⟩ := exists_bytes_of_load hLoad
  cases hRead : world.disk.read store.path with
  | ok bytes =>
      obtain ⟨written, rfl, hCopied, hShort, hApart⟩ := h.file.of_read hRead
      rw [load_of_read hName hRead hCopied hShort] at hLoad
      cases hLoad
      exact hApart.normal
  | error fault =>
      have hNone : (store.load world).1 = .ok [] := by
        rw [ProfileStore.load, hName]
        dsimp only
        rw [hRead]
        cases fault <;> rfl
      rw [hNone] at hLoad
      cases hLoad
      exact apart_nil

theorem Tended.identify (h : store.Tended world) (draft : ProfileDraft) :
    store.Tended (identify draft world).2 := by
  rw [identify_snd]
  exact ⟨h.log, h.file⟩

theorem Tended.write (h : store.Tended world) {profiles : List Profile} (hApart : Apart profiles) :
    store.Tended (store.write profiles world).2 where
  log := by
    obtain ⟨_, _, _, _, hFiled⟩ := filed_write store profiles world
    apply h.log.of_listener_eq
    rw [hFiled]
  file := by
    have hMade := h.file.makeDirectories store.path.parent
    unfold ProfileStore.write
    generalize world.disk.makeDirectories store.path.parent = making at hMade ⊢
    obtain ⟨answer, disk⟩ := making
    cases answer with
    | error fault => exact hMade
    | ok made =>
        dsimp only at hMade ⊢
        split
        · exact hMade
        · rename_i hCopied
          split
          · exact hMade
          · rename_i hShort
            split
            · exact hMade
            · rename_i after hWrite
              apply hMade.write hWrite
              intro _ _ _ _
              exact ⟨profiles, rfl, hCopied, Bool.eq_false_iff.2 hShort, hApart⟩

theorem isId_newId (world : World) : IsId (newId world).1 := by
  refine ⟨_, rfl, ofUnits_units ?_⟩
  intro c hc
  exact isLone_of_isPlain (List.all_eq_true.1 (Json.all_isPlain_hexDigits 12 _) c hc)

/-- The id of a draft is one that a file gives back as it was written, if it has one. -/
def Drafted (draft : ProfileDraft) : Prop :=
  draft.id.isTruthy = true → IsId draft.id

theorem Drafted.identify {draft : ProfileDraft} (h : Drafted draft) (world : World) :
    IsId (identify draft world).1 := by
  unfold ProfileStore.identify
  split
  · rename_i hId
    exact h hId
  · exact isId_newId world

/-- A save gives every profile an id of its own, whether it succeeds or not. -/
theorem Tended.save (h : store.Tended world) {draft : ProfileDraft} (hDraft : Drafted draft) :
    store.Tended (store.save draft world).2 ∧ Filed world (store.save draft world).2 ∧
      ∀ saved, (store.save draft world).1 = .ok saved → IsId saved.id := by
  have hLoaded := h.load
  have hFiled := filed_load store world
  rw [save_def]
  split
  · exact ⟨h, filed_refl world, nofun⟩
  · split
    · rename_i fault loaded hLoad
      rw [hLoad] at hLoaded hFiled
      exact ⟨hLoaded, hFiled, nofun⟩
    · rename_i profiles loaded hLoad
      have hApart := h.apart_of_load (congrArg Prod.fst hLoad)
      rw [hLoad] at hLoaded hFiled
      have hNamed := hLoaded.identify draft
      replace hFiled := hFiled.trans (filed_identify draft loaded)
      split
      · exact ⟨hNamed, hFiled, nofun⟩
      · rename_i port hPort
        have hNew : IsId (drafted draft (ProfileStore.identify draft loaded).1 port).id := hDraft.identify loaded
        have hWritten := hNamed.write (hApart.put hNew)
        have hFile := filed_write store
          (put (drafted draft (ProfileStore.identify draft loaded).1 port) profiles)
          (ProfileStore.identify draft loaded).2
        dsimp only
        split
        · rename_i fault after hWrite
          rw [hWrite] at hWritten hFile
          exact ⟨hWritten, hFiled.trans hFile, nofun⟩
        · rename_i after hWrite
          rw [hWrite] at hWritten hFile
          refine ⟨hWritten.say _, (hFiled.trans hFile).trans (filed_say _ _), ?_⟩
          intro saved hSaved
          cases hSaved
          exact hNew

theorem Tended.delete (h : store.Tended world) (id : Json) :
    store.Tended (store.delete id world).2 ∧ Filed world (store.delete id world).2 := by
  have hLoaded := h.load
  have hFiled := filed_load store world
  unfold ProfileStore.delete
  split
  · rename_i fault loaded hLoad
    rw [hLoad] at hLoaded hFiled
    exact ⟨hLoaded, hFiled⟩
  · rename_i profiles loaded hLoad
    have hApart := h.apart_of_load (congrArg Prod.fst hLoad)
    rw [hLoad] at hLoaded hFiled
    dsimp only
    split
    · exact ⟨hLoaded, hFiled⟩
    · have hWritten := hLoaded.write (hApart.sublist (List.filter_sublist (p := fun profile => !profile.id.same id)))
      have hFile := filed_write store (profiles.filter fun profile => !profile.id.same id) loaded
      split
      · rename_i fault after hWrite
        rw [hWrite] at hWritten hFile
        exact ⟨hWritten, hFiled.trans hFile⟩
      · rename_i after hWrite
        rw [hWrite] at hWritten hFile
        exact ⟨hWritten.say _, (hFiled.trans hFile).trans (filed_say _ _)⟩

/-- A save brings an id that can be written, or none; the other operations can be asked for any value. -/
def Operation.Drafted : Operation → Prop
  | .save draft => ProfileStore.Drafted draft
  | .load | .get _ | .delete _ => True

theorem Tended.perform (h : store.Tended world) {operation : Operation} (hOperation : operation.Drafted) :
    store.Tended (store.perform operation world).2 ∧ Filed world (store.perform operation world).2 := by
  cases operation with
  | load | get id => exact ⟨h.load, filed_load store world⟩
  | delete id => exact h.delete id
  | save draft => exact ⟨(h.save hOperation).1, (h.save hOperation).2.1⟩

end

end ProfileStore

end PhantomHost
