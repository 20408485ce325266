import PhantomHost.Proofs.Profile.File
/-!
Where the file of a store can be written, it can be written for good: no operation of the store fails because
of the disk, and after each of them the file can be written again.
-/
namespace PhantomHost

open PhantomHost.Text

namespace ProfileStore

/-- An answer that is no fault of the disk. -/
def Undisturbed {α : Type} (answer : Except Fault α) : Prop :=
  ∀ reason, answer ≠ .error (.disk reason)

theorem undisturbed_ok {α : Type} (value : α) : Undisturbed (.ok value) :=
  nofun

/-- A fault that is passed on stays what it is. -/
theorem Undisturbed.pass {α β : Type} {fault : Fault} (h : Undisturbed (.error fault : Except Fault α)) :
    Undisturbed (.error fault : Except Fault β) := by
  intro reason hReason
  exact h reason (congrArg Except.error (Except.error.inj hReason))

/-- The file of a store can be written: its directory exists, and no directory stands at its place. -/
structure Ready (store : ProfileStore) (disk : Disk) : Prop where
  directory : disk.find? store.path.parent = some .directory
  place : ∃ place, disk.locate store.path = .ok place ∧ disk.stands? place ≠ some .directory

theorem Ready.of_stands?_iff {store : ProfileStore} {a b : Disk} (h : store.Ready a)
    (hSame : ∀ place, a.stands? place = some .directory ↔ b.stands? place = some .directory) :
    store.Ready b := by
  obtain ⟨above, hAbove, hDirectory⟩ := Disk.find?_eq_some_iff.1 h.directory
  obtain ⟨place, hPlace, hEntry⟩ := h.place
  have hMono := fun other => (hSame other).1
  refine ⟨Disk.find?_eq_some_iff.2 ⟨above, Disk.locate_mono hMono hAbove, (hSame above).1 hDirectory⟩,
    place, Disk.locate_mono hMono hPlace, ?_⟩
  rw [ne_eq, ← hSame place]
  exact hEntry

theorem Ready.write_disk {store : ProfileStore} {disk after : Disk} {path : FilePath} {bytes : List UInt8}
    (h : store.Ready disk) (hWrite : disk.write path bytes = .ok after) : store.Ready after := by
  obtain ⟨place, -, hEntry, rfl⟩ := Disk.write_eq_ok_iff.1 hWrite
  exact h.of_stands?_iff fun other => (Disk.stands?_put_file_eq_directory_iff hEntry other).symm

/-- Nothing that is logged keeps the file from being written. -/
theorem Ready.say {store : ProfileStore} {world : World} (h : store.Ready world.disk) (notice : Notice) :
    store.Ready (world.say notice).disk := by
  rcases world.disk_say notice with hSame | ⟨listener, file, line, -, -, hAppend⟩
  · rw [hSame]
    exact h
  · unfold Disk.append at hAppend
    split at hAppend
    · exact h.write_disk hAppend
    · exact h.write_disk hAppend

theorem Ready.load {store : ProfileStore} {world : World} (h : store.Ready world.disk) :
    store.Ready (store.load world).2.disk :=
  preserved_load (P := fun other => store.Ready other.disk) store h h.say

/-- Where the file can be written, no write fails because of the disk, and it can be written again. -/
theorem Ready.write {store : ProfileStore} {world : World} (h : store.Ready world.disk)
    (profiles : List Profile) :
    Undisturbed (store.write profiles world).1 ∧ store.Ready (store.write profiles world).2.disk := by
  obtain ⟨place, hPlace, hEntry⟩ := h.place
  have hWrite (bytes : List UInt8) :
      world.disk.write store.path bytes = .ok (world.disk.put place (.file bytes)) :=
    Disk.write_eq_ok_iff.2 ⟨place, hPlace, hEntry, rfl⟩
  simp only [ProfileStore.write, Disk.makeDirectories_of_find? h.directory, hWrite]
  split
  · exact ⟨nofun, h⟩
  · split
    · exact ⟨nofun, h⟩
    · exact ⟨undisturbed_ok (), h.write_disk (hWrite _)⟩

theorem undisturbed_understand (text : Text) (world : World) : Undisturbed (understand text world).1 := by
  unfold understand
  split
  · exact undisturbed_ok _
  · split
    · exact undisturbed_ok _
    · exact nofun
    · exact nofun
    · exact undisturbed_ok _

/-- Loading hides the faults of the disk. -/
theorem undisturbed_load (store : ProfileStore) (world : World) : Undisturbed (store.load world).1 := by
  unfold ProfileStore.load
  split
  · exact nofun
  · split
    · exact undisturbed_ok _
    · exact undisturbed_ok _
    · split
      · exact nofun
      · exact undisturbed_understand _ world

theorem Ready.save {store : ProfileStore} {world : World} (h : store.Ready world.disk) (draft : ProfileDraft) :
    Undisturbed (store.save draft world).1 ∧ store.Ready (store.save draft world).2.disk := by
  have hLoaded := h.load
  have hFault := undisturbed_load store world
  rw [save_def]
  split
  · exact ⟨nofun, h⟩
  · split
    · rename_i fault loaded hLoad
      rw [hLoad] at hLoaded hFault
      exact ⟨hFault.pass, hLoaded⟩
    · rename_i profiles loaded hLoad
      rw [hLoad] at hLoaded
      have hIdentified : store.Ready (identify draft loaded).2.disk := by
        rw [identify_snd]
        exact hLoaded
      split
      · exact ⟨nofun, hIdentified⟩
      · rename_i port hPort
        obtain ⟨hNone, hReady⟩ := hIdentified.write (put (drafted draft (identify draft loaded).1 port) profiles)
        simp only
        split
        · rename_i fault written hWrite
          rw [hWrite] at hNone hReady
          exact ⟨hNone.pass, hReady⟩
        · rename_i written hWrite
          rw [hWrite] at hReady
          exact ⟨undisturbed_ok _, hReady.say _⟩

theorem Ready.delete {store : ProfileStore} {world : World} (h : store.Ready world.disk) (id : Json) :
    Undisturbed (store.delete id world).1 ∧ store.Ready (store.delete id world).2.disk := by
  have hLoaded := h.load
  have hFault := undisturbed_load store world
  unfold ProfileStore.delete
  split
  · rename_i fault loaded hLoad
    rw [hLoad] at hLoaded hFault
    exact ⟨hFault.pass, hLoaded⟩
  · rename_i profiles loaded hLoad
    rw [hLoad] at hLoaded
    simp only
    split
    · exact ⟨undisturbed_ok _, hLoaded⟩
    · obtain ⟨hNone, hReady⟩ := hLoaded.write (profiles.filter fun profile => !profile.id.same id)
      split
      · rename_i fault written hWrite
        rw [hWrite] at hNone hReady
        exact ⟨hNone.pass, hReady⟩
      · rename_i written hWrite
        rw [hWrite] at hReady
        exact ⟨undisturbed_ok _, hReady.say _⟩

end ProfileStore

end PhantomHost
