import PhantomHost.Disk
import PhantomHost.Proofs.FilePath
/-!
What the operations on files change: a file that is written holds what was written, every other file stays
as it is, and making directories touches no file.
-/
namespace PhantomHost.Disk

open PhantomHost.Text

theorem lookup_filter_of_ne {place other : FilePath} (h : other ≠ place) (entries : List (FilePath × Entry)) :
    (entries.filter fun known => known.1 ≠ place).lookup other = entries.lookup other := by
  induction entries with
  | nil => rfl
  | cons known rest ih =>
      by_cases hKnown : known.1 = place
      · have hOther : (other == known.1) = false := by
          rw [beq_eq_false_iff_ne, hKnown]
          exact h
        rw [List.filter_cons_of_neg (by simp [hKnown]), ih, List.lookup_cons, hOther]
      · rw [List.filter_cons_of_pos (by simp [hKnown]), List.lookup_cons, List.lookup_cons, ih]

theorem stands?_put_of_ne {place other : FilePath} (h : other ≠ place) (entry : Entry) (disk : Disk) :
    (disk.put place entry).stands? other = disk.stands? other := by
  have hOther : (other == place) = false := beq_eq_false_iff_ne.2 h
  unfold stands? put
  split
  · rfl
  · rw [List.lookup_cons, hOther]
    exact lookup_filter_of_ne h disk.entries

theorem stands?_put_self {place : FilePath} (h : place.parts ≠ []) (entry : Entry) (disk : Disk) :
    (disk.put place entry).stands? place = some entry := by
  rw [stands?, if_neg h, put, List.lookup_cons, beq_self_eq_true]

theorem parts_ne_nil_of_stands? {disk : Disk} {place : FilePath} (h : disk.stands? place ≠ some .directory) :
    place.parts ≠ [] := by
  intro hRoot
  rw [stands?, if_pos hRoot] at h
  exact h rfl

theorem step_eq_ok_iff {disk : Disk} {place next : FilePath} {part : Text} :
    disk.step place part = .ok next ↔ disk.stands? place = some .directory ∧
      (if part = ".." then .ok place.parent else below place part) = Except.ok next := by
  unfold step
  split
  · rename_i hEntry
    simp [hEntry]
  · rename_i bytes hEntry
    simp [hEntry]
  · rename_i hEntry
    simp [hEntry]

/-- A path leads to the same place if all directories on its way are still there. -/
theorem locate_mono {a b : Disk} (h : ∀ place, a.stands? place = some .directory → b.stands? place = some .directory)
    {path place : FilePath} (hPath : a.locate path = .ok place) : b.locate path = .ok place := by
  have hFold (parts : List Text) (start : FilePath) (hParts : parts.foldlM a.step start = .ok place) :
      parts.foldlM b.step start = .ok place := by
    induction parts generalizing start with
    | nil => exact hParts
    | cons part rest ih =>
        rw [List.foldlM_cons] at hParts ⊢
        cases hFirst : a.step start part with
        | error fault =>
            rw [hFirst] at hParts
            cases hParts
        | ok next =>
            have hSecond : b.step start part = .ok next := by
              rw [step_eq_ok_iff] at hFirst ⊢
              exact ⟨h start hFirst.1, hFirst.2⟩
            rw [hFirst] at hParts
            rw [hSecond]
            exact ih next hParts
  unfold locate at hPath ⊢
  split at hPath
  · cases hPath
  · split at hPath
    · cases hPath
    · rename_i hLong
      rw [if_neg hLong]
      exact hFold path.parts (origin path) hPath

/-- A path leads where its last part leads from the place of the parts before it. -/
theorem exists_step_of_locate {disk : Disk} {path place : FilePath} {parts : List Text} {last : Text}
    (hParts : path.parts = parts ++ [last]) (h : disk.locate path = .ok place) :
    ∃ above, parts.foldlM disk.step (origin path) = .ok above ∧ disk.step above last = .ok place := by
  unfold locate at h
  split at h
  · cases h
  · split at h
    · cases h
    · rw [hParts, List.foldlM_append] at h
      cases hAbove : parts.foldlM disk.step (origin path) with
      | error fault =>
          rw [hAbove] at h
          cases h
      | ok above =>
          rw [hAbove] at h
          replace h : disk.step above last >>= pure = .ok place := h
          rw [bind_pure] at h
          exact ⟨above, rfl, h⟩

/-- A path that ends in a name leads below a directory, to the name that the system gives back. -/
theorem locate_eq_inside {disk : Disk} {path place : FilePath} {name : Text}
    (hName : path.parts.getLast? = some name) (hUp : name ≠ "..") (h : disk.locate path = .ok place) :
    ∃ above : FilePath, ∃ shown, SystemName.settled? name = .ok shown ∧ place = above.inside shown := by
  obtain ⟨parts, hParts⟩ := List.getLast?_eq_some_iff.1 hName
  obtain ⟨above, -, hStep⟩ := exists_step_of_locate hParts h
  rw [step_eq_ok_iff, if_neg hUp, below] at hStep
  obtain ⟨-, hBelow⟩ := hStep
  split at hBelow
  · cases hBelow
  · rename_i bytes hBytes
    split at hBelow
    · cases hBelow
    · refine ⟨above, SystemName.ofBytes bytes, ?_, (Except.ok.inj hBelow).symm⟩
      rw [SystemName.settled?, hBytes]
      rfl

/-- Paths that end in different names never lead to the same place. -/
theorem locate_ne_of_settled?_ne {disk : Disk} {path other place : FilePath} {name last : Text}
    (hName : path.parts.getLast? = some name) (hUp : name ≠ "..")
    (hLast : other.parts.getLast? = some last) (hDown : last ≠ "..")
    (hNames : SystemName.settled? name ≠ SystemName.settled? last) (h : disk.locate path = .ok place) :
    disk.locate other ≠ .ok place := by
  intro hOther
  obtain ⟨above, shown, hShown, rfl⟩ := locate_eq_inside hName hUp h
  obtain ⟨below, found, hFound, hPlace⟩ := locate_eq_inside hLast hDown hOther
  have hSame : shown = found := by
    have hParts := congrArg FilePath.parts hPlace
    exact List.singleton_inj.1 (List.append_inj' hParts rfl).2
  rw [hShown, hFound, hSame] at hNames
  exact hNames rfl

/-- Reading gives the bytes of the file that a path leads to. -/
theorem read_eq_ok_iff {disk : Disk} {path : FilePath} {bytes : List UInt8} :
    disk.read path = .ok bytes ↔
      ∃ place, disk.locate path = .ok place ∧ disk.stands? place = some (.file bytes) := by
  simp only [read, look]
  cases disk.locate path with
  | error fault => exact ⟨nofun, nofun⟩
  | ok place =>
      simp only [Except.map, bind, Except.bind, Except.ok.injEq, exists_eq_left']
      split
      · rename_i found hEntry
        rw [hEntry, Except.ok.injEq, Option.some.injEq, Entry.file.injEq]
      · rename_i hEntry
        rw [hEntry]
        exact ⟨nofun, nofun⟩
      · rename_i hEntry
        rw [hEntry]
        exact ⟨nofun, nofun⟩

theorem exists_bytes?_of_read {disk : Disk} {path : FilePath} {bytes : List UInt8}
    (h : disk.read path = .ok bytes) : ∃ name, path.bytes? = .ok name := by
  obtain ⟨place, hPlace, -⟩ := read_eq_ok_iff.1 h
  cases hName : path.bytes? with
  | ok name => exact ⟨name, rfl⟩
  | error fault => simp [locate, hName] at hPlace

/-- Writing puts a file where a path leads, if no directory is there. -/
theorem write_eq_ok_iff {disk after : Disk} {path : FilePath} {bytes : List UInt8} :
    disk.write path bytes = .ok after ↔
      ∃ place, disk.locate path = .ok place ∧ disk.stands? place ≠ some .directory ∧
        disk.put place (.file bytes) = after := by
  simp only [write]
  cases disk.locate path with
  | error fault => exact ⟨nofun, nofun⟩
  | ok place =>
      simp only [bind, Except.bind, Except.ok.injEq, exists_eq_left']
      split
      · rename_i hEntry
        exact ⟨nofun, fun h => absurd hEntry h.1⟩
      · rename_i hEntry
        rw [Except.ok.injEq]
        exact ⟨fun h => ⟨hEntry, h⟩, fun h => h.2⟩

/-- Making a directory puts it where a path leads, if nothing is there. -/
theorem makeDirectory_eq_ok_iff {disk after : Disk} {path : FilePath} :
    disk.makeDirectory path = .ok after ↔
      ∃ place, disk.locate path = .ok place ∧ disk.stands? place = none ∧ disk.put place .directory = after := by
  simp only [makeDirectory]
  cases disk.locate path with
  | error fault => exact ⟨nofun, nofun⟩
  | ok place =>
      simp only [bind, Except.bind, Except.ok.injEq, exists_eq_left']
      split
      · rename_i entry hEntry
        rw [hEntry]
        exact ⟨nofun, fun h => nomatch h.1⟩
      · rename_i hEntry
        rw [Except.ok.injEq, hEntry]
        exact ⟨fun h => ⟨rfl, h⟩, fun h => h.2⟩

theorem stands?_put_file_eq_directory_iff {disk : Disk} {place : FilePath} {bytes : List UInt8}
    (h : disk.stands? place ≠ some .directory) (other : FilePath) :
    (disk.put place (.file bytes)).stands? other = some .directory ↔ disk.stands? other = some .directory := by
  by_cases hSame : other = place
  · rw [hSame, stands?_put_self (parts_ne_nil_of_stands? h)]
    exact ⟨nofun, fun hDirectory => absurd hDirectory h⟩
  · rw [stands?_put_of_ne hSame]

/-- A file that is written holds what was written. -/
theorem read_write {disk after : Disk} {path : FilePath} {bytes : List UInt8}
    (h : disk.write path bytes = .ok after) : after.read path = .ok bytes := by
  obtain ⟨place, hPlace, hEntry, rfl⟩ := write_eq_ok_iff.1 h
  rw [read_eq_ok_iff]
  refine ⟨place, ?_, stands?_put_self (parts_ne_nil_of_stands? hEntry) _ _⟩
  exact locate_mono (fun other => (stands?_put_file_eq_directory_iff hEntry other).2) hPlace

/-- A file stays as it is when something is written to another place. -/
theorem read_write_of_ne {disk after : Disk} {path other : FilePath} {bytes : List UInt8}
    (h : disk.write other bytes = .ok after)
    (hOther : ∀ place, disk.locate other = .ok place → disk.locate path ≠ .ok place) (found : List UInt8) :
    after.read path = .ok found ↔ disk.read path = .ok found := by
  obtain ⟨place, hPlace, hEntry, rfl⟩ := write_eq_ok_iff.1 h
  have hDirectory := @stands?_put_file_eq_directory_iff disk place bytes hEntry
  have hKept (target : FilePath) (hTarget : disk.locate path = .ok target) :
      (disk.put place (.file bytes)).stands? target = disk.stands? target := by
    apply stands?_put_of_ne
    rintro rfl
    exact hOther _ hPlace hTarget
  rw [read_eq_ok_iff, read_eq_ok_iff]
  constructor
  · rintro ⟨target, hTarget, hFound⟩
    have hBefore := locate_mono (fun place => (hDirectory place).1) hTarget
    rw [hKept target hBefore] at hFound
    exact ⟨target, hBefore, hFound⟩
  · rintro ⟨target, hTarget, hFound⟩
    rw [← hKept target hTarget] at hFound
    exact ⟨target, locate_mono (fun place => (hDirectory place).2) hTarget, hFound⟩

/-- A file stays as it is when something is added to the end of another one. -/
theorem read_append_of_ne {disk after : Disk} {path other : FilePath} {bytes : List UInt8}
    (h : disk.append other bytes = .ok after)
    (hOther : ∀ place, disk.locate other = .ok place → disk.locate path ≠ .ok place) (found : List UInt8) :
    after.read path = .ok found ↔ disk.read path = .ok found := by
  unfold append at h
  split at h
  · exact read_write_of_ne h hOther found
  · exact read_write_of_ne h hOther found

theorem read_makeDirectory {disk after : Disk} {path other : FilePath} {bytes : List UInt8}
    (h : disk.makeDirectory other = .ok after) (hRead : disk.read path = .ok bytes) :
    after.read path = .ok bytes := by
  obtain ⟨target, -, hTarget, rfl⟩ := makeDirectory_eq_ok_iff.1 h
  have hParts : target.parts ≠ [] := parts_ne_nil_of_stands? (by rw [hTarget]; exact nofun)
  have hDirectory (place : FilePath) (hPlace : disk.stands? place = some .directory) :
      (disk.put target .directory).stands? place = some .directory := by
    by_cases hSame : place = target
    · rw [hSame, stands?_put_self hParts]
    · rw [stands?_put_of_ne hSame, hPlace]
  rw [read_eq_ok_iff] at hRead ⊢
  obtain ⟨place, hPlace, hEntry⟩ := hRead
  refine ⟨place, locate_mono hDirectory hPlace, ?_⟩
  rw [stands?_put_of_ne, hEntry]
  rintro rfl
  rw [hTarget] at hEntry
  cases hEntry

/-- Making directories touches no file, whether it succeeds or not. -/
theorem read_makeDirectories {disk : Disk} {path : FilePath} {bytes : List UInt8}
    (hRead : disk.read path = .ok bytes) (other : FilePath) :
    (disk.makeDirectories other).2.read path = .ok bytes := by
  unfold makeDirectories
  generalize other.parts.length = depth
  fun_induction makeWithin depth other disk with
  | case1 depth other disk after hMade => exact read_makeDirectory hMade hRead
  | case2 other disk hMissing => exact hRead
  | case3 other disk hMissing depth fault after hAbove ih =>
      rw [hAbove] at ih
      exact ih hRead
  | case4 other disk hMissing depth above hAbove after hMade ih =>
      rw [hAbove] at ih
      exact read_makeDirectory hMade (ih hRead)
  | case5 other disk hMissing depth above hAbove fault hFault ih =>
      rw [hAbove] at ih
      exact ih hRead
  | case6 depth other disk fault hFault => exact hRead

theorem find?_eq_some_iff {disk : Disk} {path : FilePath} {entry : Entry} :
    disk.find? path = some entry ↔
      ∃ place, disk.locate path = .ok place ∧ disk.stands? place = some entry := by
  simp only [find?, look]
  cases disk.locate path with
  | error fault => exact ⟨nofun, nofun⟩
  | ok place => simp [Except.map, Except.toOption]

/-- Where a path leads to a file, its directory is there. -/
theorem find?_parent_of_stands? {disk : Disk} {path place : FilePath} {bytes : List UInt8}
    (hPlace : disk.locate path = .ok place) (hFile : disk.stands? place = some (.file bytes)) :
    disk.find? path.parent = some .directory := by
  have hParts : place.parts ≠ [] := parts_ne_nil_of_stands? (by rw [hFile]; exact nofun)
  cases hName : path.bytes? with
  | error fault => simp [locate, hName] at hPlace
  | ok name =>
      by_cases hLimit : pathLimit < name.length
      · simp [locate, hName, hLimit] at hPlace
      · cases hLast : path.parts.getLast? with
        | none =>
            rw [locate, hName, List.getLast?_eq_none_iff.1 hLast] at hPlace
            simp only [if_neg hLimit, List.foldlM_nil] at hPlace
            cases hPlace
            exact absurd rfl hParts
        | some last =>
            obtain ⟨parts, hConcat⟩ := List.getLast?_eq_some_iff.1 hLast
            obtain ⟨directory, hWay, hStep⟩ := exists_step_of_locate hConcat hPlace
            obtain ⟨above, hAbove, hLength⟩ := FilePath.exists_bytes?_parent hName
            have hShort : ¬pathLimit < above.length := by
              unfold pathLimit at hLimit ⊢
              omega
            have hDirectory : path.parent.parts = parts := by simp [FilePath.parent, hConcat]
            refine find?_eq_some_iff.2 ⟨directory, ?_, (step_eq_ok_iff.1 hStep).1⟩
            simp only [locate, hAbove, if_neg hShort, hDirectory]
            exact hWay

theorem makeDirectories_of_find? {disk : Disk} {path : FilePath} (h : disk.find? path = some .directory) :
    disk.makeDirectories path = (.ok (), disk) := by
  obtain ⟨place, hPlace, hEntry⟩ := find?_eq_some_iff.1 h
  have hMade : disk.makeDirectory path = .error .alreadyThere := by
    simp only [makeDirectory, hPlace, bind, Except.bind, hEntry]
  unfold makeDirectories makeWithin
  rw [hMade]
  simp only [keepDirectory, if_pos h]

end PhantomHost.Disk
