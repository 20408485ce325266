import PhantomHost.Settings.FilePath
/-!
The directory of a path: where the system can be given a path, it can be given the path of its directory.
-/
namespace PhantomHost

open PhantomHost.Text

namespace Text

theorem joinWith_prefix_concat (sep : Text) (pieces : List Text) (last : Text) :
    joinWith sep pieces <+: joinWith sep (pieces ++ [last]) := by
  induction pieces with
  | nil => exact List.nil_prefix
  | cons piece others ih =>
      cases others with
      | nil => exact ⟨sep ++ last, by simp [joinWith]⟩
      | cons next others =>
          simp only [List.cons_append, joinWith] at ih ⊢
          exact (List.prefix_append_right_inj _).2 ih

/-- What a name starts with takes no more bytes than the name. -/
theorem SystemName.exists_bytes?_of_prefix {start name : Text} {bytes : List UInt8} (h : start <+: name)
    (hName : bytes? name = .ok bytes) :
    ∃ first, bytes? start = .ok first ∧ first.length ≤ bytes.length := by
  obtain ⟨rest, rfl⟩ := h
  unfold bytes? at hName ⊢
  rw [List.mapM_append] at hName
  cases hStart : start.mapM symbolBytes? with
  | none => simp [hStart] at hName
  | some pieces =>
      cases hRest : rest.mapM symbolBytes? with
      | none => simp [hStart, hRest] at hName
      | some more =>
          simp only [hStart, hRest, Option.bind_eq_bind, Option.bind_some, Option.pure_def] at hName ⊢
          split at hName
          · cases hName
          · rename_i hNull
            cases hName
            have hFirst : ¬start.contains '\x00' = true := by
              intro hMember
              apply hNull
              simp only [List.contains_iff_mem, List.mem_append] at hMember ⊢
              exact Or.inl hMember
            rw [if_neg hFirst]
            exact ⟨_, rfl, by simp⟩

end Text

namespace FilePath

/-- The path of a directory takes no more bytes than a path into it, but for the dot of the working
directory. -/
theorem exists_bytes?_parent {path : FilePath} {bytes : List UInt8} (h : path.bytes? = .ok bytes) :
    ∃ above, path.parent.bytes? = .ok above ∧ above.length ≤ max 1 bytes.length := by
  by_cases hHere : path.parent.root = "" ∧ path.parent.parts = []
  · have hText : path.parent.toText = "." := by simp [toText, hHere.1, hHere.2]
    exact ⟨[46], by rw [bytes?, hText]; rfl, Nat.le_max_left 1 _⟩
  · have hText : path.parent.toText = path.root ++ joinWith "/" path.parts.dropLast := by
      simp only [toText]
      rw [if_neg (by simpa using hHere)]
      rfl
    have hPrefix : path.parent.toText <+: path.toText := by
      rw [hText]
      cases hLast : path.parts.getLast? with
      | none =>
          have hNone := List.getLast?_eq_none_iff.1 hLast
          have hRoot : ¬path.root = "" := fun hRoot => hHere ⟨hRoot, by simp [parent, hNone]⟩
          simp [toText, hNone, hRoot]
      | some last =>
          obtain ⟨parts, hParts⟩ := List.getLast?_eq_some_iff.1 hLast
          rw [toText, if_neg (by simp [hParts]), hParts, List.dropLast_concat]
          exact (List.prefix_append_right_inj _).2 (joinWith_prefix_concat "/" parts last)
    obtain ⟨above, hAbove, hLength⟩ := SystemName.exists_bytes?_of_prefix hPrefix h
    exact ⟨above, hAbove, Nat.le_trans hLength (Nat.le_max_right 1 _)⟩

end FilePath

end PhantomHost
