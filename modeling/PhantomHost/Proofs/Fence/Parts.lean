import PhantomHost.Proofs.Fence.Scan
/-!
The parts of a message as they are shown, against its commands.

Both come from the same cut: the parts are all its prose and commands in order, with empty prose left out,
and the commands are what is left when all prose is. So the number of commands in front of a part is the
index of the part among the commands.
-/
namespace PhantomHost

/-- Whether a part is shown: empty prose is not. -/
def MessagePart.isShown (part : MessagePart) : Bool :=
  part.isCommand || !part.text.isEmpty

/-- All prose and commands of a cut in order, empty prose included. -/
def Fence.Cut.parts (cut : Fence.Cut) : List MessagePart :=
  ⟨cut.before, false⟩ :: cut.blocks.flatMap fun (block, prose) =>
    [⟨block.command, true⟩, ⟨prose, false⟩]

theorem proseParts_eq (prose : Text) :
    proseParts prose = [⟨prose, false⟩].filter MessagePart.isShown := by
  cases prose <;> rfl

/-- Nothing but empty prose is left out. -/
theorem splitMessage_eq_filter (message : Text) :
    splitMessage message = (Fence.scan message).parts.filter MessagePart.isShown := by
  simp only [splitMessage, Fence.Cut.parts]
  rw [← List.singleton_append, List.filter_append, List.filter_flatMap, proseParts_eq]
  congr 2
  funext ⟨block, prose⟩
  rw [proseParts_eq]
  rfl

theorem map_text_filter_parts (cut : Fence.Cut) :
    (cut.parts.filter MessagePart.isCommand).map MessagePart.text =
      cut.blocks.map fun (block, _) => block.command := by
  rw [Fence.Cut.parts, List.filter_cons_of_neg (by simp), List.filter_flatMap, List.map_flatMap,
    List.map_eq_flatMap]
  rfl

theorem map_text_filter_splitMessage (message : Text) :
    ((splitMessage message).filter MessagePart.isCommand).map MessagePart.text =
      extractCommands message := by
  have hBoth : ∀ part : MessagePart, (part.isCommand && part.isShown) = part.isCommand := by
    intro part
    cases hCommand : part.isCommand <;> simp [MessagePart.isShown, hCommand]
  rw [splitMessage_eq_filter, List.filter_filter]
  simp only [hBoth]
  rw [map_text_filter_parts, extractCommands]

/-- Parts with the number of commands in front of each; `start` stand in front of all. -/
def counted : Nat → List MessagePart → List (Nat × MessagePart)
  | _, [] => []
  | start, part :: rest => (start, part) :: counted (if part.isCommand then start + 1 else start) rest

theorem exists_of_mem_counted {start index : Nat} {part : MessagePart} {parts : List MessagePart}
    (h : (index, part) ∈ counted start parts) :
    ∃ before after, parts = before ++ part :: after ∧
      index = start + before.countP MessagePart.isCommand := by
  induction parts generalizing start with
  | nil => simp [counted] at h
  | cons first rest ih =>
      rcases List.mem_cons.1 h with hFirst | hRest
      · obtain ⟨rfl, rfl⟩ := Prod.mk.inj hFirst
        exact ⟨[], rest, rfl, rfl⟩
      · obtain ⟨before, after, rfl, hIndex⟩ := ih hRest
        refine ⟨first :: before, after, rfl, ?_⟩
        rw [hIndex, List.countP_cons]
        split <;> omega

/-- The number of a part that is a command is its index among the commands. -/
theorem getElem?_of_mem_counted {message : Text} {index : Nat} {part : MessagePart}
    (h : (index, part) ∈ counted 0 (splitMessage message)) (hCommand : part.isCommand = true) :
    (extractCommands message)[index]? = some part.text := by
  obtain ⟨before, after, hParts, rfl⟩ := exists_of_mem_counted h
  rw [← map_text_filter_splitMessage, hParts, List.filter_append, List.filter_cons_of_pos hCommand,
    List.map_append, List.map_cons, Nat.zero_add, List.countP_eq_length_filter,
    ← List.length_map MessagePart.text, List.getElem?_append_right (Nat.le_refl _), Nat.sub_self,
    List.getElem?_cons_zero]

end PhantomHost
