import Std.Data.String.ToNat
import PhantomHost.Proofs.World.Frame
/-!
The messages of a chat: their numbers go up, so the name of a message finds that message, and what the
last message suggests is what its text says.
-/
namespace PhantomHost

@[simp] theorem Message.name_inj {a b : Message} : a.name = b.name ↔ a.id = b.id := by
  constructor
  · intro h
    have hDigits := Text.ofString_inj.1 ((List.append_cancel_left_eq _ _ _).mp h)
    exact Nat.repr_inj.1 hDigits
  · intro h
    rw [name, name, h]

namespace Chat

/-- The numbers of the messages go up, and the world has given out all of them. -/
structure Numbered (chat : Chat) (world : World) : Prop where
  ascending : chat.messages.Pairwise fun a b => a.id < b.id
  given : ∀ message ∈ chat.messages, message.id ≤ world.messageCount

theorem numbered_start (greeting : Text) (world : World) :
    Numbered (Chat.start greeting world).1 (Chat.start greeting world).2 where
  ascending := List.pairwise_singleton ..
  given := by simp [Chat.start, World.writeMessage, World.newMessage]

/-- What waits does not matter for the numbers, nor does anything of the world but its count. -/
theorem Numbered.congr {chat changed : Chat} {world later : World} (h : chat.Numbered world)
    (hMessages : changed.messages = chat.messages)
    (hCount : later.messageCount = world.messageCount) : changed.Numbered later := by
  refine ⟨?_, ?_⟩
  · rw [hMessages]
    exact h.ascending
  · rw [hMessages, hCount]
    exact h.given

theorem Numbered.mono {chat : Chat} {world later : World} (h : chat.Numbered world)
    (hCount : world.messageCount ≤ later.messageCount) : chat.Numbered later :=
  ⟨h.ascending, fun message hMem => Nat.le_trans (h.given message hMem) hCount⟩

/-- A message with the next number can be added. -/
theorem Numbered.write {chat : Chat} {world later : World} (h : chat.Numbered world) {message : Message}
    (hId : message.id = world.messageCount + 1) (hCount : later.messageCount = world.messageCount + 1) :
    Numbered { chat with messages := chat.messages ++ [message] } later where
  ascending := by
    rw [List.pairwise_append]
    refine ⟨h.ascending, List.pairwise_singleton .., ?_⟩
    intro old hOld new hNew
    rw [List.mem_singleton] at hNew
    have hGiven := h.given old hOld
    rw [hNew, hId]
    omega
  given := by
    intro old hOld
    rcases List.mem_append.1 hOld with hOld | hNew
    · have hGiven := h.given old hOld
      omega
    · rw [List.mem_singleton] at hNew
      subst hNew
      omega

theorem Numbered.message?_of_mem {chat : Chat} {world : World} {message : Message}
    (h : chat.Numbered world) (hMem : message ∈ chat.messages) :
    chat.message? message.name = some message := by
  obtain ⟨earlier, later, hMessages⟩ := List.append_of_mem hMem
  have hAscending := h.ascending
  rw [hMessages, List.pairwise_append] at hAscending
  rw [message?, hMessages, List.find?_append, Option.or_eq_right_of_none]
  · simp
  · rw [List.find?_eq_none]
    intro old hOld hName
    have hLess := hAscending.2.2 old hOld message List.mem_cons_self
    rw [beq_iff_eq, Message.name_inj] at hName
    omega

/-- What a message suggests, if the assistant has written it, is what its text says. -/
theorem Numbered.commandsOf_of_mem {chat : Chat} {world : World} {message : Message}
    (h : chat.Numbered world) (hMem : message ∈ chat.messages) (hRole : message.role = .model) :
    chat.commandsOf message.name = extractCommands message.text := by
  rw [commandsOf, h.message?_of_mem hMem]
  simp [hRole]

/-- What the last message suggests, if the assistant has written it, is what its text says. -/
theorem Numbered.commandsOf_last {chat : Chat} {world : World} {message : Message}
    (h : chat.Numbered world) (hLast : chat.messages.getLast? = some message)
    (hRole : message.role = .model) :
    chat.commandsOf message.name = extractCommands message.text :=
  h.commandsOf_of_mem (List.mem_of_getLast? hLast) hRole

@[simp] theorem messages_confirm (name : Text) (index : Int) (chat : Chat) :
    (chat.confirm name index).2.messages = chat.messages := by
  unfold confirm
  simp only
  split
  · split <;> rfl
  · rfl

/-- A confirmation gives back a command of the message, the one at the index. -/
theorem getElem?_of_confirm {name command : Text} {index : Int} {chat : Chat}
    (h : (chat.confirm name index).1 = some command) :
    0 ≤ index ∧ (chat.commandsOf name)[index.toNat]? = some command := by
  unfold confirm at h
  simp only at h
  split at h
  · rename_i hIndex
    split at h
    · rename_i found hFound
      rw [hFound, ← h]
      exact ⟨hIndex, rfl⟩
    · cases h
  · cases h

/-- A command of a message is what its confirmation gives back. -/
theorem confirm_of_getElem? {name command : Text} {index : Nat} {chat : Chat}
    (h : (chat.commandsOf name)[index]? = some command) :
    (chat.confirm name index).1 = some command := by
  have hIndex : (0 : Int) ≤ index := Int.natCast_nonneg index
  simp only [confirm, if_pos hIndex, Int.toNat_natCast, h]

/-- A message that is sent is blank and changes nothing; or its answer has the wrong shape; or it is
answered by a message of the assistant, which is then the last one. -/
theorem Numbered.send {chat : Chat} {world : World} (h : chat.Numbered world) (text : Text) :
    ∃ reply after later, chat.send text world = (reply, after, later) ∧ after.Numbered later ∧
      ((reply = .ok none ∧ after = chat) ∨ (∃ fault, reply = .error fault) ∨
        ∃ message, reply = .ok (some message) ∧ message.role = .model ∧
          after.messages.getLast? = some message) := by
  unfold Chat.send
  split
  · exact ⟨_, _, _, rfl, h, Or.inl ⟨rfl, rfl⟩⟩
  · simp only [World.writeMessage, World.newMessage]
    have hQuestion : Numbered
        { chat with messages := chat.messages ++ [⟨world.messageCount + 1, .user, text, false⟩] }
        { world with messageCount := world.messageCount + 1 } :=
      h.write rfl rfl
    have hCount := Assistant.messageCount_send chat.messages text
      { world with messageCount := world.messageCount + 1 }
    split
    · rename_i fault asked hSend
      rw [hSend] at hCount
      exact ⟨_, _, _, rfl, hQuestion.congr rfl hCount, Or.inr (Or.inl ⟨fault, rfl⟩)⟩
    · rename_i reply asked hSend
      rw [hSend] at hCount
      refine ⟨_, _, _, rfl, ?_, Or.inr (Or.inr ⟨_, rfl, rfl, ?_⟩)⟩
      · exact (hQuestion.congr rfl hCount).write rfl rfl
      · exact List.getLast?_concat ..

end Chat

end PhantomHost
