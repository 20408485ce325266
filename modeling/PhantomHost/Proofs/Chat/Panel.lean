import PhantomHost.Page.Talk
import PhantomHost.Proofs.Chat.Confirmation
import PhantomHost.Proofs.Chat.Transcript
import PhantomHost.Proofs.Fence.Parts
/-!
The commands that the page shows, and what a confirmation gives back.

The page counts the commands of a message while it shows its parts; a confirmation looks the command up
again by the name of the message and that number. Main statement: both mean the same command, in every chat
that a history can lead to.
-/
namespace PhantomHost

namespace Page

/-- What the page shows for a part of a message: prose as it is, a command with the buttons of its number. -/
def showPart (session : Session) (chat : Chat) (message : Message) : Nat × MessagePart → Act Unit
  | (index, part) =>
    if part.isCommand then do
      text .code part.text
      commandButtons session chat message index
    else text .markdown part.text

/-- The page shows the parts one by one, with the number of the commands in front of each. -/
theorem messageParts_eq_forM (session : Session) (chat : Chat) (message : Message) (start : Nat)
    (parts : List MessagePart) :
    messageParts session chat message start parts =
      (counted start parts).forM (showPart session chat message) := by
  induction parts generalizing start with
  | nil => rfl
  | cons part rest ih =>
      cases hCommand : part.isCommand with
      | true => simp [messageParts, counted, showPart, hCommand, ih, bind_assoc]
      | false => simp [messageParts, counted, showPart, hCommand, ih]

theorem message_of_model (session : Session) (chat : Chat) {message : Message}
    (hRole : message.role = .model) :
    Page.message session chat message = (do
      place (.block .chatMessage "assistant")
      (counted 0 (splitMessage message.text)).forM (showPart session chat message)) := by
  simp only [Page.message, hRole, messageParts_eq_forM]

end Page

namespace Chat

open PhantomHost.Text

/-- An executor that takes no message number back. -/
def Executor.Forward (execute : Executor) : Prop :=
  ∀ command world, world.messageCount ≤ (execute command world).2.messageCount

/-- A step of a history that takes no message number back. Only what stands for the surroundings of the
chats could do so. -/
def Act.Forward : Act → Prop
  | .on _ (.run execute) => execute.Forward
  | .meanwhile change => ∀ world, world.messageCount ≤ (change world).messageCount
  | .start _ | .on _ _ => True

/-- The executor of the page, a session that runs the command, takes none back. -/
theorem forward_runSuggested (session : Session) :
    Executor.Forward fun command world =>
      let (output, _, world) := session.runSuggested command world
      (.ok output, world) := by
  intro command world
  have hExecute : ∀ (shell : Shell) (world : World),
      (shell.execute command world).2.2.messageCount = world.messageCount := by
    intro shell world
    unfold Shell.execute
    split <;> simp
  have hAfter : (session.runSuggested command world).2.2.messageCount =
      (world.say (.suggested command)).messageCount := hExecute session.shell _
  exact Nat.le_of_eq (hAfter.trans (World.messageCount_say _ world)).symm

theorem le_messageCount_send (text : Text) (chat : Chat) (world : World) :
    world.messageCount ≤ (chat.send text world).2.2.messageCount := by
  have hCount := Assistant.messageCount_send chat.messages text
    { world with messageCount := world.messageCount + 1 }
  unfold send
  split
  · exact Nat.le_refl _
  · simp only [World.writeMessage, World.newMessage]
    split
    · rename_i hSend
      rw [hSend] at hCount
      simp only at hCount ⊢
      omega
    · rename_i hSend
      rw [hSend] at hCount
      simp only at hCount ⊢
      omega

theorem messages_release (chat : Chat) : chat.release.2.messages = chat.messages := by
  rw [release_snd]
  rfl

/-- An operation keeps the numbers of the chat in order, and takes none back. -/
theorem Numbered.perform {chat : Chat} {world : World} (h : chat.Numbered world) {number : Nat}
    {operation : Operation} (hForward : (Act.on number operation).Forward) :
    (chat.perform operation world).2.1.Numbered (chat.perform operation world).2.2 ∧
      world.messageCount ≤ (chat.perform operation world).2.2.messageCount := by
  cases operation with
  | send text =>
      have hCount := le_messageCount_send text chat world
      obtain ⟨reply, after, later, hSend, hNumbered, -⟩ := h.send text
      rw [hSend] at hCount
      simp only [Chat.perform, hSend]
      exact ⟨hNumbered, hCount⟩
  | list name => exact ⟨h, Nat.le_refl _⟩
  | confirm name index => exact ⟨h.congr (messages_confirm name index chat) rfl, Nat.le_refl _⟩
  | cancel => exact ⟨h.congr rfl rfl, Nat.le_refl _⟩
  | run execute =>
      have hAfter := h.congr (messages_release chat) rfl
      simp only [Chat.perform]
      split
      · rename_i hRelease
        rw [hRelease] at hAfter
        exact ⟨hAfter, Nat.le_refl _⟩
      · rename_i hRelease
        rw [hRelease] at hAfter
        exact ⟨hAfter, Nat.le_refl _⟩
      · rename_i command _ hRelease
        rw [hRelease] at hAfter
        have hCount := hForward command world
        exact ⟨hAfter.mono hCount, hCount⟩

namespace Hall

/-- Every chat of a hall has its numbers in order, and the world has given out all of them. -/
def Numbered (hall : Hall) : Prop :=
  ∀ chat ∈ hall.chats, chat.Numbered hall.world

/-- The number of a message is given out once, whichever chat it goes to. -/
theorem Numbered.step {hall : Hall} (h : hall.Numbered) {act : Act} (hForward : act.Forward) :
    (hall.step act).2.Numbered := by
  intro chat hChat
  cases act with
  | start greeting =>
      rcases List.mem_append.1 hChat with hOld | hNew
      · exact (h chat hOld).mono (Nat.le_succ _)
      · rw [List.mem_singleton.1 hNew]
        exact numbered_start greeting hall.world
  | on number operation =>
      cases hFound : hall.chats[number]? with
      | none =>
          simp only [Hall.step, hFound] at hChat ⊢
          exact h chat hChat
      | some old =>
          have hAfter := (h old (List.mem_of_getElem? hFound)).perform hForward
          simp only [Hall.step, hFound] at hChat ⊢
          rcases List.mem_or_eq_of_mem_set hChat with hOther | hSame
          · exact (h chat hOther).mono hAfter.2
          · rw [hSame]
            exact hAfter.1
  | meanwhile change => exact (h chat hChat).mono (hForward hall.world)

theorem Numbered.run {hall : Hall} (h : hall.Numbered) {acts : List Act}
    (hForward : ∀ act ∈ acts, act.Forward) : (Hall.run acts hall).2.Numbered := by
  induction acts generalizing hall with
  | nil => exact h
  | cons act rest ih =>
      rw [List.forall_mem_cons] at hForward
      exact ih (h.step hForward.1) hForward.2

end Hall

/-- For every text: the scan cuts it into prose and blocks from the left, each block as short as it can be, so
that nothing is lost and no block opens inside the prose; the commands are the bodies of the blocks, and the
parts are all prose and commands in order but for empty prose. In every chat that a history leads to, the page
shows a message with that text part by part, and the number under which it shows a command is the one whose
confirmation gives that command back. -/
theorem parts_number_commands (text : Text) :
    (∃ cut : Fence.Cut, cut.flatten = text ∧ cut.Leftmost ∧
      extractCommands text = cut.blocks.map (fun (block, _) => trim block.body) ∧
      splitMessage text = cut.parts.filter MessagePart.isShown) ∧
    ((splitMessage text).filter MessagePart.isCommand).map MessagePart.text = extractCommands text ∧
    ∀ (world : World) (acts : List Act) (number : Nat) (chat : Chat) (message : Message),
      (∀ act ∈ acts, act.Forward) → (Hall.run acts ⟨[], world⟩).2.chats[number]? = some chat →
      message ∈ chat.messages → message.role = .model → message.text = text →
      (∀ session, Page.message session chat message = (do
        Page.place (.block .chatMessage "assistant")
        (counted 0 (splitMessage text)).forM (Page.showPart session chat message))) ∧
      ∀ index part, (index, part) ∈ counted 0 (splitMessage text) → part.isCommand = true →
        (chat.confirm message.name index).1 = some part.text := by
  refine ⟨⟨Fence.scan text, Fence.flatten_scan text, Fence.leftmost_scan text, rfl,
    splitMessage_eq_filter text⟩, map_text_filter_splitMessage text, ?_⟩
  rintro world acts number chat message hForward hChat hMem hRole rfl
  have hHall : Hall.Numbered ⟨[], world⟩ := by simp [Hall.Numbered]
  have hNumbered := hHall.run hForward chat (List.mem_of_getElem? hChat)
  refine ⟨fun session => Page.message_of_model session chat hRole, ?_⟩
  intro index part hPart hCommand
  apply confirm_of_getElem?
  rw [hNumbered.commandsOf_of_mem hMem hRole]
  exact getElem?_of_mem_counted hPart hCommand

/-- Two blocks with nothing between them. -/
def twoBlocks : Text :=
  Fence.fence ++ "\nls\n" ++ Fence.fence ++ Fence.fence ++ "sh\nid\n" ++ Fence.fence

/-- The second of two blocks is shown under the number one, and that number gives its command back. -/
theorem parts_number_twoBlocks :
    ∃ chat message, (Hall.run [.start twoBlocks] ⟨[], World.quiet⟩).2.chats = [chat] ∧
      message ∈ chat.messages ∧ (1, ⟨"id", true⟩) ∈ counted 0 (splitMessage message.text) ∧
      (chat.confirm message.name 1).1 = some "id" := by
  have hPart : (1, ⟨"id", true⟩) ∈ counted 0 (splitMessage twoBlocks) := by decide +kernel
  have hForward : ∀ act ∈ [Act.start twoBlocks], act.Forward := by
    intro act hAct
    rw [List.mem_singleton.1 hAct]
    trivial
  have hConfirm := ((parts_number_commands twoBlocks).2.2 World.quiet [.start twoBlocks] 0
    ⟨[⟨1, .model, twoBlocks, false⟩], none⟩ ⟨1, .model, twoBlocks, false⟩ hForward rfl
    (List.mem_singleton_self _) rfl rfl).2 1 _ hPart rfl
  exact ⟨_, _, rfl, List.mem_singleton_self _, hPart, hConfirm⟩

end Chat

end PhantomHost
