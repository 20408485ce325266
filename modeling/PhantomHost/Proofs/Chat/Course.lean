import PhantomHost.Proofs.Assistant.Context
import PhantomHost.Proofs.Chat.Panel
import PhantomHost.Proofs.Console.Closing
/-!
The course of one chat: texts are sent, and the world goes on between them. Main statement: the messages are the
greeting and a pair for every text that is not blank, and whenever the server is asked to continue a conversation,
it is given the messages before the text and the text once.
-/
namespace PhantomHost.Chat

open PhantomHost.Text

/-- What comes back for a text that is sent. -/
abbrev Reply := Except Assistant.ShapeFault (Option Message)

/-- A step in the course of a chat: a text is sent, or something goes on elsewhere. -/
inductive Step where
  | send (text : Text)
  | meanwhile (change : World → World)

/-- What goes on elsewhere takes no message number back, and brings no reply that cannot be read. -/
def Step.Fair : Step → Prop
  | .send _ => True
  | .meanwhile change =>
    ∀ world, world.messageCount ≤ (change world).messageCount ∧ (Answerable world → Answerable (change world))

/-- The text that a step sends. -/
def Step.text? : Step → Option Text
  | .send text => some text
  | .meanwhile _ => none

/-- A chat so far: what was sent, with what came back for it, the chat, and the world. -/
structure Course where
  sent : List (Text × Reply)
  chat : Chat
  world : World

namespace Course

def start (greeting : Text) (world : World) : Course :=
  let (chat, world) := Chat.start greeting world
  ⟨[], chat, world⟩

def step (course : Course) : Step → Course
  | .send text =>
    let (reply, chat, world) := course.chat.send text course.world
    ⟨course.sent ++ [(text, reply)], chat, world⟩
  | .meanwhile change => { course with world := change course.world }

def run (steps : List Step) (course : Course) : Course :=
  steps.foldl step course

end Course

/-- The messages of a chat, by what was sent: a first one, and then, for each text that is not blank, the text as the
user's message and the reply that came back as the assistant's. For a blank text nothing comes back. -/
inductive Transcribes (first : Message) : List (Text × Reply) → List Message → Prop
  | start : Transcribes first [] [first]
  | blank {sent : List (Text × Reply)} {messages : List Message} {text : Text}
      (prior : Transcribes first sent messages) (hBlank : isBlankText text = true) :
      Transcribes first (sent ++ [(text, .ok none)]) messages
  | pair {sent : List (Text × Reply)} {messages : List Message} {question answer : Message}
      (prior : Transcribes first sent messages) (hText : isBlankText question.text = false)
      (hQuestion : question.role = .user) (hAnswer : answer.role = .model) :
      Transcribes first (sent ++ [(question.text, .ok (some answer))]) (messages ++ [question, answer])

/-- What holds of a chat in its whole course. -/
structure Course.Sound (first : Message) (course : Course) : Prop where
  transcript : Transcribes first course.sent course.chat.messages
  numbered : course.chat.Numbered course.world
  answerable : Answerable course.world

theorem send_of_blank {text : Text} (h : isBlankText text = true) (chat : Chat) (world : World) :
    chat.send text world = (.ok none, chat, world) := by
  rw [send, if_pos h]

theorem Course.Sound.step {first : Message} {course : Course} (h : course.Sound first) {step : Step}
    (hFair : step.Fair) : (course.step step).Sound first := by
  cases step with
  | meanwhile change =>
      obtain ⟨hCount, hAnswerable⟩ := hFair course.world
      exact ⟨h.transcript, h.numbered.mono hCount, hAnswerable h.answerable⟩
  | send text =>
      have hReplies := (course.chat.send_world text course.world).2
      obtain ⟨reply, after, later, hSend, hNumbered, -⟩ := h.numbered.send text
      cases hBlank : isBlankText text with
      | true =>
          rw [Course.step, send_of_blank hBlank]
          exact ⟨h.transcript.blank hBlank, h.numbered, h.answerable⟩
      | false =>
          rcases send_paired_or_dangles hBlank course.chat course.world with
            ⟨-, answer, hAnswer, question, hUser, rfl, hModel, -, hAfter⟩ | ⟨hMisread, -⟩
          · rw [hSend] at hReplies hAnswer hAfter
            obtain rfl : reply = .ok (some answer) := hAnswer
            obtain rfl : after = _ := hAfter
            rw [Course.step, hSend]
            exact ⟨h.transcript.pair hBlank hUser hModel, hNumbered, h.answerable.of_subset hReplies⟩
          · exact absurd hMisread (h.answerable.not_misread _)

theorem Course.Sound.run {first : Message} {course : Course} (h : course.Sound first) {steps : List Step}
    (hFair : ∀ step ∈ steps, step.Fair) : (course.run steps).Sound first := by
  induction steps generalizing course with
  | nil => exact h
  | cons step rest ih =>
      rw [List.forall_mem_cons] at hFair
      exact ih (h.step hFair.1) hFair.2

theorem Course.sent_step (course : Course) (step : Step) :
    (course.step step).sent.map Prod.fst = course.sent.map Prod.fst ++ step.text?.toList := by
  cases step with
  | send text => exact List.map_append
  | meanwhile change => exact (List.append_nil _).symm

/-- The texts that were sent are those of the steps. -/
theorem Course.sent_run (steps : List Step) (course : Course) :
    (course.run steps).sent.map Prod.fst = course.sent.map Prod.fst ++ steps.filterMap Step.text? := by
  induction steps generalizing course with
  | nil => exact (List.append_nil _).symm
  | cons step rest ih =>
      rw [run, List.foldl_cons, ← run, ih, sent_step, List.append_assoc]
      cases hText : step.text? with
      | none => rw [List.filterMap_cons_none hText]; rfl
      | some text => rw [List.filterMap_cons_some hText]; rfl

theorem sound_start (greeting : Text) {world : World} (h : Answerable world) :
    ∃ first, first.role = .model ∧ first.text = greeting ∧ (Course.start greeting world).Sound first :=
  ⟨(world.writeMessage .model greeting false).1, rfl, rfl, .start, numbered_start greeting world, h⟩

theorem Numbered.nodup_names {chat : Chat} {world : World} (h : chat.Numbered world) :
    (chat.messages.map Message.name).Nodup := by
  rw [List.Nodup, List.pairwise_map]
  refine h.ascending.imp ?_
  intro a b hLess hSame
  rw [Message.name_inj] at hSame
  omega

/-- A message as a turn of a conversation. -/
def turnOf (message : Message) : Turn :=
  ⟨if message.role = .model then "assistant" else "user", message.text⟩

theorem conversation_eq (instructions : Text) (history : List Message) (text : Text) :
    Assistant.conversation instructions history text =
      ⟨"system", instructions⟩ :: history.map turnOf ++ [⟨"user", text⟩] := by
  have hTurn : (fun message : Message => (⟨message.role.turnWord, message.text⟩ : Turn)) = turnOf := by
    funext message
    rw [turnOf]
    cases message.role <;> rfl
  rw [Assistant.conversation, hTurn]

/-- A text asks the server to continue at most one conversation: the instructions, the messages before it, and the
text itself. -/
theorem conversations_send (text : Text) (chat : Chat) (world : World) :
    conversations world (chat.send text world).2.2 = [] ∨
      ∃ instructions, Assistant.Instructs world instructions ∧
        conversations world (chat.send text world).2.2 =
          [⟨"system", instructions⟩ :: chat.messages.map turnOf ++ [⟨"user", text⟩]] := by
  cases hBlank : isBlankText text with
  | true =>
      left
      rw [send_of_blank hBlank, conversations, List.drop_length]
      rfl
  | false =>
      have hAsked := Assistant.conversations_send chat.messages text (world.writeMessage .user text false).2
      have hEvents : (chat.send text world).2.2.events =
          (Assistant.send chat.messages text (world.writeMessage .user text false).2).2.events := by
        rw [send, if_neg (by simp [hBlank])]
        simp only
        split
        · rename_i hSend
          rw [hSend]
        · rename_i hSend
          rw [hSend]
          rfl
      have hSame : conversations world (chat.send text world).2.2 = conversations
          (world.writeMessage .user text false).2
          (Assistant.send chat.messages text (world.writeMessage .user text false).2).2 := by
        rw [conversations, conversations, hEvents]
        rfl
      rw [hSame]
      rcases hAsked with hNone | ⟨instructions, ⟨later, hLater, hPrompt⟩, hOne⟩
      · exact Or.inl hNone
      · rw [conversation_eq] at hOne
        exact Or.inr ⟨instructions, ⟨later, ⟨hLater.settings, hLater.listener, hLater.disk⟩, hPrompt⟩, hOne⟩

/-- For every greeting and every course of a chat, with a server whose replies can be read: what was sent are the
texts of the steps, and the messages are the greeting and, for each text that is not blank, the text and the reply
that came back for it, under different names. A text that is sent next changes nothing if it is blank. Any
conversation that the server is then asked to continue is that of the instructions, the messages so far and the
text; and the instructions are those of the prompt file, to which no more than lines of the log have come. -/
theorem course_pairs_texts_and_continues (greeting : Text) {world : World} (hAnswerable : Answerable world)
    {steps : List Step} (hFair : ∀ step ∈ steps, step.Fair) :
    let course := (Course.start greeting world).run steps
    course.sent.map Prod.fst = steps.filterMap Step.text? ∧
    (∃ first, first.role = .model ∧ first.text = greeting ∧
      Transcribes first course.sent course.chat.messages) ∧
    (course.chat.messages.map Message.name).Nodup ∧
    ∀ text, (isBlankText text = true →
        course.chat.send text course.world = (.ok none, course.chat, course.world)) ∧
      (conversations course.world (course.chat.send text course.world).2.2 = [] ∨
        ∃ instructions, Assistant.Instructs course.world instructions ∧
          (course.world.LogsApart course.world.settings.systemPrompt →
            (Assistant.loadPrompt course.world).1 = .ok instructions) ∧
          conversations course.world (course.chat.send text course.world).2.2 =
            [⟨"system", instructions⟩ :: course.chat.messages.map turnOf ++ [⟨"user", text⟩]]) := by
  obtain ⟨first, hRole, hGreeting, hStart⟩ := sound_start greeting hAnswerable
  have hSound := hStart.run hFair
  refine ⟨Course.sent_run steps _, ⟨first, hRole, hGreeting, hSound.transcript⟩, hSound.numbered.nodup_names, ?_⟩
  intro text
  refine ⟨fun hBlank => send_of_blank hBlank _ _, ?_⟩
  rcases conversations_send text _ _ with hNone | ⟨instructions, hInstructs, hOne⟩
  · exact Or.inl hNone
  · exact Or.inr ⟨instructions, hInstructs, hInstructs.loadPrompt_eq, hOne⟩

/-- A world whose server gives replies without content. -/
def wordless : World :=
  Assistant.answering (.typed []) (.obj [("message", .null)])

/-- A course with a blank text and another one. -/
def briefSteps : List Step :=
  [.send " ", .send "yo", .meanwhile id]

def briefCourse : Course :=
  (Course.start "hi" wordless).run briefSteps

theorem answerable_wordless : Answerable wordless := by
  intro timed hTimed reply hReply
  rw [List.mem_singleton.1 hTimed] at hReply
  cases hReply
  exact Assistant.exists_replyText_iff.1 ⟨"", rfl⟩

theorem fair_briefSteps : ∀ step ∈ briefSteps, step.Fair := by
  intro step hStep
  cases step with
  | send text => trivial
  | meanwhile change =>
      obtain rfl : change = id := by simpa [briefSteps] using hStep
      exact fun world => ⟨Nat.le_refl _, id⟩

/-- The blank text leaves no trace, the reply without content is a message, and the next question comes behind the
greeting and that pair. -/
theorem course_pairs_and_continues_brief :
    Answerable wordless ∧ (∀ step ∈ briefSteps, step.Fair) ∧
    briefCourse.sent.map Prod.fst = [" ", "yo"] ∧
    briefCourse.chat.messages.map turnOf =
      [⟨"assistant", "hi"⟩, ⟨"user", "yo"⟩, ⟨"assistant", Assistant.noReply⟩] ∧
    (∃ first, Transcribes first briefCourse.sent briefCourse.chat.messages) ∧
    ∃ instructions, Assistant.Instructs briefCourse.world instructions ∧
      conversations briefCourse.world (briefCourse.chat.send "so" briefCourse.world).2.2 =
        [[⟨"system", instructions⟩, ⟨"assistant", "hi"⟩, ⟨"user", "yo"⟩, ⟨"assistant", Assistant.noReply⟩,
          ⟨"user", "so"⟩]] := by
  have hTurns : briefCourse.chat.messages.map turnOf =
      [⟨"assistant", "hi"⟩, ⟨"user", "yo"⟩, ⟨"assistant", Assistant.noReply⟩] := by decide +kernel
  have hAsked : conversations briefCourse.world (briefCourse.chat.send "so" briefCourse.world).2.2 ≠ [] := by
    decide +kernel
  obtain ⟨hSent, ⟨first, -, -, hTranscript⟩, -, hNext⟩ :=
    course_pairs_texts_and_continues "hi" answerable_wordless fair_briefSteps
  obtain ⟨instructions, hInstructs, -, hOne⟩ := (hNext "so").2.resolve_left hAsked
  refine ⟨answerable_wordless, fair_briefSteps, hSent, hTurns, ⟨first, hTranscript⟩, instructions, hInstructs, ?_⟩
  rw [← briefCourse, hTurns] at hOne
  exact hOne

end PhantomHost.Chat
