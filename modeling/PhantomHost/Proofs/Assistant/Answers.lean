import Mathlib.Data.List.Basic
import PhantomHost.Proofs.Assistant.Contact
/-!
Which answers of the server are too much for the assistant. Failures of the server never are: they become a
text. A reply is if it cannot be read, and a list of models if a name that is no text stands in it before a
name that fits.

Main statement: a check never fails, a look for the model and a question fail for these answers only, and a
chat gains a message and its reply together unless the reply cannot be read.
-/
namespace PhantomHost

open PhantomHost.Text

namespace Assistant

/-! ### Replies -/

/-- A reply that can be read: an object, in which the message, if it is present, is an object, in which the
content, if it is present, is a text. -/
def Readable (reply : Json) : Prop :=
  ∃ fields, reply = .obj fields ∧
    ∀ message, Json.lookup "message" fields = some message → message.isTruthy = true →
      ∃ inner, message = .obj inner ∧
        ∀ content, Json.lookup "content" inner = some content → content.isTruthy = true →
          ∃ text, content = .text text

theorem fieldOf_eq_ok_iff {name : Text} {value found : Json} :
    fieldOf name value = .ok found ↔
      ∃ fields, value = .obj fields ∧ (Json.lookup name fields).getD .null = found := by
  cases value <;> simp [fieldOf]

theorem lookup_of_isTruthy {name : Text} {fields : List (Text × Json)}
    (h : ((Json.lookup name fields).getD .null).isTruthy = true) :
    Json.lookup name fields = some ((Json.lookup name fields).getD .null) := by
  cases hField : Json.lookup name fields with
  | none =>
      rw [hField] at h
      cases h
  | some value => rfl

/-- A reply has a text exactly if it can be read. -/
theorem exists_replyText_iff {reply : Json} : (∃ text, replyText reply = .ok text) ↔ Readable reply := by
  constructor
  · rintro ⟨text, hText⟩
    unfold replyText at hText
    split at hText
    · cases hText
    · rename_i hFound
      obtain ⟨fields, rfl, rfl⟩ := fieldOf_eq_ok_iff.1 hFound
      refine ⟨fields, rfl, ?_⟩
      intro message hMessage hPresent
      rw [hMessage, Option.getD_some, if_pos hPresent] at hText
      split at hText
      · cases hText
      · rename_i hFound
        obtain ⟨inner, rfl, rfl⟩ := fieldOf_eq_ok_iff.1 hFound
        refine ⟨inner, rfl, ?_⟩
        intro content hContent hPresent
        rw [hContent, Option.getD_some, if_pos hPresent] at hText
        split at hText
        · exact ⟨_, rfl⟩
        · cases hText
  · rintro ⟨fields, rfl, hMessage⟩
    simp only [replyText, fieldOf]
    split
    · rename_i hPresent
      obtain ⟨inner, hInner, hContent⟩ := hMessage _ (lookup_of_isTruthy hPresent) hPresent
      rw [hInner]
      simp only
      split
      · rename_i hPresent
        obtain ⟨text, hText⟩ := hContent _ (lookup_of_isTruthy hPresent) hPresent
        rw [hText]
        exact ⟨text, rfl⟩
      · exact ⟨_, rfl⟩
    · exact ⟨_, rfl⟩

theorem not_readable_iff {reply : Json} : ¬Readable reply ↔ ∃ fault, replyText reply = .error fault := by
  rw [← exists_replyText_iff]
  cases replyText reply <;> simp

/-! ### Names of models -/

/-- A name that a model goes by: its own, or that with a version behind a colon. -/
def Fits (model name : Text) : Prop :=
  name = model ∨ model ++ (":" : Text) <+: name

/-- Names among which a look for a model comes to one that is no text, before one that fits. -/
def Stuck (model : Text) (names : List Json) : Prop :=
  ∃ before name after, names = before ++ name :: after ∧ (∀ text, name ≠ .text text) ∧
    ∀ earlier ∈ before, ∃ text, earlier = .text text ∧ ¬Fits model text

theorem stuck_of_ne_text {model : Text} {name : Json} (rest : List Json) (h : ∀ text, name ≠ .text text) :
    Stuck model (name :: rest) :=
  ⟨[], name, rest, rfl, h, by simp⟩

/-- A name that is a text is passed over if it does not fit, and ends the look if it does. -/
theorem stuck_text_cons_iff {model name : Text} {rest : List Json} :
    Stuck model (.text name :: rest) ↔ ¬Fits model name ∧ Stuck model rest := by
  constructor
  · rintro ⟨before, other, after, hNames, hOther, hBefore⟩
    cases before with
    | nil =>
        rw [List.nil_append, List.cons.injEq] at hNames
        exact absurd hNames.1.symm (hOther name)
    | cons first before =>
        rw [List.cons_append, List.cons.injEq] at hNames
        obtain ⟨rfl, rfl⟩ := hNames
        obtain ⟨text, hText, hFits⟩ := hBefore _ List.mem_cons_self
        rw [Json.text.injEq] at hText
        subst hText
        exact ⟨hFits, before, other, after, rfl, hOther,
          fun earlier hEarlier => hBefore earlier (List.mem_cons_of_mem _ hEarlier)⟩
  · rintro ⟨hFits, before, other, after, rfl, hOther, hBefore⟩
    refine ⟨.text name :: before, other, after, rfl, hOther, ?_⟩
    intro earlier hEarlier
    rcases List.mem_cons.1 hEarlier with rfl | hRest
    · exact ⟨name, rfl, hFits⟩
    · exact hBefore earlier hRest

theorem hasModel_eq_error_iff {model : Text} {names : List Json} :
    (∃ fault, hasModel model names = .error fault) ↔ Stuck model names := by
  induction names with
  | nil => simp [hasModel, Stuck]
  | cons name rest ih =>
      cases name with
      | text name =>
          rw [stuck_text_cons_iff, ← ih, hasModel]
          have hTest : (name = model || (model ++ (":" : Text)).isPrefixOf name) = true ↔ Fits model name := by
            simp [Fits]
          by_cases hFits : Fits model name
          · rw [if_pos (hTest.2 hFits)]
            simp [hFits]
          · rw [if_neg (mt hTest.1 hFits)]
            simp [hFits]
      | _ => exact iff_of_true ⟨_, rfl⟩ (stuck_of_ne_text rest nofun)

/-- The server lists models whose names bring the look for the model to a stop. -/
def Misnamed (world : World) : Prop :=
  world.CanCall ∧ ∃ catalogue names, world.server.catalogues.first.answer = .ok catalogue ∧
    modelNames catalogue = .ok names ∧ Stuck world.settings.assistant.model names

/-- A look for the model fails for nothing but a name that is no text. -/
theorem verify_eq_error_iff {world : World} :
    (∃ fault, (verify world).1 = .error fault) ↔ Misnamed world := by
  rw [verify]
  by_cases hCall : world.CanCall
  · rw [World.askCatalogue_of_canCall hCall]
    cases hAnswer : world.server.catalogues.first.answer with
    | error text => simp [Except.bind, Misnamed, hAnswer]
    | ok catalogue =>
        cases hNames : modelNames catalogue with
        | error text => simp [Except.bind, Misnamed, hAnswer, hNames]
        | ok names =>
            have hMisnamed : Misnamed world ↔ Stuck world.settings.assistant.model names := by
              simp [Misnamed, hCall, hAnswer, hNames]
            rw [hMisnamed, ← hasModel_eq_error_iff]
            simp only [Except.bind, hNames]
            generalize hasModel world.settings.assistant.model names = found
            cases found with
            | error fault => simp
            | ok found => cases found <;> simp
  · obtain ⟨text, hRefusal, hAsk⟩ := World.askCatalogue_of_not_canCall hCall
    rw [hAsk]
    simp [Except.bind, Misnamed, hCall]

/-! ### Questions -/

/-- The server was asked between two worlds, and its reply cannot be read. -/
def Misread (world after : World) : Prop :=
  .asked true ∈ contacts world after ∧
    ∃ reply, world.server.replies.first.answer = .ok reply ∧ ¬Readable reply

theorem Sends.exists_fault_iff {world checked after : World} {listing asked : List Contact}
    {result : Except ShapeFault Text} (h : Sends world listing checked asked result after) :
    (∃ fault, result = .error fault) ↔ Misread world after := by
  obtain ⟨⟨reachable, hCheck, hReplies⟩, hCalls, -, -⟩ := h
  generalize after.link = link at hReplies
  have hAsked : .asked true ∈ contacts world after ↔ .asked true ∈ asked := by
    rw [hCalls, List.mem_append, or_iff_right (hCheck.asked_notMem true)]
  rw [Misread, hAsked, ← hCheck.replies]
  cases hReplies with
  | unreachable => simp
  | unasked => simp
  | failed => simp
  | misshapen hAnswer hReply =>
      have hUnread := not_readable_iff.2 ⟨_, hReply⟩
      simp [hAnswer, hUnread]
  | answered hAnswer hReply =>
      have hRead := exists_replyText_iff.1 ⟨_, hReply⟩
      simp [hAnswer, hRead]

theorem isBlankText_shownReply (content : Text) : isBlankText (shownReply content) = false := by
  unfold shownReply
  split
  · decide +kernel
  · rename_i hBlank
    exact Bool.eq_false_iff.2 hBlank

/-- Nothing that begins with a letter is blank. -/
theorem isBlankText_error (text : Text) : isBlankText ("Error: " ++ text) = false := by
  rfl

/-- No answer to a question is blank. -/
theorem Sends.isBlankText_eq_false {world checked after : World} {listing asked : List Contact}
    {answer : Text} (h : Sends world listing checked asked (.ok answer) after) :
    isBlankText answer = false := by
  obtain ⟨reachable, -, hReplies⟩ := h.check
  generalize after.link = link at hReplies
  cases hReplies with
  | unreachable => exact isBlankText_error _
  | unasked => exact isBlankText_error _
  | failed => exact isBlankText_error _
  | answered => exact isBlankText_shownReply _

theorem Misread.alike_iff {before world after later : World} (h : before.Alike world)
    (h' : after.Alike later) : Misread before later ↔ Misread world after := by
  rw [Misread, Misread, contacts, contacts, h.events, h.server, h'.events]

end Assistant

/-! ### Chats -/

theorem World.alike_writeMessage (role : Role) (text : Text) (isThinking : Bool) (world : World) :
    world.Alike (world.writeMessage role text isThinking).2 :=
  ⟨⟨rfl, rfl⟩, rfl, rfl, rfl, rfl⟩

namespace Chat

/-- A chat has gained a message of the user alone. -/
def Dangles (text : Text) (chat after : Chat) : Prop :=
  ∃ question : Message, question.role = .user ∧ question.text = text ∧
    after = { chat with messages := chat.messages ++ [question] }

/-- A chat has gained a message of the user and a reply with something in it. -/
def Paired (text : Text) (answer : Message) (chat after : Chat) : Prop :=
  ∃ question : Message, question.role = .user ∧ question.text = text ∧
    answer.role = .model ∧ isBlankText answer.text = false ∧
    after = { chat with messages := chat.messages ++ [question, answer] }

/-- A message that is not blank gets its reply, unless the reply cannot be read. -/
theorem send_paired_or_dangles {text : Text} (hText : isBlankText text = false) (chat : Chat) (world : World) :
    (¬Assistant.Misread world (chat.send text world).2.2 ∧
      ∃ answer, (chat.send text world).1 = .ok (some answer) ∧ Paired text answer chat (chat.send text world).2.1) ∨
    (Assistant.Misread world (chat.send text world).2.2 ∧
      (∃ fault, (chat.send text world).1 = .error fault) ∧ Dangles text chat (chat.send text world).2.1) := by
  have hQuestion := World.alike_writeMessage .user text false world
  rw [send, if_neg (by simp [hText])]
  obtain ⟨listing, checked, asked, hSends⟩ :=
    Assistant.exists_sends chat.messages text (world.writeMessage .user text false).2
  simp only
  generalize Assistant.send chat.messages text (world.writeMessage .user text false).2 = sending at hSends ⊢
  obtain ⟨result, after⟩ := sending
  cases result with
  | error fault =>
      right
      refine ⟨?_, ⟨fault, rfl⟩, _, rfl, rfl, rfl⟩
      rw [Assistant.Misread.alike_iff hQuestion (.refl _)]
      exact hSends.exists_fault_iff.1 ⟨fault, rfl⟩
  | ok reply =>
      left
      refine ⟨?_, _, rfl, (world.writeMessage .user text false).1, rfl, rfl, rfl,
        hSends.isBlankText_eq_false, ?_⟩
      · rw [Assistant.Misread.alike_iff hQuestion (World.alike_writeMessage .model reply true after),
          ← hSends.exists_fault_iff]
        simp
      · simp [World.writeMessage]

end Chat

namespace Assistant

/-- A check succeeds where an earlier one did and still holds, or where a new one is answered. -/
theorem checkServer_eq_true_iff {world : World} :
    world.checkServer.1 = true ↔
      (world.checkIsFresh = true ∧ world.link.verified = true) ∨
      (world.checkIsFresh = false ∧ world.CanCall ∧
        ∃ catalogue, world.server.catalogues.first.answer = .ok catalogue) := by
  obtain ⟨listing, hCheck⟩ := world.exists_checks
  generalize world.checkServer.1 = reachable, world.checkServer.2 = after at hCheck ⊢
  cases hCheck with
  | fresh hFresh hVerified => simp [hFresh, hVerified]
  | refused hStale hCall => simp [hStale, hCall]
  | listed hStale hCall hAnswer =>
      rw [← hAnswer]
      cases hCatalogue : world.server.catalogues.first.answer <;> simp [hStale, hCall, Except.isOk, Except.toBool]

theorem send_eq_error_iff {history : List Message} {text : Text} {world : World} :
    (∃ fault, (send history text world).1 = .error fault) ↔ Misread world (send history text world).2 := by
  obtain ⟨listing, checked, asked, hSends⟩ := exists_sends history text world
  exact hSends.exists_fault_iff

theorem isBlankText_of_send {history : List Message} {text answer : Text} {world : World}
    (h : (send history text world).1 = .ok answer) : isBlankText answer = false := by
  obtain ⟨listing, checked, asked, hSends⟩ := exists_sends history text world
  rw [h] at hSends
  exact hSends.isBlankText_eq_false

/-- A check always answers: what an earlier check found if that still holds, and otherwise whether the server
does. A look for the model fails only where the server lists a name that is no text before one that fits, and a
question only where the server gives a reply that cannot be read; every other answer to a question has something
in it. So a message that is not blank comes into a chat together with a reply, unless that cannot be read; then
it stands there alone. -/
theorem faults_iff_misshapen (history : List Message) (text : Text) (chat : Chat) (world : World) :
    (world.checkServer.1 = true ↔
      (world.checkIsFresh = true ∧ world.link.verified = true) ∨
      (world.checkIsFresh = false ∧ world.CanCall ∧
        ∃ catalogue, world.server.catalogues.first.answer = .ok catalogue)) ∧
    ((∃ fault, (verify world).1 = .error fault) ↔ Misnamed world) ∧
    ((∃ fault, (send history text world).1 = .error fault) ↔ Misread world (send history text world).2) ∧
    (∀ answer, (send history text world).1 = .ok answer → isBlankText answer = false) ∧
    (isBlankText text = false →
      (¬Misread world (chat.send text world).2.2 ∧
        ∃ answer, (chat.send text world).1 = .ok (some answer) ∧
          Chat.Paired text answer chat (chat.send text world).2.1) ∨
      (Misread world (chat.send text world).2.2 ∧ (∃ fault, (chat.send text world).1 = .error fault) ∧
        Chat.Dangles text chat (chat.send text world).2.1)) :=
  ⟨checkServer_eq_true_iff, verify_eq_error_iff, send_eq_error_iff, fun _ => isBlankText_of_send,
    fun hText => Chat.send_paired_or_dangles hText chat world⟩

/-- A world at rest with a server that gives one list of models and one reply to everything. -/
def answering (catalogue : Catalogue) (reply : Json) : World :=
  { World.quiet with
    server := ⟨none, ⟨⟨0.0, .ok catalogue⟩, []⟩, ⟨⟨0.0, .ok reply⟩, []⟩⟩ }

/-- A reply without content is one with something in it. -/
theorem send_pairs_without_content :
    let world := answering (.typed []) (.obj [("message", .null)])
    let chat : Chat := ⟨[], none⟩
    isBlankText "hi" = false ∧ ¬Misread world (chat.send "hi" world).2.2 ∧
      ∃ answer, (chat.send "hi" world).1 = .ok (some answer) ∧
        Chat.Paired "hi" answer chat (chat.send "hi" world).2.1 := by
  intro world chat
  have hText : isBlankText "hi" = false := by decide +kernel
  obtain ⟨-, -, -, -, hSend⟩ := faults_iff_misshapen [] "hi" chat world
  refine ⟨hText, (hSend hText).resolve_right ?_⟩
  rintro ⟨-, ⟨fault, hFault⟩, -⟩
  have hOk : (chat.send "hi" world).1 = .ok (some ⟨2, .model, noReply, true⟩) := by decide +kernel
  rw [hOk] at hFault
  cases hFault

/-- A reply that is a number, and a name that is one, are too much: the question stands in the chat without a
reply. -/
theorem faults_on_numbers :
    let started := Chat.start Chat.greeting
      (answering (.fields [("models", .arr [.obj [("name", .int 5)]])]) (.int 5))
    (send [] "hi" started.2).1 = .error ⟨"int", "get"⟩ ∧
      (verify started.2).1 = .error ⟨"int", "startswith"⟩ ∧
      (started.1.send "hi" started.2).1 = .error ⟨"int", "get"⟩ ∧
      (started.1.send "hi" started.2).2.1.messages.map Message.role = [.model, .user] := by
  decide +kernel

end Assistant

end PhantomHost
