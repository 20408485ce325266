import PhantomHost.Proofs.Assistant.Context
import PhantomHost.Proofs.World.Counts
/-!
A question as the counters see it: it is counted if it is answered, and timed if the check before it succeeded.

Such a question reaches the server unless its instructions cannot be read: a check succeeds only with a client that
has been made, and the link counts the server as reachable only then.
-/
namespace PhantomHost

/-- The server counts as reachable only if a client for it has been made. -/
def Link.Sound (link : Link) : Prop :=
  link.verified = true → link.client = true

theorem Link.sound_unknown : Link.unknown.Sound := nofun

namespace World

theorem Checks.sound {world after : World} {reachable : Bool} {listing : List Contact}
    (h : world.Checks reachable listing after) (hSound : world.link.Sound) : after.link.Sound := by
  cases h with
  | fresh _ _ _ _ _ hLink =>
      rw [hLink]
      exact hSound
  | refused _ _ _ _ _ hLink =>
      rw [hLink]
      exact nofun
  | listed _ _ _ _ _ _ hLink =>
      rw [hLink]
      exact fun _ => rfl

theorem sound_checkServer {world : World} (h : world.link.Sound) : world.checkServer.2.link.Sound := by
  obtain ⟨listing, hCheck⟩ := world.exists_checks
  exact hCheck.sound h

theorem sound_askCatalogue {world : World} (h : world.link.Sound) : world.askCatalogue.2.link.Sound := by
  by_cases hCall : world.CanCall
  · rw [askCatalogue_of_canCall hCall]
    exact fun _ => rfl
  · obtain ⟨text, -, hAsk⟩ := askCatalogue_of_not_canCall hCall
    rw [hAsk]
    exact h

end World

namespace Assistant

theorem sound_send (history : List Message) (text : Text) {world : World} (h : world.link.Sound) :
    (send history text world).2.link.Sound := by
  obtain ⟨listing, checked, asked, hSends⟩ := exists_sends history text world
  obtain ⟨reachable, hCheck, hReplies⟩ := hSends.check
  intro hVerified
  exact hReplies.client (hCheck.sound h (hReplies.of_verified hVerified).1)

theorem sound_verify {world : World} (h : world.link.Sound) : (verify world).2.link.Sound := by
  have hAsked := World.sound_askCatalogue h
  unfold verify
  dsimp only
  split
  · exact hAsked
  · split <;> exact hAsked

@[simp] theorem counts_verify (world : World) : (verify world).2.counts = world.counts := by
  have hAsked := world.counts_askCatalogue
  unfold verify
  dsimp only
  split
  · exact hAsked
  · split <;> exact hAsked

@[simp] theorem counts_loadPrompt (world : World) : (loadPrompt world).2.counts = world.counts := by
  unfold loadPrompt
  dsimp only
  split
  · exact World.counts_say ..
  · split
    · rfl
    · split
      · exact World.counts_say ..
      · rfl

@[simp] theorem counts_request (history : List Message) (text : Text) (world : World) :
    (request history text world).2.counts = world.counts := by
  have hClient := world.counts_client
  unfold request buildConversation
  generalize world.client = making at hClient ⊢
  obtain ⟨made, asked⟩ := making
  cases made with
  | error failure => exact hClient
  | ok =>
      have hPrompt := counts_loadPrompt asked
      dsimp only
      generalize loadPrompt asked = loading at hPrompt ⊢
      obtain ⟨instructions, loaded⟩ := loading
      cases instructions with
      | error error => exact hPrompt.trans hClient
      | ok instructions => exact hPrompt.trans hClient

theorem counts_record (result : ChatResult) (seconds : Option Float) (world : World) :
    (record result seconds world).counts =
      world.counts.countChat world.settings.assistant.model result seconds :=
  (World.counts_say ..).trans (World.counts_count (Metrics.counting_countChat _ _ _) world)

/-- A question as it went: whether the check before it succeeded, whether the instructions could be read behind the
check, whether the server was asked to continue a conversation, the seconds that it took from there on, and the
answer. -/
structure Question where
  reachable : Bool
  instructed : Bool
  called : Bool
  seconds : Float
  answer : Except ShapeFault Text

namespace Question

def of (history : List Message) (text : Text) (world : World) : Question :=
  let (reachable, checked) := world.startMetrics.checkServer
  let (answer, after) := send history text world
  { reachable := reachable
    instructed := (loadPrompt checked).1.isOk
    called := !(conversations world after).isEmpty
    seconds := after.clock - checked.clock
    answer := answer }

/-- All that a question can do to the counters. -/
inductive Counts (question : Question) (before : Metrics) : Metrics → Prop
  | fault {after : Metrics} (hAnswer : question.answer.isOk = false) (hAfter : after = before) :
      Counts question before after
  | unreachable (model : Text) (result : ChatResult) {after : Metrics} (hAnswer : question.answer.isOk = true)
      (hReachable : question.reachable = false) (hAfter : after = before.countChat model result none) :
      Counts question before after
  | timed (model : Text) (result : ChatResult) {after : Metrics} (hAnswer : question.answer.isOk = true)
      (hReachable : question.reachable = true)
      (hAfter : after = before.countChat model result (some question.seconds)) :
      Counts question before after

theorem Counts.exists_eq {question : Question} {before after : Metrics} (h : question.Counts before after) :
    ∃ chats latency, after = { before with chats := chats, latency := latency } := by
  cases h with
  | fault _ hAfter => exact ⟨_, _, hAfter⟩
  | unreachable _ _ _ _ hAfter => exact ⟨_, _, hAfter⟩
  | timed _ _ _ _ hAfter => exact ⟨_, _, hAfter⟩

end Question

theorem clock_record (result : ChatResult) (seconds : Option Float) (world : World) :
    (record result seconds world).clock = world.clock :=
  (alike_record result seconds world).clock

theorem counts_send (history : List Message) (text : Text) (world : World) :
    (Question.of history text world).Counts world.counts (send history text world).2.counts := by
  have hChecked : world.startMetrics.checkServer.2.counts = world.counts := by
    rw [World.counts_checkServer, World.counts_startMetrics]
  rw [Question.of, send]
  generalize world.startMetrics.checkServer = checking at hChecked ⊢
  obtain ⟨reachable, checked⟩ := checking
  cases reachable with
  | false =>
      refine .unreachable checked.settings.assistant.model .error rfl rfl ?_
      rw [← hChecked]
      exact counts_record ..
  | true =>
      have hRequest := counts_request history text checked
      simp only [Bool.not_true, Bool.false_eq_true, if_false]
      generalize request history text checked = requesting at hRequest ⊢
      obtain ⟨answer, requested⟩ := requesting
      rw [hChecked] at hRequest
      cases answer with
      | error failure =>
          have hSaid := World.counts_say (.failedRequest (.ofText World.failureKind failure)) requested
          dsimp only
          generalize requested.say (.failedRequest (.ofText World.failureKind failure)) = said at hSaid ⊢
          have hCounts := counts_record .error (some (said.clock - checked.clock)) said
          have hClock := clock_record .error (some (said.clock - checked.clock)) said
          generalize record .error (some (said.clock - checked.clock)) said = recorded at hCounts hClock ⊢
          rw [hSaid, hRequest, ← hClock] at hCounts
          exact .timed said.settings.assistant.model .error rfl rfl hCounts
      | ok reply =>
          dsimp only at hRequest ⊢
          cases hReply : replyText reply with
          | error fault => exact .fault rfl hRequest
          | ok content =>
              by_cases hBlank : Text.isBlankText content
              · simp only [if_pos hBlank]
                refine .timed requested.settings.assistant.model .empty rfl rfl ?_
                rw [counts_record, clock_record, hRequest]
              · simp only [if_neg hBlank]
                refine .timed requested.settings.assistant.model .success rfl rfl ?_
                rw [counts_record, clock_record, hRequest]

/-- A question reaches the server exactly if the check before it succeeded and its instructions can be read. -/
theorem Question.called_of (history : List Message) (text : Text) {world : World} (h : world.link.Sound) :
    (of history text world).called =
      ((of history text world).reachable && (of history text world).instructed) := by
  have hEvents := events_send history text world
  obtain ⟨listing, hCheck⟩ := world.startMetrics.exists_checks
  replace hCheck := hCheck.of_alike world.alike_startMetrics
  obtain ⟨before, hBefore, hUnasked⟩ := hCheck.exists_events_unasked
  rw [of]
  generalize world.startMetrics.checkServer = checking at hEvents hCheck hBefore ⊢
  obtain ⟨reachable, checked⟩ := checking
  cases reachable with
  | false =>
      have hNone : conversations world (send history text world).2 = [] :=
        (conversations_eq (hEvents.trans hBefore)).trans hUnasked
      simp [hNone]
  | true =>
      -- The check has left a client behind, so only the instructions can keep the request from the server.
      have hCall : checked.CanCall := Or.inl (hCheck.sound h hCheck.verified)
      obtain ⟨noticed, hNoticed, hTurns⟩ := exists_request_events history text checked
      have hAll : (send history text world).2.events = world.events ++ (before ++ noticed) := by
        rw [← List.append_assoc, ← hBefore, ← hNoticed]
        exact hEvents
      have hConversations := conversations_eq hAll
      rw [conversationsOf_append, hUnasked, List.nil_append] at hConversations
      rcases hTurns with ⟨hUnread, hNone⟩ | ⟨instructions, hPrompt, hOne⟩
      · have hFault : (loadPrompt checked).1.isOk = false :=
          Bool.eq_false_iff.2 fun hRead => hUnread ⟨hCall, hRead⟩
        simp [hConversations, hNone, hFault]
      · simp [hConversations, hOne, hPrompt, Except.isOk, Except.toBool]

end Assistant

end PhantomHost
