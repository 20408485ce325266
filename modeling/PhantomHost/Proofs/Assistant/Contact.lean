import PhantomHost.Proofs.World.Frame
/-!
What a check and a question do with the server: which of its two calls they make, whether it answers, and
what the link remembers afterwards.

`Checks` and `Replies` list all that a check, and a question behind it, can do, one constructor for each way;
`Sends` puts the two together. What holds of every call is proved from them, by cases.
-/
namespace PhantomHost

/-- All answers of a script, those to come as well. -/
def Script.answers {α : Type} (script : Script α) : List α :=
  script.first :: script.later

@[simp] theorem Script.next_fst {α : Type} (script : Script α) : script.next.1 = script.first := by
  unfold next
  split <;> rfl

theorem Script.answers_next_subset {α : Type} (script : Script α) :
    script.next.2.answers ⊆ script.answers := by
  unfold next
  split
  · exact fun _ h => h
  · rename_i second rest hLater
    rw [answers, answers, hLater]
    exact List.subset_cons_self ..

/-- A call that the server got, for its models or for a reply, and whether it answered. -/
inductive Contact where
  | listed (answered : Bool)
  | asked (answered : Bool)
  deriving DecidableEq

/-- What events mean, for a server that answers from the start of its scripts. -/
def contactsOf (server : ModelServer) (events : List ServerEvent) : List Contact :=
  events.filterMap fun
    | .constructed _ _ => none
    | .listed => some (.listed server.catalogues.first.answer.isOk)
    | .asked _ _ _ => some (.asked server.replies.first.answer.isOk)

/-- The calls that the server got between two worlds. No operation of the assistant makes one call twice, so
the answers are those that stand first in the scripts. -/
def contacts (before after : World) : List Contact :=
  contactsOf before.server (after.events.drop before.events.length)

@[simp] theorem contactsOf_append (server : ModelServer) (events later : List ServerEvent) :
    contactsOf server (events ++ later) = contactsOf server events ++ contactsOf server later :=
  List.filterMap_append

theorem contacts_eq {before after : World} {events : List ServerEvent}
    (h : after.events = before.events ++ events) :
    contacts before after = contactsOf before.server events := by
  rw [contacts, h, List.drop_left]

namespace World

/-- What no call of the assistant changes: the settings, and how many sessions are counted as open. -/
structure Steady (before after : World) : Prop where
  settings : after.settings = before.settings
  activeSessions : after.metrics.activeSessions = before.metrics.activeSessions

theorem Steady.trans {first second third : World} (h : first.Steady second) (h' : second.Steady third) :
    first.Steady third :=
  ⟨h'.settings.trans h.settings, h'.activeSessions.trans h.activeSessions⟩

/-- Two worlds that differ at most in other counts, and in what is logged, stored and numbered. -/
structure Alike (before after : World) : Prop where
  steady : before.Steady after
  clock : after.clock = before.clock
  server : after.server = before.server
  events : after.events = before.events
  link : after.link = before.link

theorem Alike.refl (world : World) : world.Alike world :=
  ⟨⟨rfl, rfl⟩, rfl, rfl, rfl, rfl⟩

theorem Alike.trans {first second third : World} (h : first.Alike second) (h' : second.Alike third) :
    first.Alike third :=
  ⟨h.steady.trans h'.steady, h'.clock.trans h.clock, h'.server.trans h.server,
    h'.events.trans h.events, h'.link.trans h.link⟩

/-- The same judgement about the server keeps two worlds alike. -/
theorem Alike.judge {before after : World} (h : before.Alike after) (verified : Bool) :
    { before with link := { before.link with verified := verified } }.Alike
      { after with link := { after.link with verified := verified } } :=
  ⟨⟨h.steady.settings, h.steady.activeSessions⟩, h.clock, h.server, h.events, by rw [h.link]⟩

theorem alike_say (notice : Notice) (world : World) : world.Alike (world.say notice) := by
  obtain ⟨log, heard, disk, hSay⟩ := world.say_eq notice
  rw [hSay]
  exact ⟨⟨rfl, rfl⟩, rfl, rfl, rfl, rfl⟩

theorem alike_startMetrics (world : World) : world.Alike world.startMetrics := by
  unfold startMetrics
  split
  · exact .refl world
  · obtain ⟨⟨hSettings, hActive⟩, hClock, hServer, hEvents, hLink⟩ :=
      alike_say .countersMade { world with metrics := { world.metrics with started := some world.clock } }
    exact ⟨⟨hSettings, hActive⟩, hClock, hServer, hEvents, hLink⟩

theorem alike_count {change : Metrics → Metrics}
    (h : ∀ metrics, (change metrics).activeSessions = metrics.activeSessions) (world : World) :
    world.Alike (world.count change) := by
  obtain ⟨⟨hSettings, hActive⟩, hClock, hServer, hEvents, hLink⟩ := world.alike_startMetrics
  exact ⟨⟨hSettings, (h _).trans hActive⟩, hClock, hServer, hEvents, hLink⟩

/-! ### The client -/

/-- A client has been made, or the server lets one be made. -/
def CanCall (world : World) : Prop :=
  world.link.client = true ∨ world.server.refusal = none

/-- What the server notices of the making of a client, if there is none yet. -/
def clientEvents (world : World) : List ServerEvent :=
  if world.link.client then []
  else [.constructed world.settings.assistant.host world.settings.assistant.timeout]

@[simp] theorem contactsOf_clientEvents (server : ModelServer) (world : World) :
    contactsOf server world.clientEvents = [] := by
  unfold clientEvents
  split <;> rfl

/-- The world after a client has been made, unless there was one. -/
def withClient (world : World) : World :=
  { world with
    events := world.events ++ world.clientEvents
    link := { world.link with client := true } }

theorem client_of_canCall {world : World} (h : world.CanCall) :
    world.client = (.ok (), world.withClient) := by
  cases hClient : world.link.client with
  | true =>
      have hLink : { world.link with client := true } = world.link := by rw [← hClient]
      rw [client, withClient, clientEvents, if_pos hClient, if_pos hClient, List.append_nil, hLink]
  | false =>
      have hRefusal : world.server.refusal = none := h.resolve_left (by simp [hClient])
      simp [client, withClient, clientEvents, observe, hClient, hRefusal]

theorem client_of_not_canCall {world : World} (h : ¬world.CanCall) :
    ∃ text, world.server.refusal = some text ∧
      world.client = (.error text, { world with events := world.events ++ world.clientEvents }) := by
  have hClient : world.link.client = false := Bool.eq_false_iff.2 fun hMade => h (Or.inl hMade)
  obtain ⟨text, hRefusal⟩ := Option.ne_none_iff_exists'.1 fun hNone => h (Or.inr hNone)
  exact ⟨text, hRefusal, by simp [client, clientEvents, observe, hClient, hRefusal]⟩

theorem askCatalogue_of_canCall {world : World} (h : world.CanCall) :
    world.askCatalogue = (world.server.catalogues.first.answer, { world with
      events := world.events ++ world.clientEvents ++ [.listed]
      link := { world.link with client := true }
      server := { world.server with catalogues := world.server.catalogues.next.2 }
      clock := world.clock + world.server.catalogues.first.seconds }) := by
  rw [askCatalogue, client_of_canCall h]
  simp only [withClient, observe, pass, Script.next_fst]

theorem askCatalogue_of_not_canCall {world : World} (h : ¬world.CanCall) :
    ∃ text, world.server.refusal = some text ∧
      world.askCatalogue =
        (.error text, { world with events := world.events ++ world.clientEvents }) := by
  obtain ⟨text, hRefusal, hClient⟩ := client_of_not_canCall h
  exact ⟨text, hRefusal, by rw [askCatalogue, hClient]⟩

/-! ### The check -/

/-- The world at the beginning of a new check. -/
def beginCheck (world : World) : World :=
  { world with link := { world.link with lastCheck := world.clock } }

/-- A new check is a question for the models, and remembers whether it was answered. -/
theorem checkServer_of_stale {world : World} (h : world.checkIsFresh = false) :
    let (answer, asked) := world.beginCheck.askCatalogue
    world.checkServer.1 = answer.isOk ∧
      { asked with link := { asked.link with verified := answer.isOk } }.Alike world.checkServer.2 := by
  rw [checkServer, if_neg (by simp [h])]
  simp only [beginCheck]
  obtain ⟨answer, asked⟩ := askCatalogue { world with link := { world.link with lastCheck := world.clock } }
  cases answer with
  | ok catalogue => exact ⟨rfl, .refl _⟩
  | error text =>
      exact ⟨rfl, (alike_say (.unreachable (.ofText failureKind text)) asked).judge false⟩

/-- All that a check can do, with the calls that the server gets of it: it relies on the one before, or it is a
new one, which fails if there can be no client and has the answer of the server otherwise. -/
inductive Checks (world : World) : Bool → List Contact → World → Prop
  | fresh {reachable : Bool} {after : World} (hFresh : world.checkIsFresh = true)
      (hVerified : world.link.verified = reachable) (hSteady : world.Steady after)
      (hServer : after.server = world.server) (hEvents : after.events = world.events)
      (hLink : after.link = world.link) :
      Checks world reachable [] after
  | refused {after : World} (hStale : world.checkIsFresh = false) (hCall : ¬world.CanCall)
      (hSteady : world.Steady after) (hServer : after.server = world.server)
      (hEvents : after.events = world.events ++ world.clientEvents)
      (hLink : after.link = ⟨world.link.client, false, world.clock⟩) :
      Checks world false [] after
  | listed {reachable : Bool} {after : World} (hStale : world.checkIsFresh = false) (hCall : world.CanCall)
      (hAnswer : world.server.catalogues.first.answer.isOk = reachable)
      (hSteady : world.Steady after)
      (hServer : after.server = { world.server with catalogues := world.server.catalogues.next.2 })
      (hEvents : after.events = world.events ++ world.clientEvents ++ [.listed])
      (hLink : after.link = ⟨true, reachable, world.clock⟩) :
      Checks world reachable [.listed reachable] after

theorem exists_checks (world : World) :
    ∃ listing, world.Checks world.checkServer.1 listing world.checkServer.2 := by
  cases hFresh : world.checkIsFresh with
  | true =>
      rw [checkServer, if_pos hFresh]
      exact ⟨_, .fresh hFresh rfl ⟨rfl, rfl⟩ rfl rfl rfl⟩
  | false =>
      have hNew := checkServer_of_stale hFresh
      by_cases hCall : world.CanCall
      · rw [askCatalogue_of_canCall (show world.beginCheck.CanCall from hCall)] at hNew
        obtain ⟨hReachable, hAlike⟩ := hNew
        exact ⟨_, .listed hFresh hCall hReachable.symm ⟨hAlike.steady.settings, hAlike.steady.activeSessions⟩
          hAlike.server hAlike.events
          (by rw [hReachable]; exact hAlike.link)⟩
      · obtain ⟨text, hRefusal, hAsk⟩ :=
          askCatalogue_of_not_canCall (show ¬world.beginCheck.CanCall from hCall)
        rw [hAsk] at hNew
        obtain ⟨hReachable, hAlike⟩ := hNew
        rw [hReachable]
        exact ⟨_, .refused hFresh hCall ⟨hAlike.steady.settings, hAlike.steady.activeSessions⟩
          hAlike.server hAlike.events hAlike.link⟩

theorem Alike.checkIsFresh {before world : World} (h : before.Alike world) :
    world.checkIsFresh = before.checkIsFresh := by
  rw [World.checkIsFresh, World.checkIsFresh, h.steady.settings, h.clock, h.link]

theorem Alike.clientEvents {before world : World} (h : before.Alike world) :
    world.clientEvents = before.clientEvents := by
  rw [World.clientEvents, World.clientEvents, h.steady.settings, h.link]

theorem Alike.canCall_iff {before world : World} (h : before.Alike world) :
    world.CanCall ↔ before.CanCall := by
  rw [CanCall, CanCall, h.server, h.link]

/-- A check takes nothing from what is counted and logged. -/
theorem Checks.of_alike {before world after : World} {reachable : Bool} {listing : List Contact}
    (h : before.Alike world) (hCheck : world.Checks reachable listing after) :
    before.Checks reachable listing after := by
  cases hCheck with
  | fresh hFresh hVerified hSteady hServer hEvents hLink =>
      rw [h.link] at hVerified
      exact .fresh (h.checkIsFresh ▸ hFresh) hVerified (h.steady.trans hSteady)
        (hServer.trans h.server) (hEvents.trans h.events) (hLink.trans h.link)
  | refused hStale hCall hSteady hServer hEvents hLink =>
      rw [h.events, h.clientEvents] at hEvents
      rw [h.link, h.clock] at hLink
      exact .refused (h.checkIsFresh ▸ hStale) (mt h.canCall_iff.2 hCall) (h.steady.trans hSteady)
        (hServer.trans h.server) hEvents hLink
  | listed hStale hCall hAnswer hSteady hServer hEvents hLink =>
      rw [h.events, h.clientEvents] at hEvents
      rw [h.clock] at hLink
      rw [h.server] at hAnswer hServer
      exact .listed (h.checkIsFresh ▸ hStale) (h.canCall_iff.1 hCall) hAnswer (h.steady.trans hSteady)
        hServer hEvents hLink

section

variable {world after : World} {reachable : Bool} {listing : List Contact}

theorem Checks.exists_events (h : world.Checks reachable listing after) :
    ∃ noticed, after.events = world.events ++ noticed ∧ contactsOf world.server noticed = listing := by
  cases h with
  | fresh _ _ _ _ hEvents => exact ⟨[], by rw [hEvents, List.append_nil], rfl⟩
  | refused _ _ _ _ hEvents => exact ⟨_, hEvents, contactsOf_clientEvents ..⟩
  | listed _ _ hAnswer _ _ hEvents =>
      refine ⟨_, hEvents.trans (List.append_assoc ..), ?_⟩
      rw [contactsOf_append, contactsOf_clientEvents, ← hAnswer]
      rfl

theorem Checks.contacts_eq (h : world.Checks reachable listing after) : contacts world after = listing := by
  obtain ⟨noticed, hNoticed, hListing⟩ := h.exists_events
  rw [PhantomHost.contacts_eq hNoticed, hListing]

theorem Checks.asked_notMem (h : world.Checks reachable listing after) (answered : Bool) :
    .asked answered ∉ listing := by
  cases h <;> simp

/-- What a check says is what the link remembers. -/
theorem Checks.verified (h : world.Checks reachable listing after) : after.link.verified = reachable := by
  cases h with
  | fresh _ hVerified _ _ _ hLink => rw [hLink, hVerified]
  | refused _ _ _ _ _ hLink => rw [hLink]
  | listed _ _ _ _ _ _ hLink => rw [hLink]

/-- A check leaves the answers to questions as they are. -/
theorem Checks.replies (h : world.Checks reachable listing after) :
    after.server.replies = world.server.replies := by
  cases h with
  | fresh _ _ _ hServer => rw [hServer]
  | refused _ _ _ hServer => rw [hServer]
  | listed _ _ _ _ hServer => rw [hServer]

theorem Checks.steady (h : world.Checks reachable listing after) : world.Steady after := by
  cases h with
  | fresh _ _ hSteady => exact hSteady
  | refused _ _ hSteady => exact hSteady
  | listed _ _ _ hSteady => exact hSteady

end

end World

theorem Metrics.activeSessions_countChat (model : Text) (result : ChatResult) (seconds : Option Float)
    (metrics : Metrics) :
    (metrics.countChat model result seconds).activeSessions = metrics.activeSessions := rfl

namespace Assistant

theorem alike_loadPrompt (world : World) : world.Alike (loadPrompt world).2 := by
  unfold loadPrompt
  simp only
  split
  · exact World.alike_say ..
  · split
    · exact .refl world
    · split
      · exact World.alike_say ..
      · exact .refl world

theorem alike_record (result : ChatResult) (seconds : Option Float) (world : World) :
    world.Alike (record result seconds world) :=
  (World.alike_count (Metrics.activeSessions_countChat world.settings.assistant.model result seconds) world).trans
    (World.alike_say ..)

/-! ### The question -/

/-- All that a request can do: it fails before the server is asked, or it has the answer of the server. -/
inductive Requests (world : World) : List Contact → Except Text Json → World → Prop
  | unasked {failure : Text} {made : Bool} {after : World} (hMade : world.link.client = true → made = true)
      (hSteady : world.Steady after) (hServer : after.server = world.server)
      (hEvents : after.events = world.events ++ world.clientEvents)
      (hLink : after.link = { world.link with client := made }) :
      Requests world [] (.error failure) after
  | asked {model : Text} {turns : List PhantomHost.Turn} {temperature : Float} {answer : Except Text Json}
      {after : World} (hAnswer : world.server.replies.first.answer = answer)
      (hSteady : world.Steady after)
      (hServer : after.server = { world.server with replies := world.server.replies.next.2 })
      (hEvents : after.events = world.events ++ world.clientEvents ++ [.asked model turns temperature])
      (hLink : after.link = { world.link with client := true }) :
      Requests world [.asked answer.isOk] answer after

theorem exists_requests (history : List Message) (text : Text) (world : World) :
    ∃ asked, Requests world asked (request history text world).1 (request history text world).2 := by
  by_cases hCall : world.CanCall
  · have hAlike := alike_loadPrompt world.withClient
    simp only [request, World.client_of_canCall hCall, buildConversation]
    generalize loadPrompt world.withClient = loading at hAlike ⊢
    obtain ⟨instructions, loaded⟩ := loading
    have hSteady : world.Steady loaded := ⟨hAlike.steady.settings, hAlike.steady.activeSessions⟩
    cases instructions with
    | error error =>
        exact ⟨_, .unasked (fun _ => rfl) hSteady hAlike.server hAlike.events hAlike.link⟩
    | ok instructions =>
        have hServer : loaded.server = world.server := hAlike.server
        have hEvents (turns : List PhantomHost.Turn) : (loaded.askReply turns).2.events =
            world.events ++ world.clientEvents ++
              [.asked loaded.settings.assistant.model turns loaded.settings.assistant.temperature] :=
          congrArg (· ++ _) hAlike.events
        refine ⟨_, .asked ?_ ⟨hSteady.settings, hSteady.activeSessions⟩ ?_ (hEvents _) hAlike.link⟩
        · rw [← hServer]
          exact congrArg Timed.answer (Script.next_fst _).symm
        · rw [← hServer]
          rfl
  · obtain ⟨failure, hRefusal, hClient⟩ := World.client_of_not_canCall hCall
    rw [request, hClient]
    exact ⟨_, .unasked id ⟨rfl, rfl⟩ rfl rfl rfl⟩

theorem Requests.exists_events {world after : World} {asked : List Contact} {answer : Except Text Json}
    (h : Requests world asked answer after) :
    ∃ noticed, after.events = world.events ++ noticed ∧
      ∀ server : ModelServer, server.replies = world.server.replies → contactsOf server noticed = asked := by
  cases h with
  | unasked _ _ _ hEvents => exact ⟨_, hEvents, fun server _ => World.contactsOf_clientEvents server world⟩
  | asked hAnswer _ _ hEvents =>
      refine ⟨_, hEvents.trans (List.append_assoc ..), ?_⟩
      intro server hServer
      rw [contactsOf_append, World.contactsOf_clientEvents, ← hAnswer, ← hServer]
      rfl

theorem Requests.steady {world after : World} {asked : List Contact} {answer : Except Text Json}
    (h : Requests world asked answer after) : world.Steady after := by
  cases h with
  | unasked _ hSteady => exact hSteady
  | asked _ hSteady => exact hSteady

theorem Requests.answers_subset {world after : World} {asked : List Contact} {answer : Except Text Json}
    (h : Requests world asked answer after) :
    after.server.replies.answers ⊆ world.server.replies.answers := by
  cases h with
  | unasked _ _ hServer =>
      rw [hServer]
      exact List.Subset.refl _
  | asked _ _ hServer =>
      rw [hServer]
      exact Script.answers_next_subset _

/-- The reply for a text that the server gave. -/
def shownReply (content : Text) : Text :=
  if Text.isBlankText content then noReply else content

/-- All that can follow a check in the world after it: which answer the server gives to the question, what is
replied, and what the link remembers. -/
inductive Replies (checked : World) : Bool → List Contact → Except ShapeFault Text → Link → Prop
  | unreachable :
      Replies checked false [] (.ok ("Error: Cannot connect to Ollama at " ++
        checked.settings.assistant.host ++ ". Run: ollama serve")) checked.link
  | unasked {failure : Text} {made : Bool} (hMade : checked.link.client = true → made = true) :
      Replies checked true [] (.ok ("Error: " ++ failureText failure)) ⟨made, false, checked.link.lastCheck⟩
  | failed {failure : Text} (hAnswer : checked.server.replies.first.answer = .error failure) :
      Replies checked true [.asked false] (.ok ("Error: " ++ failureText failure))
        ⟨true, false, checked.link.lastCheck⟩
  | misshapen {reply : Json} {fault : ShapeFault}
      (hAnswer : checked.server.replies.first.answer = .ok reply) (hReply : replyText reply = .error fault) :
      Replies checked true [.asked true] (.error fault) { checked.link with client := true }
  | answered {reply : Json} {content : Text}
      (hAnswer : checked.server.replies.first.answer = .ok reply) (hReply : replyText reply = .ok content) :
      Replies checked true [.asked true] (.ok (shownReply content)) { checked.link with client := true }

section

variable {checked : World} {reachable : Bool} {asked : List Contact} {result : Except ShapeFault Text}
  {link : Link}

/-- The server is asked at most once, and only behind a check that succeeded. -/
theorem Replies.asked_cases (h : Replies checked reachable asked result link) :
    asked = [] ∨ reachable = true ∧ ∃ answered, asked = [.asked answered] := by
  cases h with
  | unreachable => exact Or.inl rfl
  | unasked => exact Or.inl rfl
  | failed => exact Or.inr ⟨rfl, false, rfl⟩
  | misshapen => exact Or.inr ⟨rfl, true, rfl⟩
  | answered => exact Or.inr ⟨rfl, true, rfl⟩

theorem Replies.client (h : Replies checked reachable asked result link)
    (hClient : checked.link.client = true) : link.client = true := by
  cases h with
  | unreachable => exact hClient
  | unasked hMade => exact hMade hClient
  | failed => rfl
  | misshapen => rfl
  | answered => rfl

theorem Replies.lastCheck (h : Replies checked reachable asked result link) :
    link.lastCheck = checked.link.lastCheck := by
  cases h <;> rfl

/-- The server counts as reachable afterwards only if the check said so and it did not fail to reply. -/
theorem Replies.of_verified (h : Replies checked reachable asked result link) (hVerified : link.verified = true) :
    checked.link.verified = true ∧ .asked false ∉ asked := by
  cases h with
  | unreachable => exact ⟨hVerified, by simp⟩
  | unasked => cases hVerified
  | failed => cases hVerified
  | misshapen => exact ⟨hVerified, by simp⟩
  | answered => exact ⟨hVerified, by simp⟩

/-- Without a reply of the server the answer is an error. -/
theorem Replies.exists_error (h : Replies checked reachable asked result link) (hAsked : .asked true ∉ asked) :
    ∃ text, result = .ok ("Error: " ++ text) := by
  cases h with
  | unreachable => exact ⟨_, congrArg _ (List.append_assoc ..)⟩
  | unasked => exact ⟨_, rfl⟩
  | failed => exact ⟨_, rfl⟩
  | misshapen => simp at hAsked
  | answered => simp at hAsked

end

/-- What a question does: a check, and what follows it. -/
structure Sends (world : World) (listing : List Contact) (checked : World) (asked : List Contact)
    (result : Except ShapeFault Text) (after : World) : Prop where
  check : ∃ reachable, world.Checks reachable listing checked ∧
    Replies checked reachable asked result after.link
  calls : contacts world after = listing ++ asked
  steady : world.Steady after
  script : after.server.replies.answers ⊆ world.server.replies.answers

/-- A question behind a check that succeeded: its request, and what is remembered of it in the link. -/
theorem Sends.of_requests {world checked requested after : World} {listing asked : List Contact}
    {answer : Except Text Json} {result : Except ShapeFault Text} {link : Link}
    (hCheck : world.Checks true listing checked) (hRequest : Requests checked asked answer requested)
    (hReply : Replies checked true asked result link)
    (hAlike : { requested with link := link }.Alike after) :
    Sends world listing checked asked result after where
  check := ⟨true, hCheck, hAlike.link ▸ hReply⟩
  calls := by
    obtain ⟨before, hBefore, hListing⟩ := hCheck.exists_events
    obtain ⟨noticed, hNoticed, hAsked⟩ := hRequest.exists_events
    rw [← hListing, ← hAsked _ hCheck.replies.symm, ← contactsOf_append]
    exact contacts_eq (by rw [hAlike.events, hNoticed, hBefore, List.append_assoc])
  steady := (hCheck.steady.trans hRequest.steady).trans
    ⟨hAlike.steady.settings, hAlike.steady.activeSessions⟩
  script := by
    rw [hAlike.server, ← hCheck.replies]
    exact hRequest.answers_subset

theorem Sends.of_unreachable {world checked after : World} {listing : List Contact}
    (hCheck : world.Checks false listing checked) (hAlike : checked.Alike after) :
    Sends world listing checked [] (.ok ("Error: Cannot connect to Ollama at " ++
      checked.settings.assistant.host ++ ". Run: ollama serve")) after where
  check := ⟨false, hCheck, hAlike.link ▸ .unreachable⟩
  calls := by
    rw [List.append_nil, ← hCheck.contacts_eq, contacts, hAlike.events, contacts]
  steady := hCheck.steady.trans hAlike.steady
  script := by
    rw [hAlike.server, hCheck.replies]
    exact List.Subset.refl _

theorem Requests.replies_of_error {checked requested : World} {asked : List Contact} {failure : Text}
    (h : Requests checked asked (.error failure) requested) :
    Replies checked true asked (.ok ("Error: " ++ failureText failure))
      { requested.link with verified := false } := by
  cases h with
  | unasked hMade _ _ _ hLink =>
      rw [hLink]
      exact .unasked hMade
  | asked hAnswer _ _ _ hLink =>
      rw [hLink]
      exact .failed hAnswer

theorem Requests.replies_of_fault {checked requested : World} {asked : List Contact} {reply : Json}
    {fault : ShapeFault} (h : Requests checked asked (.ok reply) requested)
    (hReply : replyText reply = .error fault) :
    Replies checked true asked (.error fault) requested.link := by
  cases h with
  | asked hAnswer _ _ _ hLink =>
      rw [hLink]
      exact .misshapen hAnswer hReply

theorem Requests.replies_of_ok {checked requested : World} {asked : List Contact} {reply : Json}
    {content : Text} (h : Requests checked asked (.ok reply) requested)
    (hReply : replyText reply = .ok content) :
    Replies checked true asked (.ok (shownReply content)) requested.link := by
  cases h with
  | asked hAnswer _ _ _ hLink =>
      rw [hLink]
      exact .answered hAnswer hReply

theorem exists_sends (history : List Message) (text : Text) (world : World) :
    ∃ listing checked asked,
      Sends world listing checked asked (send history text world).1 (send history text world).2 := by
  obtain ⟨listing, hCheck⟩ := world.startMetrics.exists_checks
  replace hCheck := hCheck.of_alike world.alike_startMetrics
  rw [send]
  generalize world.startMetrics.checkServer = checking at hCheck ⊢
  obtain ⟨reachable, checked⟩ := checking
  cases reachable with
  | false => exact ⟨listing, checked, [], .of_unreachable hCheck (alike_record ..)⟩
  | true =>
      obtain ⟨asked, hRequest⟩ := exists_requests history text checked
      simp only [Bool.not_true, Bool.false_eq_true, if_false]
      generalize request history text checked = requesting at hRequest ⊢
      obtain ⟨answer, requested⟩ := requesting
      refine ⟨listing, checked, asked, ?_⟩
      cases answer with
      | error failure =>
          exact .of_requests hCheck hRequest hRequest.replies_of_error
            (((World.alike_say ..).trans (alike_record ..)).judge false)
      | ok reply =>
          dsimp only at hRequest ⊢
          cases hReply : replyText reply with
          | error fault =>
              exact .of_requests hCheck hRequest (hRequest.replies_of_fault hReply) (.refl _)
          | ok content =>
              have hReplies := hRequest.replies_of_ok hReply
              by_cases hBlank : Text.isBlankText content
              · rw [shownReply, if_pos hBlank] at hReplies
                simp only [if_pos hBlank]
                exact .of_requests hCheck hRequest hReplies (alike_record ..)
              · rw [shownReply, if_neg hBlank] at hReplies
                simp only [if_neg hBlank]
                exact .of_requests hCheck hRequest hReplies (alike_record ..)

end Assistant

end PhantomHost
