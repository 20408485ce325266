import Mathlib.Data.List.Induction
import PhantomHost.Proofs.Assistant.Contact
/-!
What the assistant remembers of the server over a history of checks and questions, with anything happening to
the clock and the server in between.

A listing of the models holds for an interval, counted from where it began; a question goes to the server only
if the last listing succeeded, still holds, and no question has failed since. The invariant says what the link
knows of the calls so far. Main statement: every call of a history is guarded in this way.
-/
namespace PhantomHost

namespace Assistant

/-! ### Calls -/

/-- What comes of a call: whether the server can be reached, or a text for a chat. -/
inductive Outcome where
  | checked (reachable : Bool)
  | sent (answer : Except ShapeFault Text)

/-- One call of the assistant: the clock when it began, what the server got of it, and what came of it. -/
structure Call where
  reading : Float
  contacts : List Contact
  outcome : Outcome

/-- The server was asked for its models. -/
def Call.Lists (call : Call) : Prop :=
  ∃ answered, .listed answered ∈ call.contacts

/-- A call is the last one with news, and it is of some form. -/
def Latest (form news : Call → Prop) (past : List Call) : Prop :=
  ∃ before call after, past = before ++ call :: after ∧ form call ∧ ∀ later ∈ after, ¬news later

/-- The last listing is the one that began at a reading. -/
def LastListed (past : List Call) (reading : Float) : Prop :=
  Latest (fun call => call.reading = reading ∧ call.Lists) Call.Lists past

/-- Of the listings and the questions without an answer, the last is a listing that succeeded and began at a
reading. -/
def Trusted (past : List Call) (reading : Float) : Prop :=
  Latest (fun call => call.reading = reading ∧ .listed true ∈ call.contacts ∧ .asked false ∉ call.contacts)
    (fun call => call.Lists ∨ .asked false ∈ call.contacts) past

/-- What may be done in a call after the calls before it. While the last listing holds there is no other, and a
check does nothing at all. The server is asked for a reply only behind a listing that succeeded, in the same
call or in the last one, which then holds. A question that gets no reply is answered with an error. -/
structure Guarded (interval : Float) (past : List Call) (call : Call) : Prop where
  spaced : ∀ reading, LastListed past reading → call.reading - reading < interval → ¬call.Lists
  cached : ∀ reading reachable, LastListed past reading → call.reading - reading < interval →
    call.outcome = .checked reachable → call.contacts = []
  trusted : ∀ answered, .asked answered ∈ call.contacts →
    call.contacts = [.listed true, .asked answered] ∨
    call.contacts = [.asked answered] ∧ ∃ reading, Trusted past reading ∧ call.reading - reading < interval
  told : ∀ answer, call.outcome = .sent answer → .asked true ∉ call.contacts →
    ∃ text, answer = .ok ("Error: " ++ text)

section

variable {form news : Call → Prop} {past : List Call} {call : Call}

theorem latest_snoc_self (past : List Call) (h : form call) : Latest form news (past ++ [call]) :=
  ⟨past, call, [], rfl, h, List.forall_mem_nil _⟩

theorem Latest.snoc (h : Latest form news past) (hCall : ¬news call) : Latest form news (past ++ [call]) := by
  obtain ⟨before, found, after, rfl, hForm, hAfter⟩ := h
  refine ⟨before, found, after ++ [call], by simp, hForm, ?_⟩
  intro later hLater
  rcases List.mem_append.1 hLater with hOld | hNew
  · exact hAfter later hOld
  · rwa [List.mem_singleton.1 hNew]

theorem Latest.of_snoc (h : Latest form news (past ++ [call])) :
    form call ∨ (¬news call ∧ Latest form news past) := by
  obtain ⟨before, found, after, hPast, hForm, hAfter⟩ := h
  rcases List.eq_nil_or_concat after with rfl | ⟨rest, last, rfl⟩
  · obtain ⟨-, hLast⟩ := List.append_inj' hPast rfl
    rw [List.cons.injEq] at hLast
    exact Or.inl (hLast.1 ▸ hForm)
  · rw [List.concat_eq_append, ← List.cons_append, ← List.append_assoc] at hPast
    obtain ⟨hRest, hLast⟩ := List.append_inj' hPast rfl
    rw [List.cons.injEq] at hLast
    refine Or.inr ⟨?_, before, found, rest, hRest, hForm, ?_⟩
    · rw [hLast.1]
      exact hAfter last (by simp)
    · exact fun later hLater => hAfter later (by simp [hLater])

end

/-! ### Readings -/

open Float.Model in
theorem unpacked_beq_zero {sign : UnpackedFloat.Sign} {x : UnpackedFloat}
    (h : UnpackedFloat.lt (.zero sign) x = true) : x.beq (.zero sign) = false := by
  unfold UnpackedFloat.lt at h
  cases x with
  | notANumber => cases h
  | zero => cases h
  | infinity sign =>
      cases sign with
      | positive => rfl
      | negative => cases h
  | finite sign =>
      cases sign with
      | positive => rfl
      | negative => cases h

/-- A reading above zero is told apart from there having been no check. -/
theorem ne_zero_of_pos {reading : Float} (h : 0 < reading) : (reading != 0.0) = true := by
  -- Both tests are tests of the unpacked readings, where zero has a form of its own.
  have hZero : (0 : Float).toModel.unpack = .zero .positive := by rfl
  have hLt : Float.Model.UnpackedFloat.lt (0 : Float).toModel.unpack reading.toModel.unpack = true :=
    of_decide_eq_true h
  have hBeq : (reading == 0.0) = reading.toModel.unpack.beq (0 : Float).toModel.unpack := rfl
  rw [hZero] at hLt hBeq
  rw [bne, hBeq, unpacked_beq_zero hLt]
  rfl

/-! ### The invariant -/

/-- What the link knows of the calls so far: where the last listing began, and that the server can be trusted
if the link says so. -/
structure Knows (interval : Float) (past : List Call) (world : World) : Prop where
  interval : world.settings.assistant.checkInterval = interval
  listed : ∀ reading, LastListed past reading →
    world.link.client = true ∧ world.link.lastCheck = reading ∧ 0 < reading
  trusted : world.link.verified = true → Trusted past world.link.lastCheck

section

variable {interval reading : Float} {past : List Call} {world checked after : World} {reachable : Bool}
  {listing asked : List Contact}

/-- A listing that still holds makes a check rely on it. -/
theorem Knows.checkIsFresh (h : Knows interval past world) (hListed : LastListed past reading)
    (hHolds : world.clock - reading < interval) : world.checkIsFresh = true := by
  obtain ⟨-, hLast, hPos⟩ := h.listed reading hListed
  rw [World.checkIsFresh, hLast, h.interval, ne_zero_of_pos hPos, decide_eq_true hHolds]
  rfl

theorem not_lists_of_asked (h : ∀ answered, .listed answered ∉ asked) (reading : Float) (outcome : Outcome) :
    ¬Call.Lists ⟨reading, [] ++ asked, outcome⟩ :=
  fun ⟨answered, hMem⟩ => h answered hMem

theorem lastListed_of_snoc {call : Call} (h : LastListed (past ++ [call]) reading) (hNone : ¬call.Lists) :
    LastListed past reading :=
  (h.of_snoc.resolve_left fun hNew => hNone hNew.2).2

theorem listing_of_fresh (hCheck : world.Checks reachable listing checked)
    (hFresh : world.checkIsFresh = true) : listing = [] := by
  cases hCheck with
  | fresh => rfl
  | refused => rfl
  | listed hStale => simp [hFresh] at hStale

/-- Behind a check that succeeded the server can be trusted, for a listing in this check or for an earlier one
that still holds. -/
theorem Knows.listing_of_reachable (h : Knows interval past world)
    (hCheck : world.Checks true listing checked) :
    listing = [.listed true] ∨
    listing = [] ∧ ∃ reading, Trusted past reading ∧ world.clock - reading < interval := by
  cases hCheck with
  | fresh hFresh hVerified =>
      rw [World.checkIsFresh, Bool.and_eq_true, h.interval] at hFresh
      exact Or.inr ⟨rfl, world.link.lastCheck, h.trusted hVerified, of_decide_eq_true hFresh.2⟩
  | listed => exact Or.inl rfl

/-- The link knows of a check, and of a question behind it that may have been asked. -/
theorem Knows.snoc (h : Knows interval past world) (hCheck : world.Checks reachable listing checked)
    (hReading : 0 < world.clock) (hAsked : ∀ answered, .listed answered ∉ asked)
    (hSettings : after.settings = world.settings)
    (hClient : checked.link.client = true → after.link.client = true)
    (hLast : after.link.lastCheck = checked.link.lastCheck)
    (hVerified : after.link.verified = true → reachable = true ∧ .asked false ∉ asked) (outcome : Outcome) :
    Knows interval (past ++ [⟨world.clock, listing ++ asked, outcome⟩]) after := by
  have hInterval : after.settings.assistant.checkInterval = interval := by rw [hSettings, h.interval]
  cases hCheck with
  | fresh hFresh hBefore _ _ _ hLink =>
      -- The call is no listing, so what is known of the last one stays.
      rw [hLink] at hClient hLast
      have hNone := not_lists_of_asked hAsked world.clock outcome
      refine ⟨hInterval, ?_, ?_⟩
      · intro reading hListed
        obtain ⟨hMade, hSame, hPos⟩ := h.listed reading (lastListed_of_snoc hListed hNone)
        exact ⟨hClient hMade, hLast.trans hSame, hPos⟩
      · intro hTrue
        obtain ⟨hReachable, hNoFailure⟩ := hVerified hTrue
        rw [hLast]
        exact (h.trusted (hBefore.trans hReachable)).snoc fun hNews => hNews.elim hNone hNoFailure
  | refused hStale hCall _ _ _ hLink =>
      -- There has been no listing so far: it would have left a client behind.
      have hNone := not_lists_of_asked hAsked world.clock outcome
      refine ⟨hInterval, ?_, ?_⟩
      · intro reading hListed
        obtain ⟨hMade, -, -⟩ := h.listed reading (lastListed_of_snoc hListed hNone)
        exact absurd (Or.inl hMade) hCall
      · intro hTrue
        cases (hVerified hTrue).1
  | listed _ _ _ _ _ _ hLink =>
      rw [hLink] at hClient hLast
      have hLists : Call.Lists ⟨world.clock, [.listed reachable] ++ asked, outcome⟩ :=
        ⟨reachable, List.mem_append_left _ List.mem_cons_self⟩
      refine ⟨hInterval, ?_, ?_⟩
      · intro reading hListed
        rcases hListed.of_snoc with ⟨rfl, -⟩ | ⟨hNone, -⟩
        · exact ⟨hClient rfl, hLast, hReading⟩
        · exact absurd hLists hNone
      · intro hTrue
        obtain ⟨rfl, hNoFailure⟩ := hVerified hTrue
        refine latest_snoc_self past ⟨hLast.symm, ?_, ?_⟩
        · exact List.mem_append_left _ List.mem_cons_self
        · simpa using hNoFailure

/-- Every call is guarded that consists of a check and a question that may follow it. -/
theorem Knows.guarded (h : Knows interval past world) (hCheck : world.Checks reachable listing checked)
    (hAsked : asked = [] ∨ reachable = true ∧ ∃ answered, asked = [.asked answered]) {outcome : Outcome}
    (hChecked : ∀ found, outcome = .checked found → asked = [])
    (hTold : ∀ answer, outcome = .sent answer → .asked true ∉ asked →
      ∃ text, answer = .ok ("Error: " ++ text)) :
    Guarded interval past ⟨world.clock, listing ++ asked, outcome⟩ where
  spaced := by
    rintro reading hListed hHolds ⟨answered, hMem⟩
    obtain rfl := listing_of_fresh hCheck (h.checkIsFresh hListed hHolds)
    rcases hAsked with rfl | ⟨-, other, rfl⟩ <;> simp at hMem
  cached := by
    intro reading found hListed hHolds hOutcome
    obtain rfl := listing_of_fresh hCheck (h.checkIsFresh hListed hHolds)
    exact hChecked found hOutcome
  trusted := by
    intro answered hMem
    replace hMem := (List.mem_append.1 hMem).resolve_left (hCheck.asked_notMem answered)
    rcases hAsked with rfl | ⟨rfl, other, rfl⟩
    · cases hMem
    · obtain rfl : answered = other := by simpa using hMem
      rcases h.listing_of_reachable hCheck with rfl | ⟨rfl, hTrusted⟩
      · exact Or.inl rfl
      · exact Or.inr ⟨rfl, hTrusted⟩
  told := by
    intro answer hOutcome hNone
    exact hTold answer hOutcome fun hMem => hNone (List.mem_append_right _ hMem)

end

/-! ### Histories -/

/-- What is done: a check, a question, or meanwhile anything, to the clock and the server for instance, that
leaves alone what the link remembers and for how long it does. -/
inductive Act where
  | check
  | send (history : List Message) (text : Text)
  | meanwhile (change : World → World) (hLink : ∀ world, (change world).link = world.link)
      (hInterval : ∀ world, (change world).settings.assistant.checkInterval =
        world.settings.assistant.checkInterval)

/-- The call that an act is, if it is one, and the world after it. -/
def perform (world : World) : Act → Option Call × World
  | .check =>
    let (reachable, after) := world.checkServer
    (some ⟨world.clock, contacts world after, .checked reachable⟩, after)
  | .send history text =>
    let (answer, after) := send history text world
    (some ⟨world.clock, contacts world after, .sent answer⟩, after)
  | .meanwhile change _ _ => (none, change world)

/-- The calls of a history. -/
def calls : List Act → World → List Call
  | [], _ => []
  | act :: rest, world =>
    match perform world act with
    | (none, after) => calls rest after
    | (some call, after) => call :: calls rest after

section

variable {interval : Float} {past : List Call} {world : World}

theorem Knows.check (h : Knows interval past world) (hReading : 0 < world.clock) :
    let call : Call := ⟨world.clock, contacts world world.checkServer.2, .checked world.checkServer.1⟩
    Knows interval (past ++ [call]) world.checkServer.2 ∧ Guarded interval past call := by
  obtain ⟨listing, hCheck⟩ := world.exists_checks
  generalize world.checkServer.1 = reachable, world.checkServer.2 = after at hCheck ⊢
  rw [hCheck.contacts_eq, ← List.append_nil listing]
  refine ⟨?_, h.guarded hCheck (Or.inl rfl) (fun _ _ => rfl) nofun⟩
  refine h.snoc hCheck hReading (by simp) hCheck.steady.settings id rfl ?_ _
  intro hTrue
  exact ⟨hCheck.verified.symm.trans hTrue, by simp⟩

theorem Knows.send (h : Knows interval past world) (hReading : 0 < world.clock) (history : List Message)
    (text : Text) :
    let (answer, after) := send history text world
    let call : Call := ⟨world.clock, contacts world after, .sent answer⟩
    Knows interval (past ++ [call]) after ∧ Guarded interval past call := by
  obtain ⟨listing, checked, asked, hSends⟩ := exists_sends history text world
  generalize Assistant.send history text world = sending at hSends ⊢
  obtain ⟨answer, after⟩ := sending
  obtain ⟨⟨reachable, hCheck, hReplies⟩, hCalls, hSteady, -⟩ := hSends
  simp only at hCalls hSteady hReplies ⊢
  rw [hCalls]
  refine ⟨?_, h.guarded hCheck hReplies.asked_cases nofun ?_⟩
  · refine h.snoc hCheck hReading ?_ hSteady.settings hReplies.client hReplies.lastCheck ?_ _
    · intro answered
      rcases hReplies.asked_cases with rfl | ⟨-, other, rfl⟩ <;> simp
    · intro hTrue
      obtain ⟨hVerified, hNoFailure⟩ := hReplies.of_verified hTrue
      exact ⟨hCheck.verified.symm.trans hVerified, hNoFailure⟩
  · intro other hOutcome hNone
    rw [Outcome.sent.injEq] at hOutcome
    exact hOutcome ▸ hReplies.exists_error hNone

theorem Knows.meanwhile {later : World} (h : Knows interval past world) (hLink : later.link = world.link)
    (hInterval : later.settings.assistant.checkInterval = world.settings.assistant.checkInterval) :
    Knows interval past later where
  interval := hInterval.trans h.interval
  listed := by
    rw [hLink]
    exact h.listed
  trusted := by
    rw [hLink]
    exact h.trusted

/-- The step lemma: the call of an act is guarded, and the link knows of it afterwards. -/
theorem Knows.perform (h : Knows interval past world) (act : Act) :
    match perform world act with
    | (none, after) => Knows interval past after
    | (some call, after) =>
      0 < call.reading → Knows interval (past ++ [call]) after ∧ Guarded interval past call := by
  cases act with
  | check => exact h.check
  | send history text => exact fun hReading => h.send hReading history text
  | meanwhile change hLink hInterval => exact h.meanwhile (hLink world) (hInterval world)

/-- The run lemma: every call of a history is guarded behind those before it. -/
theorem Knows.guarded_of_calls (h : Knows interval past world) {acts : List Act}
    (hReadings : ∀ call ∈ calls acts world, 0 < call.reading) {before after : List Call} {call : Call}
    (hCalls : calls acts world = before ++ call :: after) : Guarded interval (past ++ before) call := by
  induction acts generalizing past world before with
  | nil => simp [calls] at hCalls
  | cons act rest ih =>
      have hStep := h.perform act
      rw [calls] at hReadings hCalls
      generalize Assistant.perform world act = made at hStep hReadings hCalls
      obtain ⟨made, later⟩ := made
      cases made with
      | none => exact ih hStep hReadings hCalls
      | some made =>
          obtain ⟨hReading, hRest⟩ := List.forall_mem_cons.1 hReadings
          obtain ⟨hKnows, hGuarded⟩ := hStep hReading
          cases before with
          | nil =>
              rw [List.nil_append, List.cons.injEq] at hCalls
              rw [List.append_nil, ← hCalls.1]
              exact hGuarded
          | cons first before =>
              rw [List.cons_append, List.cons.injEq] at hCalls
              have hLater := ih hKnows hRest hCalls.2
              rwa [List.append_assoc, List.singleton_append, hCalls.1] at hLater

end

/-- Behind a question that failed the server cannot be trusted before a listing has succeeded. -/
theorem not_trusted_of_failed {before between : List Call} {failed : Call} {reading : Float}
    (hFailed : .asked false ∈ failed.contacts) (hBetween : ∀ call ∈ between, .listed true ∉ call.contacts) :
    ¬Trusted (before ++ failed :: between) reading := by
  -- From the last call backwards: each either has no news or is news of the wrong form.
  induction between using List.reverseRecOn with
  | nil =>
      intro h
      rcases Latest.of_snoc h with ⟨-, -, hNone⟩ | ⟨hNews, -⟩
      · exact hNone hFailed
      · exact hNews (Or.inr hFailed)
  | append_singleton rest last ih =>
      intro h
      rw [← List.cons_append, ← List.append_assoc] at h
      rcases Latest.of_snoc h with ⟨-, hListed, -⟩ | ⟨-, hRest⟩
      · exact hBetween last (by simp) hListed
      · exact ih (fun call hCall => hBetween call (by simp [hCall])) hRest

theorem knows_nil {world : World} (hLink : world.link = Link.unknown) :
    Knows world.settings.assistant.checkInterval [] world where
  interval := rfl
  listed := by
    rintro reading ⟨before, call, after, hPast, -⟩
    simp at hPast
  trusted := by
    rw [hLink]
    exact nofun

/-- After a question that failed the server gets no other one before a listing has succeeded, and every question
in between is answered with an error. -/
def Breaks (log : List Call) : Prop :=
  ∀ past failed between call later, log = past ++ failed :: between ++ call :: later →
    .asked false ∈ failed.contacts → (∀ other ∈ between ++ [call], .listed true ∉ other.contacts) →
    (∀ answered, .asked answered ∉ call.contacts) ∧
      ∀ answer, call.outcome = .sent answer → ∃ text, answer = .ok ("Error: " ++ text)

theorem breaks_of_guarded {interval : Float} {log : List Call}
    (h : ∀ past call later, log = past ++ call :: later → Guarded interval past call) : Breaks log := by
  intro past failed between call later hLog hFailed hNone
  have hCall := h _ call later hLog
  have hAsked : ∀ answered, .asked answered ∉ call.contacts := by
    intro answered hMem
    rcases hCall.trusted answered hMem with hSame | ⟨-, reading, hTrusted, -⟩
    · exact hNone call (by simp) (by simp [hSame])
    · exact not_trusted_of_failed hFailed (fun other hOther => hNone other (by simp [hOther])) hTrusted
  exact ⟨hAsked, fun answer hOutcome => hCall.told answer hOutcome (hAsked true)⟩

/-- In every history of checks and questions that begins with nothing known of the server, with readings of the
clock above zero, every call is guarded; so a question that fails breaks the circuit to the server until a
listing succeeds. -/
theorem calls_guarded {acts : List Act} {world : World} (hLink : world.link = Link.unknown)
    (hReadings : ∀ call ∈ calls acts world, 0 < call.reading) :
    (∀ past call later, calls acts world = past ++ call :: later →
      Guarded world.settings.assistant.checkInterval past call) ∧ Breaks (calls acts world) := by
  have hGuarded : ∀ past call later, calls acts world = past ++ call :: later →
      Guarded world.settings.assistant.checkInterval past call := by
    intro past call later hCalls
    exact (knows_nil hLink).guarded_of_calls hReadings hCalls
  exact ⟨hGuarded, breaks_of_guarded hGuarded⟩

/-- A world at rest with a server that fails at the first question and answers the others. -/
def faltering : World :=
  { World.quiet with
    server := ⟨none, ⟨⟨0.0, .ok (.typed [])⟩, []⟩, ⟨⟨0.0, .error "refused"⟩, [⟨0.0, .ok (.obj [])⟩]⟩⟩ }

/-- Three questions: at once, while the first listing holds, and after that. -/
def questions : List Act :=
  [.send [] "a", .meanwhile (World.pass 10.0) (fun _ => rfl) (fun _ => rfl), .send [] "b", .check,
    .meanwhile (World.pass 30.0) (fun _ => rfl) (fun _ => rfl), .send [] "c"]

/-- The second question does not reach the server, and the third does behind a new listing. -/
theorem calls_guarded_questions :
    faltering.link = Link.unknown ∧ (∀ call ∈ calls questions faltering, 0 < call.reading) ∧
      (calls questions faltering).map Call.contacts =
        [[.listed true, .asked false], [], [], [.listed true, .asked true]] ∧
      (∀ past call later, calls questions faltering = past ++ call :: later → Guarded 30.0 past call) ∧
      Breaks (calls questions faltering) := by
  have hReadings : ∀ call ∈ calls questions faltering, 0 < call.reading := by decide +kernel
  obtain ⟨hGuarded, hBreaks⟩ := calls_guarded (show faltering.link = Link.unknown from rfl) hReadings
  exact ⟨rfl, hReadings, by decide +kernel, hGuarded, hBreaks⟩

end Assistant

end PhantomHost
