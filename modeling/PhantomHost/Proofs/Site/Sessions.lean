import PhantomHost.Proofs.Site.Accounts
/-!
Sessions and their two counters: how many have been opened, and how many of these are connected now.

An attempt to connect is refused or opens a session; nothing else adds to the sessions of a site, and none is ever
removed. A session that is closed again and again is counted off once, because it is not connected any more.
-/
namespace PhantomHost

open PhantomHost.Text

/-- Among texts, only an empty name is refused, and only where a password is asked for. -/
theorem Connection.isRefused_of_texts (host port : Json) (username authType : Text) (isConnected : Bool) :
    Connection.isRefused ⟨host, .text username, port, .text authType, isConnected⟩ = true ↔
      authType = "password" ∧ username = "" := by
  rw [Connection.isRefused]
  simp [Json.same, Json.isTruthy]

@[simp] theorem openings_append (log later : List Site.Event) :
    openings (log ++ later) = openings log + openings later := by
  rw [openings, List.filter_append, List.length_append]
  rfl

theorem Session.openings_act (session : Session) (world : World) (deed : Session.Deed) :
    openings (session.act world deed).1 = 0 := by
  cases deed with
  | upload filename size content =>
      rw [act]
      split <;> rfl
  | run _ | runSuggested _ | navigate _ | refresh | place _ _ | disconnect => rfl

theorem Chat.openings_act (chat : Chat) (world : World) (deed : Chat.Deed) :
    openings (chat.act world deed).1 = 0 := by
  cases deed with
  | send text =>
      rw [act]
      dsimp only
      split <;> rfl
  | confirm _ _ | cancel | release => rfl

namespace Site

/-- What can become of a site in an attempt to connect: the connection is refused and stays as it is, or a session is
opened that is connected. -/
inductive Attempted (site : Site) (connection : Connection) (after : Site) : Prop
  | refused (hRefused : connection.isRefused = true) (hConnections : after.refused = site.refused ++ [connection])
      (hSessions : after.sessions = site.sessions) (hCounts : after.world.counts = site.world.counts)
  | opened {session : Session} (hAccepted : connection.isRefused = false)
      (hConnected : session.connection = { connection with isConnected := true })
      (hConnections : after.refused = site.refused) (hSessions : after.sessions = site.sessions ++ [session])
      (hCounts : after.world.counts = site.world.counts.openSession)

/-- An attempt is noted exactly if it opens a session. -/
theorem attempted_connect (site : Site) (connection : Connection) (delay : Option Float) :
    let (events, after) := site.connect connection delay
    site.Attempted connection after ∧ after.sessions.length = openings events + site.sessions.length := by
  have hOpen := connection.open?_cases delay site.world
  rw [connect]
  generalize connection.open? delay site.world = opening at hOpen ⊢
  obtain ⟨session, opened⟩ := opening
  rcases hOpen with ⟨hRefused, rfl, hCounts⟩ | ⟨hAccepted, session, rfl, hConnected, hCounts⟩
  · exact ⟨.refused hRefused rfl rfl hCounts, (Nat.zero_add _).symm⟩
  · refine ⟨.opened hAccepted hConnected rfl rfl hCounts, ?_⟩
    rw [List.length_append, Nat.add_comm]
    rfl

/-- What a site keeps: every session that was opened, and every connection that was refused, as it was. -/
structure Kept (log : List Event) (site : Site) : Prop where
  sessions : site.sessions.length = openings log
  refused : ∀ connection ∈ site.refused, connection.isRefused = true ∧ connection.isConnected = false

/-- The step lemma: only an attempt to connect adds to what is kept. -/
theorem Kept.step {log : List Event} {site : Site} (h : Kept log site) (act : Act) :
    let (events, after) := site.step act
    Kept (events ++ log) after := by
  cases act with
  | setUp _ | greet _ | ask _ _ | check | verify | forgetLink | meanwhile _ _ _ => exact ⟨h.sessions, h.refused⟩
  | execute number line =>
      simp only [Site.step]
      split <;> exact ⟨h.sessions, h.refused⟩
  | store number path node =>
      simp only [Site.step]
      split <;> exact ⟨h.sessions, h.refused⟩
  | connect host username port authType delay =>
      obtain ⟨hAttempted, hLength⟩ := site.attempted_connect ⟨host, username, port, authType, false⟩ delay
      refine ⟨?_, ?_⟩
      · rw [openings_append, ← h.sessions]
        exact hLength
      · cases hAttempted with
        | refused hRefused hConnections =>
            simp only [hConnections, List.mem_append, List.mem_singleton]
            rintro connection (hOld | rfl)
            · exact h.refused connection hOld
            · exact ⟨hRefused, rfl⟩
        | opened _ _ hConnections =>
            simp only [hConnections]
            exact h.refused
  | inSession number deed =>
      simp only [Site.step]
      split
      · exact h
      · rename_i session hSession
        refine ⟨?_, h.refused⟩
        rw [openings_append, session.openings_act, Nat.zero_add, ← h.sessions]
        exact List.length_set
  | inChat number deed =>
      simp only [Site.step]
      split
      · exact h
      · rename_i chat hChat
        refine ⟨?_, h.refused⟩
        rw [openings_append, chat.openings_act, Nat.zero_add]
        exact h.sessions

/-- The run lemma. -/
theorem Kept.foldl {log : List Event} {site : Site} (h : Kept log site) (acts : List Act) :
    let (log, after) := acts.foldl advance (log, site)
    Kept log after := by
  induction acts generalizing log site with
  | nil => exact h
  | cons act rest ih => exact ih (h.step act)

/-- Whatever is done at a site, the gauge of sessions is the number of those that are connected, and their counter is
the number of attempts that opened one. A connection that was refused is not connected, and its refusal changes no
counter; among texts that is an empty name where a password is asked for. -/
theorem sessions_accounted (settings : Settings) (source : Log.Source) (clock : Float) (today : Moment)
    (server : ModelServer) (disk : Disk) (acts : List Act) :
    let (log, site) := (fresh settings source clock today server disk).run acts
    site.world.metrics.activeSessions = site.connected ∧
      site.world.metrics.sessions = openings log ∧
      site.sessions.length = openings log ∧
      (∀ connection ∈ site.refused, connection.isRefused = true ∧ connection.isConnected = false) ∧
      (∀ connection delay, site.Attempted connection (site.connect connection delay).2) ∧
      ∀ host port username authType,
        Connection.isRefused ⟨host, .text username, port, .text authType, false⟩ = true ↔
          authType = "password" ∧ username = "" := by
  have hAccounts := accounts_run settings source clock today server disk acts
  have hKept : Kept [] (fresh settings source clock today server disk) := ⟨rfl, by simp [fresh, ofWorld]⟩
  replace hKept := hKept.foldl acts
  refine ⟨hAccounts.activeSessions, hAccounts.sessions, hKept.sessions, hKept.refused, ?_, ?_⟩
  · exact fun connection delay => (attempted_connect _ connection delay).1
  · exact fun host port username authType => Connection.isRefused_of_texts host port username authType false

/-- Two sessions and a refusal between them; the first session is closed twice. -/
def visits : List Act :=
  [.connect (.text "10.0.0.5") (.text "user") (.int 22) (.text "password") none,
    .connect (.text "10.0.0.5") (.text "") (.int 22) (.text "password") none,
    .connect (.text "10.0.0.5") (.text "") (.int 22) (.text "key") none,
    .inSession 0 .disconnect, .inSession 0 .disconnect]

/-- The log of the visits, in a world at rest, and the site after them. -/
def visitsRun : List Event × Site :=
  (fresh World.quiet.settings World.quiet.source World.quiet.clock World.quiet.today World.quiet.server
    World.quiet.disk).run visits

/-- Of two sessions that were opened one is still connected, and the refused connection is not. -/
theorem sessions_accounted_visits :
    visitsRun.2.world.metrics.activeSessions = 1 ∧ visitsRun.2.connected = 1 ∧
      visitsRun.2.world.metrics.sessions = 2 ∧
      ∃ connection ∈ visitsRun.2.refused, connection.isRefused = true ∧ connection.isConnected = false := by
  obtain ⟨hActive, hSessions, -, hRefused, -⟩ := sessions_accounted World.quiet.settings World.quiet.source
    World.quiet.clock World.quiet.today World.quiet.server World.quiet.disk visits
  have hConnected : visitsRun.2.connected = 1 := by decide +kernel
  have hOpenings : openings visitsRun.1 = 2 := by decide +kernel
  have hSome : ∃ connection, connection ∈ visitsRun.2.refused :=
    List.exists_mem_of_length_pos (by decide +kernel)
  obtain ⟨connection, hMem⟩ := hSome
  refine ⟨?_, hConnected, hSessions.trans hOpenings, connection, hMem, hRefused connection hMem⟩
  exact hActive.trans (congrArg Int.ofNat hConnected)

end Site

end PhantomHost
