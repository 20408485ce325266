import PhantomHost.Proofs.Assistant.Question
import PhantomHost.Proofs.Session.Frame
/-!
Everything at once: any number of hosts, sessions and chats in one world, and what is done with them in any order.

Every act leaves events in a log: lines that were entered, uploads that had a result, sessions that were opened, and
questions. `Notes` lists what one act can leave there, with what it does to the counters and to the number of
sessions that are connected; `notes_step` says that an act does nothing else.
-/
namespace PhantomHost

open Assistant (Question)

/-- What is noted of an act. -/
inductive Site.Event where
  | entered (line : Text)
  | uploaded (stored : Bool)
  | opened
  | asked (question : Question)

/-- What is done with a session that has been opened, connected or not. -/
inductive Session.Deed where
  | run (line : Text)
  | runSuggested (command : Text)
  | upload (filename : Text) (size : Int) (content : Option Text)
  | navigate (path : Text)
  | refresh
  | place (path : Text) (node : Node)
  | disconnect

/-- The session, its world and what is noted, after something has been done. An upload that fails for its size has
no result. -/
def Session.act (session : Session) (world : World) : Session.Deed → List Site.Event × Session × World
  | .run line => ([.entered line], (session.run line world).2)
  | .runSuggested command => ([.entered command], (session.runSuggested command world).2)
  | .upload filename size content =>
    match session.upload? filename size content world with
    | some (stored, later) => ([.uploaded stored], later)
    | none => ([], session, world)
  | .navigate path => ([], session.navigate path, world)
  | .refresh => ([], session.refresh, world)
  | .place path node => ([], (session.place path node world).2)
  | .disconnect => ([], session.disconnect world)

/-- What is done with a chat. A command that is released is run as a suggested one by a session, or by a host. -/
inductive Chat.Deed where
  | send (text : Text)
  | confirm (name : Text) (index : Int)
  | cancel
  | release

/-- The chat, its world and what is noted. A blank message is no question. -/
def Chat.act (chat : Chat) (world : World) : Chat.Deed → List Site.Event × Chat × World
  | .send text =>
    (if Text.isBlankText text then []
      else [.asked (Question.of chat.messages text (world.writeMessage .user text false).2)],
      (chat.send text world).2)
  | .confirm name index => ([], (chat.confirm name index).2, world)
  | .cancel => ([], chat.cancel, world)
  | .release => ([], chat.release.2, world)

/-- Hosts that are used without a session, the sessions that have been opened, the connections that were refused,
chats, and the world that they share. A session that has been closed stays. -/
structure Site where
  hosts : List Shell
  sessions : List Session
  refused : List Connection
  chats : List Chat
  world : World

namespace Site

/-- A world in which nothing has been opened. -/
def ofWorld (world : World) : Site :=
  ⟨[], [], [], [], world⟩

/-- How many sessions are connected. -/
def connected (site : Site) : Nat :=
  site.sessions.countP fun session => session.connection.isConnected

/-- What is done at a site. Hosts, sessions and chats go by their numbers; nothing happens for a number that nothing
has. What happens meanwhile to the world is anything but a change of the counters or of the link to the server. -/
inductive Act where
  | setUp (shell : Shell)
  | execute (number : Nat) (line : Text)
  | store (number : Nat) (path : Text) (node : Node)
  | connect (host username port authType : Json) (delay : Option Float)
  | inSession (number : Nat) (deed : Session.Deed)
  | greet (greeting : Text)
  | inChat (number : Nat) (deed : Chat.Deed)
  | ask (history : List Message) (text : Text)
  | check
  | verify
  | forgetLink
  | meanwhile (change : World → World) (hMetrics : ∀ world, (change world).metrics = world.metrics)
      (hLink : ∀ world, (change world).link = world.link)

/-- An attempt to connect, with a connection of its own. -/
def connect (connection : Connection) (delay : Option Float) (site : Site) : List Event × Site :=
  match connection.open? delay site.world with
  | (some session, world) => ([.opened], { site with sessions := site.sessions ++ [session], world := world })
  | (none, world) => ([], { site with refused := site.refused ++ [connection], world := world })

/-- What is noted of an act, and the site after it. -/
def step (site : Site) : Act → List Event × Site
  | .setUp shell => ([], { site with hosts := site.hosts ++ [shell] })
  | .execute number line =>
    match site.hosts[number]? with
    | none => ([], site)
    | some shell =>
      let (_, shell, world) := shell.execute line site.world
      ([.entered line], { site with hosts := site.hosts.set number shell, world := world })
  | .store number path node =>
    match site.hosts[number]? with
    | none => ([], site)
    | some shell =>
      let (_, shell, world) := shell.store path node site.world
      ([], { site with hosts := site.hosts.set number shell, world := world })
  | .connect host username port authType delay => site.connect ⟨host, username, port, authType, false⟩ delay
  | .inSession number deed =>
    match site.sessions[number]? with
    | none => ([], site)
    | some session =>
      let (events, session, world) := session.act site.world deed
      (events, { site with sessions := site.sessions.set number session, world := world })
  | .greet greeting =>
    let (chat, world) := Chat.start greeting site.world
    ([], { site with chats := site.chats ++ [chat], world := world })
  | .inChat number deed =>
    match site.chats[number]? with
    | none => ([], site)
    | some chat =>
      let (events, chat, world) := chat.act site.world deed
      (events, { site with chats := site.chats.set number chat, world := world })
  | .ask history text =>
    ([.asked (Question.of history text site.world)],
      { site with world := (Assistant.send history text site.world).2 })
  | .check => ([], { site with world := site.world.checkServer.2 })
  | .verify => ([], { site with world := (Assistant.verify site.world).2 })
  | .forgetLink => ([], { site with world := site.world.forgetLink })
  | .meanwhile change _ _ => ([], { site with world := change site.world })

/-- A log, the latest event first, and the site after one more act. -/
def advance (state : List Event × Site) (act : Act) : List Event × Site :=
  let (events, site) := state.2.step act
  (events ++ state.1, site)

/-- The log of a run and the site after it. -/
def run (site : Site) (acts : List Act) : List Event × Site :=
  acts.foldl advance ([], site)

end Site

/-- What one act can leave in the log, with what becomes of the counters and of the number of sessions that are
connected. -/
inductive Notes (before : Metrics) (connected : Nat) : List Site.Event → Metrics → Nat → Prop
  | nothing : Notes before connected [] before connected
  | entered (line : Text) : Notes before connected [.entered line] (before.enter line) connected
  | uploaded (stored : Bool) : Notes before connected [.uploaded stored] (before.countUpload stored) connected
  | opened : Notes before connected [.opened] before.openSession (connected + 1)
  | closed {rest : Nat} (hConnected : connected = rest + 1) : Notes before connected [] before.closeSession rest
  | asked {question : Question} {after : Metrics} (hCounts : question.Counts before after)
      (hCalled : question.called = (question.reachable && question.instructed)) :
      Notes before connected [.asked question] after connected

namespace Session

/-- One for a session that is connected. -/
def share (session : Session) : Nat :=
  if session.connection.isConnected then 1 else 0

/-- What is done with one session is noted, with the sessions besides it. -/
theorem notes_act (session : Session) (world : World) (deed : Deed) (others : Nat) :
    let (events, after, later) := session.act world deed
    Notes world.counts (others + session.share) events later.counts (others + after.share) := by
  cases deed with
  | run line =>
      have hCounts := counts_run line session world
      have hConnection := connection_run line session world
      simp only [act, share, hCounts, hConnection]
      exact .entered line
  | runSuggested command =>
      have hCounts := counts_runSuggested command session world
      have hConnection : (session.runSuggested command world).2.1.connection = session.connection :=
        connection_run ..
      simp only [act, share, hCounts, hConnection]
      exact .entered command
  | upload filename size content =>
      rw [act]
      cases hUpload : session.upload? filename size content world with
      | none => exact .nothing
      | some result =>
          obtain ⟨stored, after, later⟩ := result
          obtain ⟨-, -, -, -, -, hConnection, -⟩ := exists_store_of_upload? hUpload
          simp only [share, counts_upload? hUpload, hConnection]
          exact .uploaded stored
  | navigate path | refresh => exact .nothing
  | place path node =>
      simp only [act, share, counts_place, connection_place]
      exact .nothing
  | disconnect =>
      have hCounts := counts_disconnect session world
      have hShare : (session.disconnect world).1.share = 0 := rfl
      simp only [act, hCounts, hShare]
      cases hConnected : session.connection.isConnected with
      | true =>
          rw [share, if_pos hConnected]
          exact .closed rfl
      | false =>
          rw [share, if_neg (by simp [hConnected])]
          exact .nothing

/-- Nothing that is done with a session changes the link to the server. -/
theorem link_act (session : Session) (world : World) (deed : Deed) :
    (session.act world deed).2.2.link = world.link := by
  cases deed with
  | run line => exact (alike_run line session world).link
  | runSuggested command => exact (alike_runSuggested command session world).link
  | upload filename size content =>
      rw [act]
      cases hUpload : session.upload? filename size content world with
      | none => rfl
      | some result => exact (alike_upload? hUpload).link
  | navigate path | refresh => rfl
  | place path node => exact (alike_place path node session world).link
  | disconnect =>
      rw [act, disconnect, World.link_say]
      split
      · exact World.link_count ..
      · rfl

end Session

namespace Chat

/-- What a message does to the world is what its question does, but for the numbers of messages. -/
theorem exists_messageCount_send {text : Text} (hText : Text.isBlankText text = false) (chat : Chat) (world : World) :
    ∃ count, (chat.send text world).2.2 =
      { (Assistant.send chat.messages text (world.writeMessage .user text false).2).2 with
        messageCount := count } := by
  rw [send, if_neg (by simp [hText])]
  dsimp only
  generalize Assistant.send chat.messages text (world.writeMessage .user text false).2 = sending
  obtain ⟨answer, after⟩ := sending
  cases answer with
  | error fault => exact ⟨_, rfl⟩
  | ok reply => exact ⟨_, rfl⟩

/-- What is done with a chat is noted, and leaves the link sound. -/
theorem notes_act (chat : Chat) {world : World} (hLink : world.link.Sound) (deed : Deed) (connected : Nat) :
    let (events, _, later) := chat.act world deed
    Notes world.counts connected events later.counts connected ∧ later.link.Sound := by
  cases deed with
  | send text =>
      cases hText : Text.isBlankText text with
      | true =>
          simp only [act, hText, send, if_true]
          exact ⟨.nothing, hLink⟩
      | false =>
          obtain ⟨count, hSend⟩ := chat.exists_messageCount_send hText world
          simp only [act, hText, hSend, Bool.false_eq_true, if_false]
          exact ⟨.asked (Assistant.counts_send ..) (Question.called_of chat.messages text hLink),
            Assistant.sound_send chat.messages text hLink⟩
  | confirm name index | cancel | release => exact ⟨.nothing, hLink⟩

end Chat

namespace Site

theorem share_le_connected {site : Site} {session : Session} (h : session ∈ site.sessions) :
    session.share ≤ site.connected := by
  rw [Session.share]
  split
  · exact List.countP_pos_iff.2 ⟨session, h, ‹_›⟩
  · exact Nat.zero_le _

/-- Of a session that changes, the sessions besides it take no notice. -/
theorem exists_others {site : Site} {number : Nat} {session : Session} (h : site.sessions[number]? = some session) :
    ∃ others, site.connected = others + session.share ∧
      ∀ after world, connected { site with sessions := site.sessions.set number after, world := world } =
        others + after.share := by
  obtain ⟨hNumber, rfl⟩ := List.getElem?_eq_some_iff.1 h
  refine ⟨site.connected - site.sessions[number].share, ?_, ?_⟩
  · rw [Nat.sub_add_cancel (share_le_connected (List.getElem_mem hNumber))]
  · intro after world
    rw [connected, List.countP_set hNumber]
    rfl

/-- The step lemma: an act does to the counters what it leaves in the log, and leaves the link sound. -/
theorem notes_step {site : Site} (hLink : site.world.link.Sound) (act : Act) :
    let (events, after) := site.step act
    Notes site.world.counts site.connected events after.world.counts after.connected ∧
      after.world.link.Sound := by
  cases act with
  | setUp shell => exact ⟨.nothing, hLink⟩
  | execute number line =>
      simp only [step]
      split
      · exact ⟨.nothing, hLink⟩
      · rename_i shell hShell
        refine ⟨?_, ?_⟩
        · simp only [shell.counts_execute line site.world]
          exact .entered line
        · simp only [(shell.alike_execute line site.world).link]
          exact hLink
  | store number path node =>
      simp only [step]
      split
      · exact ⟨.nothing, hLink⟩
      · rename_i shell hShell
        simp only [shell.counts_store, (shell.alike_store path node site.world).link]
        exact ⟨.nothing, hLink⟩
  | connect host username port authType delay =>
      have hOpen := Connection.open?_cases ⟨host, username, port, authType, false⟩ delay site.world
      have hSame := Connection.link_open? ⟨host, username, port, authType, false⟩ delay site.world
      simp only [step, connect]
      generalize Connection.open? ⟨host, username, port, authType, false⟩ delay site.world = opening at hOpen hSame ⊢
      obtain ⟨session, opened⟩ := opening
      replace hSame : opened.link = site.world.link := hSame
      rcases hOpen with ⟨-, rfl, hCounts⟩ | ⟨-, session, rfl, hConnection, hCounts⟩
      · simp only [hCounts, hSame]
        exact ⟨.nothing, hLink⟩
      · have hConnected : connected { site with sessions := site.sessions ++ [session], world := opened } =
            site.connected + 1 := by
          simp [connected, List.countP_append, hConnection]
        simp only [hCounts, hSame, hConnected]
        exact ⟨.opened, hLink⟩
  | inSession number deed =>
      simp only [step]
      split
      · exact ⟨.nothing, hLink⟩
      · rename_i session hSession
        obtain ⟨others, hBefore, hAfter⟩ := exists_others hSession
        have hNotes := session.notes_act site.world deed others
        have hSame := session.link_act site.world deed
        simp only [hBefore, hAfter, hSame]
        exact ⟨hNotes, hLink⟩
  | greet greeting => exact ⟨.nothing, hLink⟩
  | inChat number deed =>
      simp only [step]
      split
      · exact ⟨.nothing, hLink⟩
      · rename_i chat hChat
        exact chat.notes_act hLink deed site.connected
  | ask history text =>
      exact ⟨.asked (Assistant.counts_send ..) (Question.called_of history text hLink),
        Assistant.sound_send history text hLink⟩
  | check =>
      simp only [step, World.counts_checkServer]
      exact ⟨.nothing, World.sound_checkServer hLink⟩
  | verify =>
      simp only [step, Assistant.counts_verify]
      exact ⟨.nothing, Assistant.sound_verify hLink⟩
  | forgetLink => exact ⟨.nothing, Link.sound_unknown⟩
  | meanwhile change hMetrics hChange =>
      simp only [step, World.counts, hMetrics, hChange]
      exact ⟨.nothing, hLink⟩

end Site

end PhantomHost
