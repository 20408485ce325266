import PhantomHost.Page.Pass
import PhantomHost.Proofs.Page.Form
/-!
The page of someone who is connected, and the whole page. The keys of the search, of the files and of the chat have
words of their own; those of the files have the names that the browser shows, or its path, and those of the chat the
numbers of messages and commands.
-/
namespace PhantomHost.Page

open PhantomHost.Text

variable {store : ProfileStore} {run : Run}

/-! ### The terminal -/

/-- The search has one key. -/
theorem leads_searchBar (h : Sound store run.memory run.world) (session : Session) :
    Leads (Sound store) (searchBar session) run (· = "search_query") anything := by
  apply (leads_keyInput _ _ _ h).behind
  intro value _ _ hShown _
  apply ((shows_textOr _ _).leads hShown).before
  intro query _ _ hAsked _
  apply leads_get_bind
  dsimp only
  split
  · exact leads_throw_bind hAsked _
  · split
    · exact leads_pure hAsked trivial
    · apply ((shows_place rfl).leads hAsked).before
      intro _ _ _ hPlaced _
      apply leads_get_bind
      apply ((shows_button _).leads hPlaced).before
      intro back _ _ hBack _
      apply ((shows_button _).leads hBack).before
      intro forth last _ hForth _
      apply Leads.before
      · exact leads_note hForth rfl rfl rfl
      · intro _ _ _ hNoted _
        apply ((shows_place rfl).leads hNoted).before
        intro _ _ _ hShown _
        exact leads_pure hShown trivial

/-- A line that is run, and a value that cannot be run, go into the transcript. -/
theorem leads_runCommand (h : Sound store run.memory run.world) (command : Json) {session : Session}
    (hSession : session.WellNamed) : Leads (Sound store) (runCommand command session) run noKey anything := by
  unfold runCommand
  split
  · rename_i line
    have hRun := session.onward_run line run.world
    apply (leads_onWorld (h.onward hRun) hRun.messages).before
    rintro _ after - hAfter ⟨rfl, -⟩
    exact (leads_keep hAfter (hSession.run line run.world)).forget
  · have hWrite := session.onward_write .input command.shown run.world
    apply (leads_onWorld (h.onward hWrite) hWrite.messages).before
    rintro _ _ - hWritten ⟨rfl, -⟩
    have hSame : (session.write .input command.shown run.world).1.WellNamed := ⟨hSession.shell, hSession.files⟩
    apply (leads_keep hWritten hSame).before
    intro _ _ _ hKept _
    apply Leads.before
    · exact leads_note hKept rfl rfl rfl
    · intro _ _ _ hNoted _
      exact leads_throw hNoted

theorem leads_terminal (h : Sound store run.memory run.world) {session : Session} (hSession : session.WellNamed) :
    Leads (Sound store) (terminal session) run (· = "search_query") anything := by
  apply (leads_searchBar h session).behind
  intro search _ _ hSearched _
  apply ((shows_place rfl).leads hSearched).before
  intro _ _ _ hShown _
  apply ((shows_place rfl).leads hShown).before
  intro _ _ _ hPlaced _
  apply ((shows_textInput _ _).leads hPlaced).before
  intro command _ _ hAsked _
  apply ((shows_submit _).leads hAsked).before
  intro isSent _ _ hSent _
  split
  · apply (leads_runCommand hSent command hSession).before
    intro _ _ _ hRun _
    exact leads_throw hRun
  · exact leads_pure hSent trivial

/-! ### Files -/

/-- Whoever goes elsewhere sees every name once there. -/
theorem leads_browse {α : Type} {wanted : α → Run → Prop} (h : Sound store run.memory run.world) (path : Text)
    {session : Session} (hSession : session.WellNamed) :
    Leads (Sound store) (browse path session) run noKey wanted := by
  apply (leads_keep h (hSession.navigate path)).before
  intro _ _ _ hKept _
  exact leads_throw hKept

theorem leads_browserBar (h : Sound store run.memory run.world) {session : Session} (hSession : session.WellNamed) :
    Leads (Sound store) (browserBar session) run noKey fun shown _ => shown.WellNamed := by
  apply ((shows_place rfl).leads h).before
  intro _ _ _ hTitled _
  apply ((shows_place rfl).leads hTitled).before
  intro _ _ _ hPlaced _
  apply ((shows_button _).leads hPlaced).before
  intro isUp _ _ hOffered _
  dsimp only
  split
  · have hUp : Leads (Sound store) (browse (Path.parent session.browser) session : Act Unit) _ noKey
        fun _ _ => False := leads_browse hOffered _ hSession
    apply hUp.before
    intro _ _ _ _ hNever
    exact hNever.elim
  · apply ((shows_button _).leads hOffered).before
    intro isFresh _ _ hAsked _
    split
    · have hLooked := Session.wellNamed_refresh session hSession.shell
      apply (leads_keep hAsked hLooked).before
      intro _ _ _ hKept _
      exact leads_pure hKept hLooked
    · exact leads_pure hAsked hSession

theorem leads_listView (h : Sound store run.memory run.world) {session : Session} (hSession : session.WellNamed) :
    Leads (Sound store) (listView session) run noKey anything := by
  apply ((shows_place rfl).leads h).before
  intro _ _ _ hShown _
  dsimp only
  split
  · apply ((shows_select _ _).leads hShown).before
    intro target _ _ hAsked _
    split
    · split
      · exact leads_browse hAsked _ hSession
      · exact leads_throw hAsked
    · exact leads_pure hAsked trivial
  · exact leads_pure hShown trivial

/-- What the keys of the file browser begin with. -/
def fileWords : List Text := ["open", "upload"]

/-- A directory has a key, which no other file of the browser has. -/
theorem leads_gridView (h : Sound store run.memory run.world) {session : Session} (hSession : session.WellNamed) :
    Leads (Sound store) (gridView session) run (Keyed ["open"] fun _ => True) anything := by
  have hPairwise : session.files.Pairwise fun first second =>
      Apart (Keyed ["open"] (· = first.name)) (Keyed ["open"] (· = second.name)) := by
    apply (List.pairwise_map.1 hSession.files).imp
    intro first second hNames
    apply apart_of_names (by decide)
    rintro name rfl hName
    exact hNames hName
  apply ((shows_place rfl).leads h).before
  intro _ _ _ hPlaced _
  apply leads_forM hPairwise _ _ hPlaced
  · exact fun node _ key hKey => hKey.mono (List.Subset.refl _) fun _ _ => trivial
  · intro node _ after _ hAfter
    have hKey : "open-" ++ node.name = keyed "open" node.name := rfl
    unfold gridCell
    split
    · apply (leads_keyButton _ hKey hAfter).behind
      intro isOpened _ _ hOffered _
      split
      · exact leads_browse hOffered _ hSession
      · exact leads_pure hOffered trivial
    · exact ((shows_place rfl).leads hAfter).mono fun _ => False.elim

theorem leads_fileView (h : Sound store run.memory run.world) {session : Session} (hSession : session.WellNamed) :
    Leads (Sound store) (fileView session) run (Keyed ["open"] fun _ => True) anything := by
  apply ((shows_radio _ _ _).leads h).before
  intro view _ _ hAsked _
  split
  · exact ((shows_place rfl).leads hAsked).mono fun _ => False.elim
  · split
    · exact (leads_listView hAsked hSession).mono fun _ => False.elim
    · exact leads_gridView hAsked hSession

theorem leads_storeUpload (h : Sound store run.memory run.world) (upload : Upload) {session : Session}
    (hSession : session.WellNamed) : Leads (Sound store) (storeUpload upload session) run noKey
      fun shown _ => shown.WellNamed := by
  apply leads_get_bind
  split
  · exact leads_throw h
  · rename_i stored later world hUpload
    have hOnward := Session.onward_upload? hUpload
    apply (leads_setWorld (h.onward hOnward) hOnward.messages).before
    intro _ _ _ hStored _
    have hLater := hSession.upload? hUpload
    apply (leads_keep hStored hLater).before
    intro _ _ _ hKept _
    dsimp only
    split
    · apply ((shows_place rfl).leads hKept).before
      intro _ _ _ hShown _
      exact leads_pure hShown hLater
    · apply ((shows_place rfl).leads hKept).before
      intro _ _ _ hShown _
      exact leads_pure hShown hLater

/-- The directory that the browser shows has a key for uploads. -/
theorem leads_uploadInput (h : Sound store run.memory run.world) {session : Session} (hSession : session.WellNamed) :
    Leads (Sound store) (uploadInput session) run (Keyed ["upload"] fun _ => True)
      fun shown _ => shown.WellNamed := by
  have hKey : "upload-" ++ session.browser = keyed "upload" session.browser := rfl
  have hInput : Leads (Sound store) (fileInput "Upload to this folder" ("upload-" ++ session.browser)) run
      (Keyed ["upload"] fun _ => True) anything := by
    apply (leads_fileInput _ _ h).mono
    rintro _ rfl
    exact ⟨"upload", List.mem_cons_self, session.browser, trivial, hKey⟩
  apply hInput.behind
  rintro chosen _ - hShown -
  split
  · exact leads_pure hShown hSession
  · rename_i upload
    apply ((shows_button _).leads hShown).before
    intro isPressed _ _ hOffered _
    split
    · exact leads_storeUpload hOffered upload hSession
    · exact leads_pure hOffered hSession

theorem leads_browser (h : Sound store run.memory run.world) {session : Session} (hSession : session.WellNamed) :
    Leads (Sound store) (browser session) run (Keyed fileWords fun _ => True) fun shown _ => shown.WellNamed := by
  have hApart : Apart (Keyed ["open"] fun _ => True) (Keyed ["upload"] fun _ => True) :=
    apart_of_words (by decide) (by decide) (by decide)
  apply (leads_browserBar h hSession).before
  intro shown _ _ hBar hShown
  apply (leads_fileView hBar hShown).bind hApart
  · exact fun key hKey => hKey.mono (by decide) fun _ => id
  · exact fun key hKey => hKey.mono (by decide) fun _ => id
  · intro _ _ _ hViewed _
    exact leads_uploadInput hViewed hShown

/-! ### The chat -/

/-- The chat that the page goes on with has its numbers in order. -/
theorem leads_currentChat (h : Sound store run.memory run.world) :
    Leads (Sound store) currentChat run noKey fun chat after => chat.Numbered after.world := by
  have hStart := Chat.onward_start Chat.greeting run.world
  apply (leads_onWorld (h.onward hStart) hStart.messages).before
  rintro fresh started - hStarted ⟨rfl, hWorld⟩
  apply leads_get_bind
  have hChat : (started.memory.chat.getD (Chat.start Chat.greeting run.world).1).Numbered started.world := by
    cases hMemory : started.memory.chat with
    | none => exact hWorld ▸ Chat.numbered_start Chat.greeting run.world
    | some chat => exact hStarted.chat chat hMemory
  apply (leads_keepChat hStarted hChat).before
  intro _ after _ hAfter hSame
  exact leads_pure hAfter (hSame ▸ hChat)

/-- The name of a command in the keys of its buttons: its message, and its number in the message. -/
def commandName (message : Message) (index : Nat) : Text :=
  keyed "msg" (keyed (toString message.id) (toString index))

theorem commandKey_eq (action : Text) (message : Message) (index : Nat) :
    commandKey action message index = keyed action (commandName message index) := by
  have hName : message.name = keyed "msg" (toString message.id) := rfl
  have hDash : Text.ofString "-" = [dash] := rfl
  simp only [commandKey, commandName, hName, hDash, keyed, List.append_assoc, List.cons_append, List.nil_append]

/-- A command is known by the numbers of its message and its own. -/
theorem commandName_inj {first second : Message} {index other : Nat} :
    commandName first index = commandName second other ↔ first.id = second.id ∧ index = other := by
  rw [commandName, commandName, keyed_inj (by decide) (by decide),
    keyed_inj (dash_not_mem_digits _) (dash_not_mem_digits _)]
  constructor
  · rintro ⟨-, hId, hIndex⟩
    exact ⟨Nat.repr_inj.1 (Text.ofString_inj.1 hId), Nat.repr_inj.1 (Text.ofString_inj.1 hIndex)⟩
  · rintro ⟨hId, rfl⟩
    rw [hId]
    exact ⟨rfl, rfl, rfl⟩

/-- What the keys of the chat begin with. -/
def talkWords : List Text := ["ok", "no", "run"]

theorem dashless_talkWords : Dashless talkWords := by
  decide

theorem leads_runPending (h : Sound store run.memory run.world) {session : Session} {chat : Chat}
    (hSession : session.WellNamed) (hChat : chat.Numbered run.world) :
    Leads (Sound store) (runPending session chat) run noKey anything := by
  have hReleased : chat.release.2.Numbered run.world := by
    rw [Chat.release_snd]
    exact hChat.congr rfl rfl
  apply (leads_keepChat h hReleased).before
  intro _ kept _ hKept _
  split
  · exact leads_pure hKept trivial
  · exact leads_throw hKept
  · rename_i command hCommand
    have hRun := session.onward_runSuggested command kept.world
    apply (leads_onWorld (hKept.onward hRun) hRun.messages).before
    rintro _ _ - hAfter ⟨rfl, -⟩
    exact (leads_keep hAfter (hSession.runSuggested command kept.world)).forget

/-- The buttons of a command have keys with its name. -/
theorem leads_commandButtons (h : Sound store run.memory run.world) {session : Session} {chat : Chat}
    (hSession : session.WellNamed) (hChat : chat.Numbered run.world) (message : Message) (index : Nat) :
    Leads (Sound store) (commandButtons session chat message index) run
      (Keyed talkWords (· = commandName message index)) anything := by
  have hWithin {word : Text} (hWord : [word] ⊆ talkWords) (key : Text)
      (hKey : Keyed [word] (· = commandName message index) key) :
      Keyed talkWords (· = commandName message index) key := hKey.mono hWord fun _ => id
  have hApart : Apart (Keyed ["ok"] (· = commandName message index)) (Keyed ["no"] (· = commandName message index)) :=
    apart_of_words (by decide) (by decide) (by decide)
  unfold commandButtons
  split
  · apply ((shows_place rfl).leads h).before
    intro _ _ hPlacing hPlaced _
    apply (leads_keyButton "Confirm" (commandKey_eq "ok" message index) hPlaced).bind hApart
      (hWithin (by decide)) (hWithin (by decide))
    intro isConfirmed after hOffering hOffered _
    cases isConfirmed with
    | true =>
        simp only [↓reduceIte]
        have hLater := hChat.mono (Nat.le_trans hPlacing hOffering)
        apply (leads_runPending hOffered hSession hLater).before
        intro _ _ _ hRun _
        exact leads_throw_bind hRun _
    | false =>
        simp only [Bool.false_eq_true, ↓reduceIte]
        apply (leads_keyButton "Cancel" (commandKey_eq "no" message index) hOffered).behind
        intro isCancelled _ hAsking hAsked _
        split
        · have hLater := hChat.mono (Nat.le_trans (Nat.le_trans hPlacing hOffering) hAsking)
          have hCancelled : chat.cancel.Numbered _ := hLater.congr rfl rfl
          apply (leads_keepChat hAsked hCancelled).before
          intro _ _ _ hKept _
          exact leads_throw hKept
        · exact leads_pure hAsked trivial
  · have hRun : ∀ key, Keyed ["run"] (· = commandName message index) key →
        Keyed talkWords (· = commandName message index) key := hWithin (by decide)
    apply Leads.mono _ hRun
    apply (leads_keyButton "Run" (commandKey_eq "run" message index) h).behind
    intro isRun _ hOffering hOffered _
    split
    · have hLater := hChat.mono hOffering
      have hConfirmed := hLater.congr (Chat.messages_confirm message.name index chat) rfl
      apply (leads_keepChat hOffered hConfirmed).before
      intro _ _ _ hKept _
      exact leads_throw hKept
    · exact leads_pure hOffered trivial

/-- The parts of a message have keys with its number, each command with a number of its own: `index` and more. -/
theorem leads_messageParts (h : Sound store run.memory run.world) {session : Session} {chat : Chat}
    (hSession : session.WellNamed) (hChat : chat.Numbered run.world) (message : Message) (index : Nat)
    (parts : List MessagePart) :
    Leads (Sound store) (messageParts session chat message index parts) run
      (Keyed talkWords fun name => ∃ number, index ≤ number ∧ name = commandName message number) anything := by
  -- Only a command takes a number, so behind prose the rest begins with the same one.
  induction parts generalizing run index with
  | nil => exact (leads_pure h trivial).mono fun _ => False.elim
  | cons part rest ih =>
      rw [messageParts]
      split
      · have hApart : Apart (Keyed talkWords (· = commandName message index))
            (Keyed talkWords fun name => ∃ number, index + 1 ≤ number ∧ name = commandName message number) := by
          apply apart_of_names dashless_talkWords
          rintro name rfl ⟨number, hNumber, hName⟩
          have hSame := (commandName_inj.1 hName).2
          omega
        apply ((shows_place rfl).leads h).before
        intro _ _ hShowing hShown _
        have hShownChat := hChat.mono hShowing
        apply (leads_commandButtons hShown hSession hShownChat message index).bind hApart
        · exact fun key hKey => hKey.mono (List.Subset.refl _) fun name hName => ⟨index, Nat.le_refl _, hName⟩
        · rintro key hKey
          apply hKey.mono (List.Subset.refl _)
          rintro name ⟨number, hNumber, hName⟩
          exact ⟨number, Nat.le_of_succ_le hNumber, hName⟩
        · intro _ _ hOffering hOffered _
          exact ih hOffered (hShownChat.mono hOffering) (index + 1)
      · apply ((shows_place rfl).leads h).before
        intro _ _ hShowing hShown _
        exact ih hShown (hChat.mono hShowing) index

/-- A message has keys with its number. -/
theorem leads_message (h : Sound store run.memory run.world) {session : Session} {chat : Chat}
    (hSession : session.WellNamed) (hChat : chat.Numbered run.world) (message : Message) :
    Leads (Sound store) (Page.message session chat message) run
      (Keyed talkWords fun name => ∃ number, name = commandName message number) anything := by
  unfold Page.message
  split
  · apply ((shows_place rfl).leads h).before
    intro _ _ _ hShown _
    exact ((shows_place rfl).leads hShown).mono fun _ => False.elim
  · apply ((shows_place rfl).leads h).before
    intro _ _ hShowing hShown _
    apply (leads_messageParts hShown hSession (hChat.mono hShowing) message 0 _).mono
    intro key hKey
    apply hKey.mono (List.Subset.refl _)
    rintro name ⟨number, -, hName⟩
    exact ⟨number, hName⟩

theorem leads_sendMessage (h : Sound store run.memory run.world) (content : Json) {chat : Chat}
    (hChat : chat.Numbered run.world) : Leads (Sound store) (sendMessage content chat) run noKey anything := by
  apply ((shows_place rfl).leads h).before
  intro _ _ hShowing hShown _
  apply ((shows_textOr _ _).leads hShown).before
  intro text asked hAsking hAsked _
  have hOnward := chat.onward_send text asked.world
  obtain ⟨reply, after, later, hSend, hNumbered, -⟩ := (hChat.mono (Nat.le_trans hShowing hAsking)).send text
  rw [hSend] at hOnward
  refine Leads.before (leads_onWorld ?_ ?_) ?_
  · simp only [hSend]
    exact hAsked.onward hOnward
  · simp only [hSend]
    exact hOnward.messages
  simp only [hSend]
  rintro _ sent - hSent ⟨rfl, rfl⟩
  apply (leads_keepChat hSent hNumbered).before
  intro _ _ _ hKept _
  split
  · exact leads_throw hKept
  · exact leads_throw hKept

theorem leads_assistantStatus (h : Sound store run.memory run.world) :
    Leads (Sound store) assistantStatus run noKey anything := by
  apply leads_get_bind
  split
  · exact leads_pure h trivial
  · have hVerify := Assistant.onward_verify run.world
    apply (leads_onWorld (h.onward hVerify) hVerify.messages).before
    intro _ _ _ hVerified _
    split
    · exact leads_throw hVerified
    · apply Leads.before
      · exact leads_note hVerified rfl rfl rfl
      · intro _ _ _ hNoted _
        exact leads_pure hNoted trivial

/-- The messages of a chat have keys of their own, for no two have the same number. -/
theorem leads_messages (h : Sound store run.memory run.world) {session : Session} {chat : Chat}
    (hSession : session.WellNamed) (hChat : chat.Numbered run.world) :
    Leads (Sound store) (chat.messages.forM (Page.message session chat)) run (Keyed talkWords fun _ => True)
      anything := by
  have hPairwise : chat.messages.Pairwise fun first second =>
      Apart (Keyed talkWords fun name => ∃ number, name = commandName first number)
        (Keyed talkWords fun name => ∃ number, name = commandName second number) := by
    apply hChat.ascending.imp
    intro first second hIds
    apply apart_of_names dashless_talkWords
    rintro name ⟨number, rfl⟩ ⟨other, hName⟩
    have hSame := (commandName_inj.1 hName).1
    omega
  apply leads_forM hPairwise _ _ h
  · exact fun message _ key hKey => hKey.mono (List.Subset.refl _) fun _ _ => trivial
  · intro message _ after hCount hAfter
    exact leads_message hAfter hSession (hChat.mono hCount) message

/-- The input stands behind the messages and has no key. -/
theorem leads_conversation (h : Sound store run.memory run.world) {session : Session} {chat : Chat}
    (hSession : session.WellNamed) (hChat : chat.Numbered run.world) :
    Leads (Sound store) (do
      chat.messages.forM (Page.message session chat)
      let content ← chatInput "Ask about Linux, scripts or this system"
      if content.isTruthy then sendMessage content chat) run (Keyed talkWords fun _ => True) anything := by
  apply (leads_messages h hSession hChat).behind
  intro _ _ hListing hListed _
  apply ((shows_chatInput _).leads hListed).before
  intro content _ hInput hGiven _
  split
  · exact leads_sendMessage hGiven content ((hChat.mono hListing).mono hInput)
  · exact leads_pure hGiven trivial

theorem leads_talk (h : Sound store run.memory run.world) {session : Session} {chat : Chat}
    (hSession : session.WellNamed) (hChat : chat.Numbered run.world) :
    Leads (Sound store) (talk session chat) run (Keyed talkWords fun _ => True) anything := by
  apply ((shows_place rfl).leads h).before
  intro _ _ hTitling hTitled _
  apply leads_get_bind
  apply ((shows_place rfl).leads hTitled).before
  intro _ _ hNaming hNamed _
  apply (leads_assistantStatus hNamed).before
  rintro ⟨isFine, status⟩ _ hAsking hAsked -
  have hLater := ((hChat.mono hTitling).mono hNaming).mono hAsking
  dsimp only
  split
  · apply ((shows_place rfl).leads hAsked).before
    intro _ _ hWarning hWarned _
    exact leads_conversation hWarned hSession (hLater.mono hWarning)
  · exact leads_conversation hAsked hSession hLater

/-! ### The whole page -/

/-- What the keys below the terminal can be. -/
def PaneKey (key : Text) : Prop :=
  Keyed fileWords (fun _ => True) key ∨ Keyed talkWords (fun _ => True) key

/-- What the keys of a page can be. -/
inductive PageKey : Text → Prop
  | search : PageKey "search_query"
  | shelf {key : Text} (h : Keyed shelfWords (fun _ => True) key) : PageKey key
  | pane {key : Text} (h : PaneKey key) : PageKey key

/-- The files, and the chat if it is shown. -/
theorem leads_panes (h : Sound store run.memory run.world) {session : Session} {chat : Chat}
    (hSession : session.WellNamed) (hChat : chat.Numbered run.world) (isTalking : Bool) :
    Leads (Sound store) (do
      let session ← browser session
      if isTalking then talk session chat) run PaneKey anything := by
  have hApart : Apart (Keyed fileWords fun _ => True) (Keyed talkWords fun _ => True) :=
    apart_of_words (by decide) (by decide) (by decide)
  -- The files can change the session, and the chat goes on with the changed one.
  apply (leads_browser h hSession).bind hApart (fun _ => Or.inl) (fun _ => Or.inr)
  intro shown _ hBrowsing hBrowsed hShown
  split
  · exact leads_talk hBrowsed hShown (hChat.mono hBrowsing)
  · exact (leads_pure hBrowsed trivial).mono fun _ => False.elim

theorem leads_disconnect (h : Sound store run.memory run.world) (session : Session) :
    Leads (Sound store) (disconnect session) run noKey anything := by
  have hClosed := session.onward_disconnect run.world
  apply (leads_discard (leads_onWorld (h.onward hClosed) hClosed.messages)).before
  intro _ after _ hAfter _
  apply Leads.forget (leads_remember _)
  exact ⟨hAfter.path, hAfter.file, nofun, nofun, hAfter.form⟩

theorem leads_sessionPage (h : Sound store run.memory run.world) {session : Session} (hSession : session.WellNamed) :
    Leads (Sound store) (sessionPage session) run PageKey anything := by
  have hSearch : Apart (· = "search_query") PaneKey := by
    rintro key hKey (hFile | hTalk)
    · exact apart_of_dashless (by decide) key hKey hFile
    · exact apart_of_dashless (by decide) key hKey hTalk
  have hFirst (key : Text) (hKey : key = "search_query") : PageKey key := hKey ▸ .search
  apply (leads_currentChat h).before
  intro chat _ _ hStarted hChat
  apply ((shows_place rfl).leads hStarted).before
  intro _ _ hTitling hTitled _
  apply ((shows_toggle _).leads hTitled).before
  intro toggled _ hToggling hToggled _
  dsimp only
  apply ((shows_button _).leads hToggled).before
  intro isClosed _ hOffering hOffered _
  cases isClosed with
  | true =>
      -- The pass starts again, so it shows nothing of the session any more.
      simp only [↓reduceIte]
      apply (leads_disconnect hOffered session).before
      intro _ _ _ hClosed _
      exact leads_throw_bind hClosed _
  | false =>
      simp only [Bool.false_eq_true, ↓reduceIte]
      have hLayout : Shows (place (if toggled.isTruthy then .weighted [3, 2] else .container)) := by
        split <;> exact shows_place rfl
      apply (hLayout.leads hOffered).before
      intro _ _ hLaying hLaid _
      apply ((shows_place rfl).leads hLaid).before
      intro _ _ hTabbing hTabbed _
      apply (leads_terminal hTabbed hSession).bind hSearch hFirst fun _ => .pane
      intro _ _ hSearching hSearched _
      have hLaterChat := ((hChat.mono hTitling).mono hToggling).mono hOffering
      exact leads_panes hSearched hSession (((hLaterChat.mono hLaying).mono hTabbing).mono hSearching) _

/-- The page keeps everything in order, and has distinct keys. -/
theorem leads_page (h : Sound store run.memory run.world) :
    Leads (Sound store) page run PageKey anything := by
  apply leads_get_bind
  have hConnect : Leads (Sound store) connectPage run PageKey anything :=
    (leads_connectPage h).mono fun _ => .shelf
  split
  · rename_i session hMemory
    split
    · exact leads_sessionPage h (h.session session hMemory)
    · exact hConnect
  · exact hConnect

end PhantomHost.Page
