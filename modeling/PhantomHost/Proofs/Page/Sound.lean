import PhantomHost.Proofs.Chat.Transcript
import PhantomHost.Proofs.Page.Keys
import PhantomHost.Proofs.Profile.Tended
import PhantomHost.Proofs.Session.Naming
import PhantomHost.Proofs.World.Onward
/-!
What a pass keeps in order: the file of saved connections, the names that the browser shows, the numbers of the
messages, and the id in the form. Every part of a pass keeps this, also where it breaks off, and needs no more than
this for its keys to be distinct.
-/
namespace PhantomHost.Page

open PhantomHost.Text

/-- The id in a form is one that a file gives back as it was written, if it has one. -/
def Form.Named (form : Form) : Prop :=
  form.id.isTruthy = true → ProfileStore.IsId form.id

theorem Form.named_fresh : Form.fresh.Named :=
  nofun

/-- What the page remembers, and the world around it, in order. -/
structure Sound (store : ProfileStore) (memory : Memory) (world : World) : Prop where
  path : world.settings.profiles = store.path
  file : store.Tended world
  session : ∀ session, memory.session = some session → session.WellNamed
  chat : ∀ chat, memory.chat = some chat → chat.Numbered world
  form : ∀ form, memory.form = some form → form.Named

section

variable {store : ProfileStore} {memory : Memory} {world after : World}

/-- Nothing but the file of saved connections, and the path to it, ties the page to the files. -/
theorem Sound.of_world (h : Sound store memory world) (hPath : after.settings.profiles = world.settings.profiles)
    (hFile : store.Tended after) (hMessages : world.messageCount ≤ after.messageCount) :
    Sound store memory after where
  path := hPath.trans h.path
  file := hFile
  session := h.session
  chat chat hChat := (h.chat chat hChat).mono hMessages
  form := h.form

theorem Sound.onward (h : Sound store memory world) (hOnward : world.Onward after) : Sound store memory after := by
  apply h.of_world
  · rw [hOnward.logged.settings]
  · exact h.file.logged hOnward.logged
  · exact hOnward.messages

theorem Sound.filed (h : Sound store memory world) (hFile : store.Tended after)
    (hFiled : ProfileStore.Filed world after) : Sound store memory after := by
  obtain ⟨_, _, _, _, rfl⟩ := hFiled
  exact h.of_world rfl hFile (Nat.le_refl _)

theorem Sound.keep (h : Sound store memory world) {session : Session} (hSession : session.WellNamed) :
    Sound store { memory with session := some session } world where
  path := h.path
  file := h.file
  session := by
    rintro _ ⟨⟩
    exact hSession
  chat := h.chat
  form := h.form

theorem Sound.keepChat (h : Sound store memory world) {chat : Chat} (hChat : chat.Numbered world) :
    Sound store { memory with chat := some chat } world where
  path := h.path
  file := h.file
  session := h.session
  chat := by
    rintro _ ⟨⟩
    exact hChat
  form := h.form

theorem Sound.keepForm (h : Sound store memory world) {form : Form} (hForm : form.Named) :
    Sound store { memory with form := some form } world where
  path := h.path
  file := h.file
  session := h.session
  chat := h.chat
  form := by
    rintro _ ⟨⟩
    exact hForm

end

variable {store : ProfileStore} {run : Run}

theorem leads_keep (h : Sound store run.memory run.world) {session : Session} (hSession : session.WellNamed) :
    Leads (Sound store) (keep session) run noKey fun _ after => after.world = run.world :=
  leads_remember (h.keep hSession)

theorem leads_keepChat (h : Sound store run.memory run.world) {chat : Chat} (hChat : chat.Numbered run.world) :
    Leads (Sound store) (keepChat chat) run noKey fun _ after => after.world = run.world :=
  leads_remember (h.keepChat hChat)

/-- What else the page remembers does not matter. -/
theorem leads_note {change : Memory → Memory} (h : Sound store run.memory run.world)
    (hSession : (change run.memory).session = run.memory.session) (hChat : (change run.memory).chat = run.memory.chat)
    (hForm : (change run.memory).form = run.memory.form) :
    Leads (Sound store) (remember change) run noKey anything := by
  apply Leads.forget (leads_remember _)
  refine ⟨h.path, h.file, ?_, ?_, ?_⟩
  · rw [hSession]
    exact h.session
  · rw [hChat]
    exact h.chat
  · rw [hForm]
    exact h.form

end PhantomHost.Page
