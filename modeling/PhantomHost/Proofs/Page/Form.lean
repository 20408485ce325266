import PhantomHost.Page.Connect
import PhantomHost.Proofs.Page.Sound
/-!
The page of someone who is not connected. Its keys are those of the saved connections, which have ids of their own.
-/
namespace PhantomHost.Page

open PhantomHost.Text

variable {store : ProfileStore} {run : Run}

/-- An operation on the saved connections. -/
theorem leads_onProfiles {α : Type} {operation : ProfileStore → World → Except ProfileStore.Fault α × World}
    {wanted : α → Prop} (h : Sound store run.memory run.world)
    (hFile : store.Tended (operation store run.world).2)
    (hFiled : ProfileStore.Filed run.world (operation store run.world).2)
    (hWanted : ∀ value, (operation store run.world).1 = .ok value → wanted value) :
    Leads (Sound store) (onProfiles operation) run noKey fun value _ => wanted value := by
  have hStore : (⟨run.world.settings.profiles⟩ : ProfileStore) = store := by rw [h.path]
  apply leads_get_bind
  rw [hStore]
  apply (leads_onWorld (h.filed hFile hFiled) (Nat.le_of_eq hFiled.messageCount_eq.symm)).before
  rintro value after - hAfter ⟨rfl, -⟩
  split
  · rename_i result hResult
    exact leads_pure hAfter (hWanted result hResult)
  · exact leads_throw hAfter

theorem leads_load (h : Sound store run.memory run.world) :
    Leads (Sound store) (onProfiles ProfileStore.load) run noKey fun saved _ => ProfileStore.Apart saved :=
  leads_onProfiles h h.file.load (ProfileStore.filed_load store run.world) fun _ => h.file.apart_of_load

theorem leads_delete (h : Sound store run.memory run.world) (id : Json) :
    Leads (Sound store) (onProfiles fun store world => store.delete id world) run noKey fun _ _ => True := by
  obtain ⟨hFile, hFiled⟩ := h.file.delete id
  exact leads_onProfiles h hFile hFiled fun _ _ => trivial

theorem leads_currentForm (h : Sound store run.memory run.world) :
    Leads (Sound store) currentForm run noKey fun form _ => form.Named := by
  have hForm : (run.memory.form.getD Form.fresh).Named := by
    cases hMemory : run.memory.form with
    | none => exact Form.named_fresh
    | some form => exact h.form form hMemory
  apply leads_get_bind
  apply (leads_remember (h.keepForm hForm)).before
  intro _ after _ hAfter _
  exact leads_pure hAfter hForm

theorem leads_keepForm (h : Sound store run.memory run.world) {form : Form} (hForm : form.Named) :
    Leads (Sound store) (keepForm form) run noKey fun _ after => after.world = run.world :=
  leads_remember (h.keepForm hForm)

theorem leads_forgetForm (h : Sound store run.memory run.world) :
    Leads (Sound store) forgetForm run noKey fun _ after => after.world = run.world := by
  apply leads_remember
  exact ⟨h.path, h.file, h.session, h.chat, nofun⟩

/-- What the keys of a saved connection begin with. -/
def shelfWords : List Text := ["load", "del"]

theorem dashless_shelfWords : Dashless shelfWords := by
  decide

/-- A saved connection has two keys. -/
theorem leads_savedProfile (h : Sound store run.memory run.world) (form : Form) {profile : Profile}
    (hProfile : ProfileStore.IsId profile.id) :
    Leads (Sound store) (savedProfile form profile) run (Keyed shelfWords (· = profile.id.shown)) anything := by
  have hWithin {word : Text} (hWord : [word] ⊆ shelfWords) (key : Text)
      (hKey : Keyed [word] (· = profile.id.shown) key) : Keyed shelfWords (· = profile.id.shown) key :=
    hKey.mono hWord fun _ => id
  have hApart : Apart (Keyed ["load"] (· = profile.id.shown)) (Keyed ["del"] (· = profile.id.shown)) :=
    apart_of_words (by decide) (by decide) (by decide)
  have hLoadKey : "load-" ++ profile.id.shown = keyed "load" profile.id.shown := rfl
  have hDeleteKey : "del-" ++ profile.id.shown = keyed "del" profile.id.shown := rfl
  apply ((shows_place rfl).leads h).before
  intro _ _ _ hShown _
  apply (leads_keyButton (profileLabel profile) hLoadKey hShown).bind hApart (hWithin (by decide)) (hWithin (by decide))
  intro isChosen chosen _ hChosen _
  -- Where the form is filled, the pass starts again, so the second button is not reached.
  cases isChosen with
  | true =>
      simp only [↓reduceIte]
      apply (leads_keepForm hChosen fun _ => hProfile).before
      intro _ _ _ hFilled _
      exact leads_throw_bind hFilled _
  | false =>
      simp only [Bool.false_eq_true, ↓reduceIte]
      apply (leads_keyButton "Delete" hDeleteKey hChosen).behind
      intro isDeleted after _ hAfter _
      cases isDeleted with
      | false => exact leads_pure hAfter trivial
      | true =>
          simp only [↓reduceIte]
          apply (leads_discard (leads_delete hAfter profile.id)).before
          intro _ deleted _ hDeleted _
          split
          · apply (leads_forgetForm hDeleted).before
            intro _ _ _ hForgotten _
            exact leads_throw hForgotten
          · exact leads_throw hDeleted

/-- Saved connections have keys of their own, for no two have the same id. -/
theorem leads_savedProfiles (h : Sound store run.memory run.world) (form : Form) {saved : List Profile}
    (hSaved : ProfileStore.Apart saved) :
    Leads (Sound store) (savedProfiles form saved) run (Keyed shelfWords fun _ => True) anything := by
  have hPairwise : saved.Pairwise fun first second =>
      Apart (Keyed shelfWords (· = first.id.shown)) (Keyed shelfWords (· = second.id.shown)) := by
    have hDistinct := List.pairwise_map.1 hSaved.distinct
    apply hDistinct.imp_of_mem
    intro first second hFirst hSecond hIds
    apply apart_of_names dashless_shelfWords
    rintro name rfl hShown
    obtain ⟨content, hContent, -⟩ := hSaved.ids first hFirst
    obtain ⟨other, hOther, -⟩ := hSaved.ids second hSecond
    rw [hContent, hOther, Json.shown_text, Json.shown_text] at hShown
    rw [hContent, hOther, hShown] at hIds
    exact hIds rfl
  have hShelf (after : Run) (hAfter : Sound store after.memory after.world) :
      Leads (Sound store) (saved.forM (savedProfile form)) after (Keyed shelfWords fun _ => True) anything := by
    apply leads_forM hPairwise _ _ hAfter
    · exact fun profile _ key hKey => hKey.mono (List.Subset.refl _) fun _ _ => trivial
    · exact fun profile hProfile later _ hLater => leads_savedProfile hLater form (hSaved.ids profile hProfile)
  apply ((shows_place rfl).leads h).before
  intro _ _ _ hTitled _
  apply ((shows_button _).leads hTitled).before
  intro isNew _ _ hOffered _
  cases isNew with
  | true =>
      simp only [↓reduceIte]
      apply (leads_forgetForm hOffered).before
      intro _ _ _ hForgotten _
      exact leads_throw_bind hForgotten _
  | false =>
      simp only [Bool.false_eq_true, ↓reduceIte]
      split
      · apply ((shows_place rfl).leads hOffered).before
        intro _ later _ hLater _
        exact hShelf later hLater
      · exact hShelf _ hOffered

theorem shows_fillIn (form : Form) : Shows (fillIn form) := by
  apply (shows_place rfl).bind
  intro _
  apply (shows_place rfl).bind
  intro _
  apply (shows_textInput _ _).bind
  intro label
  apply (shows_textInput _ _).bind
  intro host
  apply (shows_textInput _ _).bind
  intro username
  apply (shows_answer _ _).bind
  intro port
  apply (shows_place rfl).bind
  intro _
  apply (shows_radio _ _ _).bind
  intro authType
  have hRest : Shows (do
      place (.columns 2)
      let isSaved ← submit "Save Profile"
      let isSent ← submit "Connect"
      return (⟨label, host, username, port, authType, isSaved, isSent⟩ : Entered)) := by
    apply (shows_place rfl).bind
    intro _
    apply (shows_submit _).bind
    intro isSaved
    apply (shows_submit _).bind
    intro isSent
    exact shows_pure _
  dsimp only
  split
  · apply (shows_discard (shows_textInput _ _)).bind
    exact fun _ => hRest
  · exact (shows_place rfl).bind fun _ => hRest

theorem shows_showFault (fault : ProfileStore.Fault) : Shows (showFault fault) := by
  unfold showFault
  split
  · exact shows_place rfl
  · exact shows_throw _

/-- A profile that is saved has an id, which the form then takes over. -/
theorem leads_saveEntered (h : Sound store run.memory run.world) {form : Form} (hForm : form.Named)
    (entered : Entered) : Leads (Sound store) (saveEntered form entered) run noKey anything := by
  unfold saveEntered
  split
  · exact (shows_showFault _).leads h
  · rename_i port hPort
    have hStore : (⟨run.world.settings.profiles⟩ : ProfileStore) = store := by rw [h.path]
    apply leads_get_bind
    rw [hStore]
    dsimp only
    have hDrafted : ProfileStore.Drafted
        { label := entered.label, host := entered.host, username := entered.username, port := .int port,
          authType := entered.authType, id := form.id } := hForm
    obtain ⟨hFile, hFiled, hId⟩ := h.file.save hDrafted
    apply (leads_onWorld (h.filed hFile hFiled) (Nat.le_of_eq hFiled.messageCount_eq.symm)).before
    rintro answer after - hAfter ⟨rfl, -⟩
    split
    · exact (shows_showFault _).leads hAfter
    · rename_i profile hProfile
      apply (leads_keepForm hAfter fun _ => hId profile hProfile).before
      intro _ _ _ hKept _
      exact (shows_place rfl).leads hKept

/-- A session that is opened starts with a host of its own and a new chat. -/
theorem leads_connectEntered (h : Sound store run.memory run.world) (entered : Entered) :
    Leads (Sound store) (connectEntered entered) run noKey anything := by
  unfold connectEntered
  split
  · exact leads_throw h
  · rename_i port hPort
    dsimp only
    apply ((shows_place rfl).leads h).before
    intro _ shown _ hShown _
    have hOpen (connection : Connection) : shown.world.Onward (connection.open? none shown.world).2 :=
      connection.onward_open? none shown.world
    apply (leads_onWorld (hShown.onward (hOpen _)) (hOpen _).messages).before
    rintro answer opened - hOpened ⟨rfl, -⟩
    split
    · exact (shows_place rfl).leads hOpened
    · rename_i session hSession
      have hNamed : session.WellNamed := Session.wellNamed_of_open? (Prod.ext hSession rfl)
      apply (leads_keep hOpened hNamed).before
      intro _ kept _ hKept _
      have hStart := Chat.onward_start Chat.greeting kept.world
      apply (leads_onWorld (hKept.onward hStart) hStart.messages).before
      rintro chat started - hStarted ⟨rfl, hWorld⟩
      have hChat : (Chat.start Chat.greeting kept.world).1.Numbered started.world :=
        hWorld ▸ Chat.numbered_start Chat.greeting kept.world
      apply (leads_keepChat hStarted hChat).before
      intro _ _ _ hTalking _
      exact leads_throw hTalking

/-- The keys of someone who is not connected are those of the saved connections. -/
theorem leads_connectPage (h : Sound store run.memory run.world) :
    Leads (Sound store) connectPage run (Keyed shelfWords fun _ => True) anything := by
  apply (leads_load h).before
  intro saved _ _ hLoaded hSaved
  apply (leads_currentForm hLoaded).before
  intro form _ _ hRemembered hForm
  apply (leads_savedProfiles hRemembered form hSaved).behind
  intro _ _ _ hListed _
  apply ((shows_fillIn form).leads hListed).before
  intro entered filled _ hFilled _
  have hSent (after : Run) (hAfter : Sound store after.memory after.world) :
      Leads (Sound store) (if entered.isSent then connectEntered entered else pure ()) after noKey anything := by
    split
    · exact leads_connectEntered hAfter entered
    · exact leads_pure hAfter trivial
  dsimp only
  split
  · apply (leads_saveEntered hFilled hForm entered).before
    intro _ after _ hAfter _
    exact hSent after hAfter
  · exact hSent filled hFilled

end PhantomHost.Page
