import Mathlib.Data.List.Nodup
import Std.Data.String.ToNat
import PhantomHost.Proofs.Page.Acts
/-!
The keys that a part of a pass gives to its elements, while what the page remembers stays in order.

Most keys are a word, a dash and a name. Words without a dash keep families of keys apart, names keep the keys of one
family apart. `Leads` says all that has to be known of a part: in order before it, in order after it, wherever it
breaks off, and its keys are distinct and within bounds. Two parts, one after the other, have distinct keys if their
bounds have nothing in common.
-/
namespace PhantomHost.Page

open PhantomHost.Text

/-! ### Keys -/

/-- What stands between the word of a key and a name. -/
def dash : Symbol := .char '-'

/-- The key of a word and a name. -/
def keyed (word name : Text) : Text :=
  word ++ dash :: name

theorem keyed_inj {word other name later : Text} (hWord : dash ∉ word) (hOther : dash ∉ other) :
    keyed word name = keyed other later ↔ word = other ∧ name = later := by
  constructor
  · intro h
    have hFirst {word : Text} (hNone : dash ∉ word) (name : Text) :
        (keyed word name).takeWhile (fun c => c ≠ dash) = word := by
      rw [keyed, List.takeWhile_append_of_pos]
      · simp
      · intro c hc
        simp only [ne_eq, decide_eq_true_eq]
        rintro rfl
        exact hNone hc
    have hSame : word = other := by
      rw [← hFirst hWord name, h, hFirst hOther]
    subst hSame
    rw [keyed, keyed, List.append_cancel_left_eq, List.cons.injEq] at h
    exact ⟨rfl, h.2⟩
  · rintro ⟨rfl, rfl⟩
    rfl

/-- The keys of some words, each with a name of some kind. -/
def Keyed (words : List Text) (names : Text → Prop) (key : Text) : Prop :=
  ∃ word ∈ words, ∃ name, names name ∧ key = keyed word name

/-- Words without a dash. -/
def Dashless (words : List Text) : Prop :=
  ∀ word ∈ words, dash ∉ word

instance (words : List Text) : Decidable (Dashless words) :=
  inferInstanceAs (Decidable (∀ word ∈ words, dash ∉ word))

/-- Nothing is in both bounds. -/
def Apart (first second : Text → Prop) : Prop :=
  ∀ key, first key → ¬second key

section

variable {words others : List Text} {names later : Text → Prop}

theorem Keyed.mono {key : Text} (h : Keyed words names key) (hWords : words ⊆ others)
    (hNames : ∀ name, names name → later name) : Keyed others later key := by
  obtain ⟨word, hWord, name, hName, hKey⟩ := h
  exact ⟨word, hWords hWord, name, hNames name hName, hKey⟩

/-- Keys with different words are different. -/
theorem apart_of_words (hWords : Dashless words) (hOthers : Dashless others) (h : ∀ word ∈ words, word ∉ others) :
    Apart (Keyed words names) (Keyed others later) := by
  rintro key ⟨word, hWord, name, -, rfl⟩ ⟨other, hOther, _, -, hKey⟩
  obtain ⟨rfl, -⟩ := (keyed_inj (hWords word hWord) (hOthers other hOther)).1 hKey
  exact h word hWord hOther

/-- Keys for different names are different. -/
theorem apart_of_names (hWords : Dashless words) (h : ∀ name, names name → ¬later name) :
    Apart (Keyed words names) (Keyed words later) := by
  rintro key ⟨word, hWord, name, hName, rfl⟩ ⟨other, hOther, _, hLater, hKey⟩
  obtain ⟨-, rfl⟩ := (keyed_inj (hWords word hWord) (hWords other hOther)).1 hKey
  exact h name hName hLater

/-- A word that has no dash itself is no such key. -/
theorem apart_of_dashless {word : Text} (h : dash ∉ word) : Apart (· = word) (Keyed others later) := by
  rintro key rfl ⟨other, -, name, -, rfl⟩
  exact h (List.mem_append_right _ List.mem_cons_self)

end

theorem dash_not_mem_digits (n : Nat) : dash ∉ (Text.ofString (toString n)) := by
  intro h
  obtain ⟨c, hc, hDash⟩ := List.mem_map.1 h
  have hDigit := Nat.isDigit_of_mem_toDigits (by decide) (by decide) (Nat.toList_repr ▸ hc)
  rw [Symbol.char.inj hDash] at hDigit
  cases hDigit

/-! ### Parts of a pass -/

variable {α β : Type} {good : Memory → World → Prop}

/-- The keys of the elements of a pass so far. -/
def Run.keys (run : Run) : List Text :=
  run.elements.filterMap Element.key?

@[simp] theorem Run.keys_showing (elements : List Element) (run : Run) :
    (run.showing elements).keys = run.keys ++ elements.filterMap Element.key? :=
  List.filterMap_append

/-- A part of a pass keeps memory and world in order and takes no number of a message back; its keys are distinct and
within bounds; and if it comes to its end, its result is as wanted. -/
structure Leads (good : Memory → World → Prop) (act : Act α) (run : Run) (bound : Text → Prop)
    (wanted : α → Run → Prop) : Prop where
  keys : ∃ keys, (act.run.run run).2.keys = run.keys ++ keys ∧ keys.Nodup ∧ ∀ key ∈ keys, bound key
  messages : run.world.messageCount ≤ (act.run.run run).2.world.messageCount
  good : good (act.run.run run).2.memory (act.run.run run).2.world
  result : ∀ value, (act.run.run run).1 = .ok value → wanted value (act.run.run run).2

/-- No key at all. -/
def noKey (_ : Text) : Prop := False

/-- Nothing is wanted of a result. -/
def anything (_ : α) (_ : Run) : Prop := True

section

variable {act : Act α} {next : α → Act β} {run : Run} {bound later whole : Text → Prop}
  {wanted : α → Run → Prop} {needed : β → Run → Prop}

theorem Leads.mono (h : Leads good act run bound wanted) (hBound : ∀ key, bound key → later key) :
    Leads good act run later wanted where
  keys := by
    obtain ⟨keys, hKeys, hNodup, hBounds⟩ := h.keys
    exact ⟨keys, hKeys, hNodup, fun key hKey => hBound key (hBounds key hKey)⟩
  messages := h.messages
  good := h.good
  result := h.result

theorem Leads.forget (h : Leads good act run bound wanted) : Leads good act run bound anything :=
  ⟨h.keys, h.messages, h.good, fun _ _ => trivial⟩

/-- Parts one after the other: what they can have for keys has nothing in common. -/
theorem Leads.bind (h : Leads good act run bound wanted) (hApart : Apart bound later)
    (hFirst : ∀ key, bound key → whole key) (hSecond : ∀ key, later key → whole key)
    (hNext : ∀ value after, run.world.messageCount ≤ after.world.messageCount → good after.memory after.world →
      wanted value after → Leads good (next value) after later needed) :
    Leads good (act >>= next) run whole needed := by
  obtain ⟨⟨keys, hKeys, hNodup, hBound⟩, hMessages, hGood, hResult⟩ := h
  cases hAct : act.run.run run with
  | mk result after =>
      rw [hAct] at hKeys hMessages hGood hResult
      cases result with
      | error stop =>
          constructor
          · rw [run_bind_error hAct]
            exact ⟨keys, hKeys, hNodup, fun key hKey => hFirst key (hBound key hKey)⟩
          · rwa [run_bind_error hAct]
          · rwa [run_bind_error hAct]
          · rw [run_bind_error hAct]
            exact nofun
      | ok value =>
          obtain ⟨⟨more, hMore, hDistinct, hLater⟩, hCount, hEnd, hValue⟩ :=
            hNext value after hMessages hGood (hResult value rfl)
          constructor
          · rw [run_bind hAct]
            refine ⟨keys ++ more, ?_, ?_, ?_⟩
            · rw [hMore, hKeys, List.append_assoc]
            · apply List.nodup_append.2 ⟨hNodup, hDistinct, ?_⟩
              rintro key hKey _ hOther rfl
              exact hApart key (hBound key hKey) (hLater key hOther)
            · intro key hKey
              rcases List.mem_append.1 hKey with hEarly | hLate
              · exact hFirst key (hBound key hEarly)
              · exact hSecond key (hLater key hLate)
          · rw [run_bind hAct]
            exact Nat.le_trans hMessages hCount
          · rwa [run_bind hAct]
          · rwa [run_bind hAct]

/-- A part without keys before another one. -/
theorem Leads.before (h : Leads good act run noKey wanted)
    (hNext : ∀ value after, run.world.messageCount ≤ after.world.messageCount → good after.memory after.world →
      wanted value after → Leads good (next value) after later needed) :
    Leads good (act >>= next) run later needed :=
  h.bind (fun _ => False.elim) (fun _ => False.elim) (fun _ => id) hNext

/-- A part without keys behind another one. -/
theorem Leads.behind (h : Leads good act run bound wanted)
    (hNext : ∀ value after, run.world.messageCount ≤ after.world.messageCount → good after.memory after.world →
      wanted value after → Leads good (next value) after noKey needed) :
    Leads good (act >>= next) run bound needed :=
  h.bind (fun _ _ => id) (fun _ => id) (fun _ => False.elim) hNext

end

/-! ### Parts that show something and do nothing else -/

section

variable {run : Run}

/-- A part that shows elements without keys and does nothing else. -/
def Shows (act : Act α) : Prop :=
  ∀ run, ∃ result elements, act.run.run run = (result, run.showing elements) ∧
    elements.filterMap Element.key? = []

theorem shows_pure (value : α) : Shows (pure value : Act α) := by
  intro run
  exact ⟨_, [], by rw [Run.showing, List.append_nil]; rfl, rfl⟩

theorem shows_throw (stop : Stop) : Shows (throw stop : Act α) := by
  intro run
  exact ⟨_, [], by rw [Run.showing, List.append_nil]; rfl, rfl⟩

theorem shows_get : Shows (get : Act Run) := by
  intro run
  exact ⟨_, [], by rw [Run.showing, List.append_nil]; rfl, rfl⟩

theorem shows_place {element : Element} (h : element.key? = none) : Shows (place element) := by
  intro run
  exact ⟨_, [element], rfl, List.filterMap_cons_none h⟩

theorem Shows.bind {act : Act α} {next : α → Act β} (h : Shows act) (hNext : ∀ value, Shows (next value)) :
    Shows (act >>= next) := by
  intro run
  obtain ⟨result, elements, hRun, hKeys⟩ := h run
  cases result with
  | error stop => exact ⟨_, elements, run_bind_error hRun, hKeys⟩
  | ok value =>
      obtain ⟨result, more, hMore, hNone⟩ := hNext value (run.showing elements)
      refine ⟨result, elements ++ more, ?_, ?_⟩
      · rw [run_bind hRun, hMore, Run.showing_showing]
      · rw [List.filterMap_append, hKeys, hNone, List.append_nil]

theorem shows_answer (name : Text) (default : Json) : Shows (answer name default) :=
  shows_get.bind fun _ => shows_pure _

theorem shows_textInput (label : Text) (default : Json) : Shows (textInput label default) :=
  (shows_answer label default).bind fun _ => (shows_place rfl).bind fun _ => shows_pure _

theorem shows_button (label : Text) : Shows (button label) :=
  shows_get.bind fun _ => (shows_place rfl).bind fun _ => shows_pure _

theorem shows_submit (label : Text) : Shows (submit label) :=
  shows_get.bind fun _ => (shows_place rfl).bind fun _ => shows_pure _

theorem shows_radio (label : Text) (options : List Text) (default : Text) : Shows (radio label options default) :=
  (shows_answer label _).bind fun _ => (shows_place rfl).bind fun _ => shows_pure _

theorem shows_select (label : Text) (options : List Text) : Shows (select label options) :=
  (shows_answer label _).bind fun _ => (shows_place rfl).bind fun _ => shows_pure _

theorem shows_toggle (label : Text) : Shows (toggle label) :=
  (shows_answer label _).bind fun _ => (shows_place rfl).bind fun _ => shows_pure _

theorem shows_chatInput (label : Text) : Shows (chatInput label) :=
  (shows_answer label _).bind fun _ => (shows_place rfl).bind fun _ => shows_pure _

theorem shows_discard {act : Act α} (h : Shows act) : Shows (discard act) :=
  h.bind fun _ => shows_pure _

theorem shows_textOr (wanted : Text) (value : Json) : Shows (textOr wanted value) := by
  unfold textOr
  split
  · exact shows_pure _
  · split
    · exact shows_throw _
    · exact shows_pure _

/-- What shows something without a key can stand anywhere. -/
theorem Shows.leads {act : Act α} (h : Shows act) (hGood : good run.memory run.world) :
    Leads good act run noKey anything := by
  obtain ⟨result, elements, hRun, hKeys⟩ := h run
  constructor
  · rw [hRun]
    exact ⟨[], by rw [Run.keys_showing, hKeys], List.nodup_nil, nofun⟩
  · rw [hRun]
    exact Nat.le_refl _
  · rw [hRun]
    exact hGood
  · exact fun _ _ => trivial

end

/-! ### Parts that do one thing -/

section

variable {run : Run}

theorem leads_pure {wanted : α → Run → Prop} {value : α} (hGood : good run.memory run.world)
    (h : wanted value run) : Leads good (pure value) run noKey wanted where
  keys := ⟨[], (List.append_nil _).symm, List.nodup_nil, nofun⟩
  messages := Nat.le_refl _
  good := hGood
  result := by
    rintro _ ⟨⟩
    exact h

theorem leads_throw {stop : Stop} {wanted : α → Run → Prop} (hGood : good run.memory run.world) :
    Leads good (throw stop : Act α) run noKey wanted where
  keys := ⟨[], (List.append_nil _).symm, List.nodup_nil, nofun⟩
  messages := Nat.le_refl _
  good := hGood
  result := nofun

/-- Behind what stops a pass nothing is reached. -/
theorem leads_throw_bind {stop : Stop} {bound : Text → Prop} {wanted : β → Run → Prop}
    (hGood : good run.memory run.world) (next : α → Act β) :
    Leads good (throw stop >>= next) run bound wanted :=
  (leads_throw hGood : Leads good (throw stop : Act β) run noKey wanted).mono fun _ => False.elim

/-- What looks at the pass goes on with it. -/
theorem leads_get_bind {next : Run → Act β} {bound : Text → Prop} {wanted : β → Run → Prop}
    (h : Leads good (next run) run bound wanted) : Leads good (get >>= next) run bound wanted := by
  constructor
  · rw [run_bind (run_get run)]
    exact h.keys
  · rw [run_bind (run_get run)]
    exact h.messages
  · rw [run_bind (run_get run)]
    exact h.good
  · rw [run_bind (run_get run)]
    exact h.result

theorem leads_remember {change : Memory → Memory} (h : good (change run.memory) run.world) :
    Leads good (remember change) run noKey fun _ after => after.world = run.world where
  keys := ⟨[], (List.append_nil _).symm, List.nodup_nil, nofun⟩
  messages := Nat.le_refl _
  good := h
  result _ _ := rfl

theorem leads_onWorld {operation : World → α × World} (h : good run.memory (operation run.world).2)
    (hMessages : run.world.messageCount ≤ (operation run.world).2.messageCount) :
    Leads good (onWorld operation) run noKey fun value after =>
      value = (operation run.world).1 ∧ after.world = (operation run.world).2 where
  keys := ⟨[], (List.append_nil _).symm, List.nodup_nil, nofun⟩
  messages := hMessages
  good := h
  result := by
    rintro _ ⟨⟩
    exact ⟨rfl, rfl⟩

theorem leads_setWorld {world : World} (h : good run.memory world)
    (hMessages : run.world.messageCount ≤ world.messageCount) :
    Leads good (modify fun run => { run with world := world }) run noKey anything where
  keys := ⟨[], (List.append_nil _).symm, List.nodup_nil, nofun⟩
  messages := hMessages
  good := h
  result _ _ := trivial

/-- An element with a key shows that key. -/
theorem leads_place {element : Element} {key : Text} (hKey : element.key? = some key)
    (hGood : good run.memory run.world) : Leads good (place element) run (· = key) anything where
  keys := by
    refine ⟨[key], ?_, List.nodup_singleton key, fun _ => List.mem_singleton.1⟩
    rw [run_place, Run.keys_showing, List.filterMap_cons_some hKey, List.filterMap_nil]
  messages := Nat.le_refl _
  good := hGood
  result _ _ := trivial

/-- A button with a word and a name for its key. -/
theorem leads_keyButton (label : Text) {word name key : Text} (hKey : key = keyed word name)
    (hGood : good run.memory run.world) :
    Leads good (keyButton label key) run (Keyed [word] (· = name)) anything := by
  subst hKey
  apply leads_get_bind
  apply Leads.mono _ fun key (hKey : key = keyed word name) => ⟨word, List.mem_cons_self, name, rfl, hKey⟩
  apply (leads_place rfl hGood).behind
  intro _ _ _ hGood _
  exact leads_pure hGood trivial

theorem leads_keyInput (label key : Text) (default : Json) (hGood : good run.memory run.world) :
    Leads good (keyInput label key default) run (· = key) anything := by
  apply ((shows_answer key default).leads hGood).before
  intro _ _ _ hGood _
  apply (leads_place rfl hGood).behind
  intro _ _ _ hGood _
  exact leads_pure hGood trivial

theorem leads_fileInput (label key : Text) (hGood : good run.memory run.world) :
    Leads good (fileInput label key) run (· = key) anything := by
  apply (leads_place rfl hGood).behind
  intro _ _ _ hGood _
  apply leads_get_bind
  split
  · exact leads_pure hGood trivial
  · exact leads_pure hGood trivial
  · exact leads_pure hGood trivial
  · exact leads_throw hGood

theorem leads_discard {act : Act α} {bound : Text → Prop} {wanted : α → Run → Prop}
    (h : Leads good act run bound wanted) : Leads good (discard act) run bound anything := by
  have hBind : discard act = act >>= fun _ => pure () := rfl
  rw [hBind]
  apply h.behind
  intro _ _ _ hGood _
  exact leads_pure hGood trivial

/-- The same part for each item of a list: the items have nothing in common. -/
theorem leads_forM {items : List β} {act : β → Act Unit} {bound : β → Text → Prop} {later : Text → Prop}
    (hApart : items.Pairwise fun first second => Apart (bound first) (bound second))
    (hBound : ∀ item ∈ items, ∀ key, bound item key → later key)
    (hItem : ∀ item ∈ items, ∀ after, run.world.messageCount ≤ after.world.messageCount →
      good after.memory after.world → Leads good (act item) after (bound item) anything)
    (hGood : good run.memory run.world) : Leads good (items.forM act) run later anything := by
  induction items generalizing run later with
  | nil => exact (leads_pure hGood trivial).mono fun _ => False.elim
  | cons item rest ih =>
      rw [List.pairwise_cons] at hApart
      rw [List.forall_mem_cons] at hBound hItem
      -- All that the rest can have for keys is a bound of its own, which only holds what is within that of an item.
      have hOthers : Apart (bound item) fun key => ∃ other ∈ rest, bound other key := by
        rintro key hKey ⟨other, hOther, hLater⟩
        exact hApart.1 other hOther key hKey hLater
      have hLater (key : Text) : (∃ other ∈ rest, bound other key) → later key := by
        rintro ⟨other, hOther, hKey⟩
        exact hBound.2 other hOther key hKey
      apply (hItem.1 run (Nat.le_refl _) hGood).bind hOthers hBound.1 hLater
      intro _ after hMessages hAfter _
      apply ih hApart.2 (fun other hOther key hKey => ⟨other, hOther, hKey⟩) _ hAfter
      intro other hOther final hCount
      exact hItem.2 other hOther final (Nat.le_trans hMessages hCount)

end

end PhantomHost.Page
