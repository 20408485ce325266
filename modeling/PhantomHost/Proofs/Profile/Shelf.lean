import Mathlib.Data.List.Find
import PhantomHost.Proofs.Profile.Ready
import PhantomHost.Proofs.Profile.Saving
/-!
The store as a list in memory.

A shelf keeps profiles in a list and does what the store does with its file. Over every sequence of calls
with texts and integers the store answers as the shelf does that starts with what the store loads, as long as
its writes succeed.
-/
namespace PhantomHost

open PhantomHost.Text PhantomHost.Decimal

namespace ProfileStore

/-- A connection that is to be saved, with texts for all its fields but the port. -/
structure Form where
  label : Text
  host : Text
  username : Text
  port : Int
  authType : Text
  id : Option Text

/-- A call of a store. -/
inductive Call where
  | load
  | get (id : Text)
  | delete (id : Text)
  | save (form : Form)

/-- What a call gives back. -/
inductive Result where
  | listed (profiles : List Profile)
  | found (profile : Option Profile)
  | deleted (any : Bool)
  | saved (profile : Profile)
  deriving DecidableEq

def Form.draft (form : Form) : ProfileDraft :=
  { label := .text form.label
    host := .text form.host
    username := .text form.username
    port := .int form.port
    authType := .text form.authType
    id := match form.id with
      | none => .null
      | some id => .text id }

/-- The answer of a store to a call. -/
def step (store : ProfileStore) : Call → World → Except Fault Result × World
  | .load, world => ((store.load world).1.map .listed, (store.load world).2)
  | .get id, world => ((store.get (.text id) world).1.map .found, (store.get (.text id) world).2)
  | .delete id, world => ((store.delete (.text id) world).1.map .deleted, (store.delete (.text id) world).2)
  | .save form, world => ((store.save form.draft world).1.map .saved, (store.save form.draft world).2)

/-- The answers of a store to calls, one after the other. -/
def run (store : ProfileStore) : List Call → World → List (Except Fault Result) × World
  | [], world => ([], world)
  | call :: rest, world =>
    ((store.step call world).1 :: (store.run rest (store.step call world).2).1,
      (store.run rest (store.step call world).2).2)

end ProfileStore

/-- Profiles in a list, and how many ids have been given out. -/
structure Shelf where
  profiles : List Profile
  given : Nat

namespace Shelf

open ProfileStore

/-- The id of a form, or a new one if it has none. -/
def identify (form : Form) (given : Nat) : Text × Nat :=
  match form.id with
  | none => (hexDigits 12 (given + 1), given + 1)
  | some id => if id = [] then (hexDigits 12 (given + 1), given + 1) else (id, given)

/-- A list with a profile in the place of the first with its id, or at the end. -/
def put (new : Profile) (profiles : List Profile) : List Profile :=
  match profiles.findIdx? fun profile => profile.id = new.id with
  | some index => profiles.set index new
  | none => profiles ++ [new]

/-- The answer of a shelf to a call. -/
def step : Call → Shelf → Except Fault Result × Shelf
  | .load, shelf => (.ok (.listed shelf.profiles), shelf)
  | .get id, shelf => (.ok (.found (shelf.profiles.find? fun profile => profile.id = .text id)), shelf)
  | .delete id, shelf =>
    (.ok (.deleted (shelf.profiles.any fun profile => profile.id = .text id)),
      { shelf with profiles := shelf.profiles.filter fun profile => profile.id ≠ .text id })
  | .save form, shelf =>
    if form.label = [] then (.error .noLabel, shelf)
    else
      let (id, given) := identify form shelf.given
      let new : Profile :=
        ⟨.text id, .text form.label, .text form.host, .text form.username, form.port, .text form.authType⟩
      (.ok (.saved new), ⟨put new shelf.profiles, given⟩)

/-- The answers of a shelf to calls, one after the other. -/
def run : List Call → Shelf → List (Except Fault Result) × Shelf
  | [], shelf => ([], shelf)
  | call :: rest, shelf =>
    ((step call shelf).1 :: (run rest (step call shelf).2).1, (run rest (step call shelf).2).2)

end Shelf

namespace Profile

/-- All fields but the port are texts. -/
def Textual (profile : Profile) : Prop :=
  ∀ value ∈ profile.values, ∃ content, value = .text content

theorem Textual.uncopied?_eq_none {profile : Profile} (h : profile.Textual) : profile.uncopied? = none := by
  unfold Textual at h
  unfold uncopied?
  generalize profile.values = values at h
  induction values with
  | nil => rfl
  | cons value rest ih =>
      obtain ⟨content, rfl⟩ := h value List.mem_cons_self
      rw [Json.deepestItem?, ih fun other hOther => h other (List.mem_cons_of_mem _ hOther), Json.deepest?]
      rfl

theorem Textual.exists_id {profile : Profile} (h : profile.Textual) : ∃ id, profile.id = .text id :=
  h profile.id List.mem_cons_self

/-- Texts for ids are the same if they are equal. -/
theorem Textual.same_id {profile : Profile} (h : profile.Textual) (id : Text) :
    profile.id.same (.text id) = decide (profile.id = .text id) := by
  obtain ⟨own, hOwn⟩ := h.exists_id
  rw [hOwn, Json.same]
  simp only [Json.text.injEq]
  exact beq_eq_decide own id

end Profile

namespace ProfileStore

theorem anyOverlong_of_forall {profiles : List Profile}
    (h : ∀ profile ∈ profiles, profile.toJson.isOverlong = false) :
    Json.anyOverlong (profiles.map Profile.toJson) = false := by
  induction profiles with
  | nil => rfl
  | cons profile rest ih =>
      rw [List.map_cons, Json.anyOverlong, h profile List.mem_cons_self,
        ih fun other hOther => h other (List.mem_cons_of_mem _ hOther)]
      rfl

theorem anyOverlong_eq_false {profiles : List Profile} (h : ∀ profile ∈ profiles, profile.Kept) :
    Json.anyOverlong (profiles.map Profile.toJson) = false :=
  anyOverlong_of_forall fun profile hProfile => (h profile hProfile).isOverlong_toJson

theorem put_eq {new : Profile} {id : Text} (hNew : new.id = .text id) {profiles : List Profile}
    (h : ∀ profile ∈ profiles, profile.Textual) : put new profiles = Shelf.put new profiles := by
  induction profiles with
  | nil => rfl
  | cons old rest ih =>
      have hRest := ih fun other hOther => h other (List.mem_cons_of_mem _ hOther)
      have hSame := (h old List.mem_cons_self).same_id id
      rw [← hNew] at hSame
      rw [put, Shelf.put, List.findIdx?_cons, hSame]
      by_cases hId : old.id = new.id
      · simp [hId]
      · rw [hRest, Shelf.put]
        simp only [hId, decide_false, Bool.false_eq_true, if_false]
        cases rest.findIdx? fun profile => decide (profile.id = new.id) with
        | none => rfl
        | some index => rfl

theorem mem_put {new profile : Profile} {profiles : List Profile} (h : profile ∈ put new profiles) :
    profile = new ∨ profile ∈ profiles := by
  induction profiles with
  | nil => exact Or.inl (List.mem_singleton.1 h)
  | cons old rest ih =>
      rw [put] at h
      split at h
      · rcases List.mem_cons.1 h with hNew | hRest
        · exact Or.inl hNew
        · exact Or.inr (List.mem_cons_of_mem _ hRest)
      · rcases List.mem_cons.1 h with hOld | hRest
        · exact Or.inr (hOld ▸ List.mem_cons_self)
        · rcases ih hRest with hNew | hMore
          · exact Or.inl hNew
          · exact Or.inr (List.mem_cons_of_mem _ hMore)

/-- A form with texts of characters and a port that is not too long. -/
structure Form.Plain (form : Form) : Prop where
  label : ∀ c ∈ form.label, c.isLone = false
  host : ∀ c ∈ form.host, c.isLone = false
  username : ∀ c ∈ form.username, c.isLone = false
  port : Readable form.port
  authType : ∀ c ∈ form.authType, c.isLone = false
  id : ∀ id, form.id = some id → ∀ c ∈ id, c.isLone = false

/-- What a store loads is what stands on a shelf, and can be written and read back as it is. -/
structure Agrees (store : ProfileStore) (world : World) (shelf : Shelf) : Prop where
  loads : (store.load world).1 = .ok shelf.profiles
  given : world.profileCount = shelf.given
  log : store.LogsElsewhere world
  texts : ∀ profile ∈ shelf.profiles, profile.Textual
  kept : ∀ profile ∈ shelf.profiles, profile.Kept

section

variable {store : ProfileStore} {world : World} {shelf : Shelf}

/-- A shelf is not affected by what leaves the file as it is. -/
theorem Agrees.of_read_iff {other : World} {given : Nat} (h : Agrees store world shelf)
    (hRead : ∀ bytes, other.disk.read store.path = .ok bytes ↔ world.disk.read store.path = .ok bytes)
    (hGiven : other.profileCount = given) (hListener : other.listener = world.listener) :
    Agrees store other ⟨shelf.profiles, given⟩ where
  loads := by rw [load_congr hRead, h.loads]
  given := hGiven
  log := h.log.of_listener_eq hListener
  texts := h.texts
  kept := h.kept

theorem Agrees.load (h : Agrees store world shelf) : Agrees store (store.load world).2 shelf :=
  h.of_read_iff (read_load h.log) ((profileCount_load store world).trans h.given) (listener_load store world)

theorem Agrees.say (h : Agrees store world shelf) (notice : Notice) :
    Agrees store (world.say notice) shelf :=
  h.of_read_iff (read_say h.log notice) ((World.profileCount_say notice world).trans h.given)
    (World.listener_say notice world)

/-- A form gets the same id from the store and from the shelf. -/
theorem Agrees.identify (h : Agrees store world shelf) (form : Form) :
    (ProfileStore.identify form.draft world).1 = .text (Shelf.identify form shelf.given).1 ∧
      Agrees store (ProfileStore.identify form.draft world).2
        ⟨shelf.profiles, (Shelf.identify form shelf.given).2⟩ := by
  have hNew : (newId world).1 = .text (hexDigits 12 (shelf.given + 1)) ∧
      Agrees store (newId world).2 ⟨shelf.profiles, shelf.given + 1⟩ := by
    rw [newId, h.given]
    exact ⟨rfl, h.of_read_iff (fun bytes => Iff.rfl) rfl rfl⟩
  unfold ProfileStore.identify Shelf.identify Form.draft
  cases form.id with
  | none => exact hNew
  | some id =>
      by_cases hEmpty : id = []
      · rw [hEmpty]
        exact hNew
      · have hTruthy : (Json.text id).isTruthy = true := by simpa [Json.isTruthy, Text.ofString] using hEmpty
        simp only [hTruthy, if_true, if_neg hEmpty]
        exact ⟨trivial, h⟩

/-- Profiles of texts are written, if the disk lets it be. -/
theorem Agrees.write (h : Agrees store world shelf) {profiles : List Profile}
    (hTexts : ∀ profile ∈ profiles, profile.Textual) (hKept : ∀ profile ∈ profiles, profile.Kept)
    (hDisk : Undisturbed (store.write profiles world).1) :
    ∃ after, store.write profiles world = (.ok (), after) ∧ Agrees store after ⟨profiles, shelf.given⟩ := by
  have hCopied : profiles.findSome? Profile.uncopied? = none :=
    List.findSome?_eq_none_iff.2 fun profile hProfile => (hTexts profile hProfile).uncopied?_eq_none
  have hShort := anyOverlong_eq_false hKept
  obtain ⟨name, hName⟩ := exists_bytes_of_load h.loads
  cases hWrite : store.write profiles world with
  | mk result after =>
      rw [hWrite] at hDisk
      cases result with
      | error fault =>
          obtain ⟨reason, rfl⟩ := write_eq_error hWrite hCopied hShort
          exact absurd rfl (hDisk reason)
      | ok written =>
          obtain ⟨-, hRead, hSame⟩ := write_eq_ok hWrite
          refine ⟨after, rfl, ?_⟩
          refine ⟨?_, ?_, h.log.of_listener_eq (listener_write hWrite), hTexts, hKept⟩
          · rw [load_of_read hName hRead hCopied hShort, Profile.map_normal_eq hKept]
          · rw [hSame]
            exact h.given

theorem Agrees.step_load (h : Agrees store world shelf) :
    (store.step .load world).1 = (Shelf.step .load shelf).1 ∧
      Agrees store (store.step .load world).2 (Shelf.step .load shelf).2 := by
  refine ⟨?_, h.load⟩
  simp only [step, Shelf.step, h.loads]
  rfl

theorem Agrees.step_get (h : Agrees store world shelf) (id : Text) :
    (store.step (.get id) world).1 = (Shelf.step (.get id) shelf).1 ∧
      Agrees store (store.step (.get id) world).2 (Shelf.step (.get id) shelf).2 := by
  refine ⟨?_, h.load⟩
  have hFind : shelf.profiles.find? (fun profile => profile.id.same (.text id)) =
      shelf.profiles.find? fun profile => profile.id = .text id :=
    List.find?_congr fun profile hProfile => (h.texts profile hProfile).same_id id
  simp only [step, Shelf.step, get, h.loads]
  rw [← hFind]
  rfl

/-- Nothing is taken away if there is nothing to take away. -/
theorem length_filter_not_iff (profiles : List Profile) (p : Profile → Bool) :
    (profiles.filter fun profile => !p profile).length = profiles.length ↔ profiles.any p = false := by
  rw [List.length_filter_eq_length_iff, List.any_eq_false]
  simp only [Bool.not_eq_true', Bool.not_eq_true]

/-- Nothing is deleted if no profile has the id. -/
theorem length_filter_ne_iff (profiles : List Profile) (id : Json) :
    (profiles.filter fun profile => profile.id ≠ id).length = profiles.length ↔
      profiles.any (fun profile => profile.id = id) = false := by
  simp only [ne_eq, decide_not]
  exact length_filter_not_iff profiles fun profile => profile.id = id

theorem Agrees.filter_same_eq (h : Agrees store world shelf) (id : Text) :
    shelf.profiles.filter (fun profile => !profile.id.same (.text id)) =
      shelf.profiles.filter fun profile => profile.id ≠ .text id := by
  apply List.filter_congr
  intro profile hProfile
  rw [(h.texts profile hProfile).same_id id, ← decide_not]

theorem Agrees.step_delete (h : Agrees store world shelf) (id : Text)
    (hDisk : Undisturbed (store.step (.delete id) world).1) :
    (store.step (.delete id) world).1 = (Shelf.step (.delete id) shelf).1 ∧
      Agrees store (store.step (.delete id) world).2 (Shelf.step (.delete id) shelf).2 := by
  simp only [step, delete_eq h.loads, h.filter_same_eq id, Shelf.step] at hDisk ⊢
  by_cases hLength : (shelf.profiles.filter fun profile => profile.id ≠ .text id).length =
      shelf.profiles.length
  · have hSame : shelf.profiles.filter (fun profile => profile.id ≠ .text id) = shelf.profiles :=
      List.filter_eq_self.2 (List.length_filter_eq_length_iff.1 hLength)
    rw [if_pos hLength, (length_filter_ne_iff _ _).1 hLength, hSame]
    exact ⟨rfl, h.load⟩
  · have hAny : shelf.profiles.any (fun profile => profile.id = .text id) = true := by
      rw [← Bool.not_eq_false, ← length_filter_ne_iff]
      exact hLength
    rw [if_neg hLength] at hDisk ⊢
    obtain ⟨after, hWrite, hAfter⟩ := h.load.write
      (fun profile hProfile => h.texts profile (List.mem_of_mem_filter hProfile))
      (fun profile hProfile => h.kept profile (List.mem_of_mem_filter hProfile))
      (by
        intro reason hFault
        rw [eq_mk_of_fst_eq hFault] at hDisk
        exact hDisk reason rfl)
    rw [hWrite, hAny]
    exact ⟨rfl, hAfter.say _⟩

/-- A form without a label is refused, and nothing happens. -/
theorem save_noLabel {form : Form} (h : form.label = []) (store : ProfileStore) (world : World) :
    store.save form.draft world = (.error .noLabel, world) := by
  have hFalse : form.draft.label.isTruthy = false := by simp [Form.draft, h, Json.isTruthy, Text.ofString]
  simp only [save, hFalse]
  rfl

theorem Form.isTruthy_label (form : Form) (h : form.label ≠ []) : form.draft.label.isTruthy = true := by
  simpa [Form.draft, Json.isTruthy, Text.ofString] using h

theorem isLone_of_isPlain {c : Symbol} (h : Json.isPlain c = true) : c.isLone = false := by
  cases c with
  | char c => rfl
  | lone half =>
      rw [Json.isPlain, Bool.and_eq_true, decide_eq_true_eq, Symbol.code] at h
      omega

theorem Form.Plain.identify {form : Form} (h : form.Plain) (given : Nat) :
    ∀ c ∈ (Shelf.identify form given).1, c.isLone = false := by
  have hNew : ∀ c ∈ hexDigits 12 (given + 1), c.isLone = false := fun c hc =>
    isLone_of_isPlain (List.all_eq_true.1 (Json.all_isPlain_hexDigits 12 (given + 1)) c hc)
  unfold Shelf.identify
  split
  · exact hNew
  · rename_i id hId
    split
    · exact hNew
    · exact h.id id hId

/-- The profile of a form is made of texts. -/
theorem textual_drafted (form : Form) (id : Text) : (drafted form.draft (.text id) form.port).Textual := by
  intro value hValue
  simp only [Profile.values, drafted, Form.draft, List.mem_cons, List.not_mem_nil, or_false] at hValue
  rcases hValue with rfl | rfl | rfl | rfl | rfl
  all_goals exact ⟨_, rfl⟩

theorem Form.Plain.kept_drafted {form : Form} (h : form.Plain) {id : Text}
    (hId : ∀ c ∈ id, c.isLone = false) : (drafted form.draft (.text id) form.port).Kept := by
  refine ⟨?_, h.port⟩
  intro value hValue
  simp only [Profile.values, drafted, Form.draft, List.mem_cons, List.not_mem_nil, or_false] at hValue
  rcases hValue with rfl | rfl | rfl | rfl | rfl
  · exact .text (ofUnits_units hId)
  · exact .text (ofUnits_units h.label)
  · exact .text (ofUnits_units h.host)
  · exact .text (ofUnits_units h.username)
  · exact .text (ofUnits_units h.authType)

theorem Agrees.step_save (h : Agrees store world shelf) {form : Form} (hForm : form.Plain)
    (hDisk : Undisturbed (store.step (.save form) world).1) :
    (store.step (.save form) world).1 = (Shelf.step (.save form) shelf).1 ∧
      Agrees store (store.step (.save form) world).2 (Shelf.step (.save form) shelf).2 := by
  by_cases hLabel : form.label = []
  · simp only [step, save_noLabel hLabel, Shelf.step, if_pos hLabel]
    exact ⟨rfl, h⟩
  · have hTruthy := form.isTruthy_label hLabel
    have hPort : Profile.portOf form.draft.port = .ok form.port := rfl
    obtain ⟨hId, hIdentified⟩ := h.load.identify form
    have hTextual := textual_drafted form (Shelf.identify form shelf.given).1
    have hKept := hForm.kept_drafted (hForm.identify shelf.given)
    simp only [step, save_eq hTruthy h.loads hPort, hId] at hDisk ⊢
    simp only [Shelf.step, if_neg hLabel]
    generalize hNew : drafted form.draft (.text (Shelf.identify form shelf.given).1) form.port = new at *
    have hNewId : new.id = .text (Shelf.identify form shelf.given).1 := by
      rw [← hNew]
      rfl
    have hTexts : ∀ profile ∈ put new shelf.profiles, profile.Textual := by
      intro profile hProfile
      rcases mem_put hProfile with rfl | hOld
      · exact hTextual
      · exact h.texts profile hOld
    have hAllKept : ∀ profile ∈ put new shelf.profiles, profile.Kept := by
      intro profile hProfile
      rcases mem_put hProfile with rfl | hOld
      · exact hKept
      · exact h.kept profile hOld
    obtain ⟨after, hWrite, hAfter⟩ := hIdentified.write hTexts hAllKept (by
      intro reason hFault
      rw [eq_mk_of_fst_eq hFault] at hDisk
      exact hDisk reason rfl)
    rw [put_eq hNewId h.texts] at hAfter
    rw [hWrite, ← hNew] at *
    exact ⟨rfl, hAfter.say _⟩

theorem Agrees.step (h : Agrees store world shelf) {call : Call} (hCall : ∀ form, call = .save form → form.Plain)
    (hDisk : Undisturbed (store.step call world).1) :
    (store.step call world).1 = (Shelf.step call shelf).1 ∧
      Agrees store (store.step call world).2 (Shelf.step call shelf).2 := by
  cases call with
  | load => exact h.step_load
  | get id => exact h.step_get id
  | delete id => exact h.step_delete id hDisk
  | save form => exact h.step_save (hCall form rfl) hDisk

/-- Whether an answer tells that a write failed. -/
def writeFailed : Except Fault Result → Bool
  | .error (.disk _) => true
  | _ => false

/-- Whether an answer tells that something has been written. -/
def changes : Except Fault Result → Bool
  | .ok (.saved _) => true
  | .ok (.deleted any) => any
  | _ => false

theorem undisturbed_of_writeFailed {answer : Except Fault Result} (h : writeFailed answer = false) :
    Undisturbed answer := by
  rintro reason rfl
  cases h

/-- A call that changes nothing leaves the bytes of the file as they are. -/
theorem Agrees.read_step (h : Agrees store world shelf) {call : Call}
    (hCall : ∀ form, call = .save form → form.Plain)
    (hDisk : Undisturbed (store.step call world).1)
    (hSame : changes (store.step call world).1 = false) (bytes : List UInt8) :
    (store.step call world).2.disk.read store.path = .ok bytes ↔
      world.disk.read store.path = .ok bytes := by
  obtain ⟨hAnswer, -⟩ := h.step hCall hDisk
  rw [hAnswer] at hSame
  cases call with
  | load => exact read_load h.log bytes
  | get id => exact read_load h.log bytes
  | delete id =>
      have hLength := (length_filter_ne_iff _ _).2 hSame
      simp only [ProfileStore.step, delete_eq h.loads, h.filter_same_eq id, if_pos hLength]
      exact read_load h.log bytes
  | save form =>
      simp only [Shelf.step] at hSame
      split at hSame
      · rename_i hLabel
        rw [ProfileStore.step, save_noLabel hLabel]
      · cases hSame

theorem run_append (store : ProfileStore) (past rest : List Call) (world : World) :
    (store.run (past ++ rest) world).1 =
      (store.run past world).1 ++ (store.run rest (store.run past world).2).1 := by
  induction past generalizing world with
  | nil => rfl
  | cons call past ih =>
      simp only [List.cons_append, run]
      rw [ih]

theorem Agrees.run (h : Agrees store world shelf) {calls : List Call}
    (hCalls : ∀ form, .save form ∈ calls → form.Plain)
    (hWrites : ∀ answer ∈ (store.run calls world).1, writeFailed answer = false) :
    (store.run calls world).1 = (Shelf.run calls shelf).1 ∧
      Agrees store (store.run calls world).2 (Shelf.run calls shelf).2 := by
  induction calls generalizing world shelf with
  | nil => exact ⟨rfl, h⟩
  | cons call rest ih =>
      simp only [ProfileStore.run, List.mem_cons, forall_eq_or_imp] at hWrites
      obtain ⟨hAnswer, hNext⟩ := h.step (fun form hForm => hCalls form (hForm ▸ List.mem_cons_self))
        (undisturbed_of_writeFailed hWrites.1)
      obtain ⟨hAnswers, hLast⟩ := ih hNext (fun form hForm => hCalls form (List.mem_cons_of_mem _ hForm))
        hWrites.2
      simp only [ProfileStore.run, Shelf.run]
      rw [hAnswer, hAnswers]
      exact ⟨rfl, hLast⟩

end

theorem Undisturbed.writeFailed_map {α : Type} {answer : Except Fault α} {f : α → Result}
    (h : Undisturbed answer) : writeFailed (answer.map f) = false := by
  cases answer with
  | ok value => rfl
  | error fault =>
      cases fault with
      | disk reason => exact absurd rfl (h reason)
      | noPath fault => rfl
      | noText error => rfl
      | tooDeep object => rfl
      | uncopied object => rfl
      | overlong => rfl
      | port fault => rfl
      | noLabel => rfl

theorem undisturbed_get (store : ProfileStore) (id : Json) (world : World) :
    Undisturbed (store.get id world).1 := by
  have hLoad := undisturbed_load store world
  unfold ProfileStore.get
  cases hResult : (store.load world).1 with
  | ok profiles =>
      simp only [hResult]
      exact undisturbed_ok _
  | error fault =>
      rw [hResult] at hLoad
      simp only [hResult]
      exact hLoad.pass

theorem Ready.step {store : ProfileStore} {world : World} (h : store.Ready world.disk) (call : Call) :
    writeFailed (store.step call world).1 = false ∧ store.Ready (store.step call world).2.disk := by
  cases call with
  | load => exact ⟨(undisturbed_load store world).writeFailed_map, h.load⟩
  | get id => exact ⟨(undisturbed_get store (.text id) world).writeFailed_map, h.load⟩
  | delete id => exact ⟨(h.delete (.text id)).1.writeFailed_map, (h.delete (.text id)).2⟩
  | save form => exact ⟨(h.save form.draft).1.writeFailed_map, (h.save form.draft).2⟩

/-- Where the file can be written, no write fails over any sequence of calls. -/
theorem Ready.run {store : ProfileStore} {world : World} (h : store.Ready world.disk) (calls : List Call) :
    ∀ answer ∈ (store.run calls world).1, writeFailed answer = false := by
  induction calls generalizing world with
  | nil => exact nofun
  | cons call rest ih =>
      obtain ⟨hFirst, hNext⟩ := h.step call
      simp only [ProfileStore.run, List.mem_cons, forall_eq_or_imp]
      exact ⟨hFirst, ih hNext⟩

/-- Over every sequence of calls, the store answers as the shelf that starts with what the store loads, and
a call that changes nothing leaves the bytes of the file as they are. The log goes to another file
(`logsElsewhere_of_name`), and no write fails (`Ready.run`). -/
theorem answers_eq_shelf {store : ProfileStore} {world : World} {profiles : List Profile}
    (hLoad : (store.load world).1 = .ok profiles) (hTexts : ∀ profile ∈ profiles, profile.Textual)
    (hLog : store.LogsElsewhere world) {calls : List Call} (hCalls : ∀ form, .save form ∈ calls → form.Plain)
    (hWrites : ∀ answer ∈ (store.run calls world).1, writeFailed answer = false) :
    (store.run calls world).1 = (Shelf.run calls ⟨profiles, world.profileCount⟩).1 ∧
      ∀ past call rest, calls = past ++ call :: rest →
        changes (store.step call (store.run past world).2).1 = false → ∀ bytes,
          (store.step call (store.run past world).2).2.disk.read store.path = .ok bytes ↔
            (store.run past world).2.disk.read store.path = .ok bytes := by
  have hAgrees : Agrees store world ⟨profiles, world.profileCount⟩ :=
    ⟨hLoad, rfl, hLog, hTexts, kept_of_load hLoad⟩
  refine ⟨(hAgrees.run hCalls hWrites).1, ?_⟩
  rintro past call rest rfl hSame bytes
  rw [run_append] at hWrites
  have hPast := (hAgrees.run (fun form hForm => hCalls form (List.mem_append_left _ hForm))
    fun answer hAnswer => hWrites answer (List.mem_append_left _ hAnswer)).2
  refine hPast.read_step ?_ ?_ hSame bytes
  · rintro form rfl
    exact hCalls form (List.mem_append_right _ List.mem_cons_self)
  · exact undisturbed_of_writeFailed (hWrites _ (List.mem_append_right _ List.mem_cons_self))

theorem ready_quietWith (text : Text) : atRoot.Ready (quietWith text).disk := by
  have hReady : atRoot.Ready World.quiet.disk := by
    refine ⟨by decide +kernel, atRoot.path, by decide +kernel, by decide +kernel⟩
  exact hReady.write_disk (write_quietWith text)

/-- A profile is added and changed, and one is deleted twice. -/
def callsA : List Call := [
  .save ⟨"B", "h", "u", 22, "password", none⟩,
  .save ⟨"", "h", "u", 22, "password", none⟩,
  .save ⟨"C", "h", "u", 23, "key", some "000000000001"⟩,
  .get "a", .delete "a", .delete "a", .load]

theorem plain_callsA : ∀ form, .save form ∈ callsA → form.Plain := by
  intro form hForm
  simp only [callsA, List.mem_cons, Call.save.injEq, List.not_mem_nil, or_false, reduceCtorEq] at hForm
  rcases hForm with rfl | rfl | rfl
  · exact ⟨by decide, by decide, by decide, readable_of_lt_hundred (by decide), by decide, nofun⟩
  · exact ⟨by decide, by decide, by decide, readable_of_lt_hundred (by decide), by decide, nofun⟩
  · refine ⟨by decide, by decide, by decide, readable_of_lt_hundred (by decide), by decide, ?_⟩
    rintro id ⟨⟩
    decide

/-- The calls on a file that holds one profile. -/
theorem answers_of_callsA :
    (atRoot.load worldA).1 = .ok [profileA] ∧ (∀ profile ∈ [profileA], profile.Textual) ∧
      atRoot.LogsElsewhere worldA ∧ (∀ form, .save form ∈ callsA → form.Plain) ∧
      (∀ answer ∈ (atRoot.run callsA worldA).1, writeFailed answer = false) ∧
      (atRoot.run callsA worldA).1 = (Shelf.run callsA ⟨[profileA], worldA.profileCount⟩).1 := by
  have hLoad : (atRoot.load worldA).1 = .ok [profileA] := by decide +kernel
  have hTexts : ∀ profile ∈ [profileA], profile.Textual := by
    intro profile hProfile value hValue
    rw [List.mem_singleton.1 hProfile] at hValue
    simp only [Profile.values, profileA, List.mem_cons, List.not_mem_nil, or_false] at hValue
    rcases hValue with rfl | rfl | rfl | rfl | rfl
    all_goals exact ⟨_, rfl⟩
  have hLog : atRoot.LogsElsewhere worldA := logsElsewhere_quietWith _
  have hWrites := (ready_quietWith ("[" ++ entryA ++ "]")).run callsA
  exact ⟨hLoad, hTexts, hLog, plain_callsA, hWrites,
    (answers_eq_shelf hLoad hTexts hLog plain_callsA hWrites).1⟩

end ProfileStore

end PhantomHost
