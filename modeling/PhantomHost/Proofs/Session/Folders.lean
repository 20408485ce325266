import Mathlib.Logic.Function.Iterate
import PhantomHost.Proofs.Session.Coherence
import PhantomHost.Proofs.Session.Upload
import PhantomHost.Proofs.Shell.Directories
/-!
Opening a directory in the browser, and going up again.

The browser writes the path of a directory that it opens, and of the one above, as text, and the shell reads these
paths. The browser is always at a place of ordinary names, and so are the directories that it shows, so on the way down
a name is put behind the place, and on the way up it is taken away: `openFolder_lookAt` and `goUp_lookAt`.
-/
namespace PhantomHost.Session

open PhantomHost.Text PhantomHost.Path

/-- The session after a directory of its browser has been opened. -/
def openFolder (name : Text) (session : Session) : Session :=
  session.navigate (child session.browser name)

/-- The session after its browser has gone to the directory above. The root has none. -/
def goUp (session : Session) : Session :=
  if session.browser ≠ "/" then session.navigate (parent session.browser) else session

/-- The session whose browser has looked at a place. -/
def lookAt (place : List Text) (session : Session) : Session :=
  { session with browser := render place }.refresh

section

variable {place : List Text}

theorem navigate_render (h : OrdinaryPlace place) (session : Session) :
    session.navigate (render place) = session.lookAt place := by
  rw [navigate, Shell.placeOf, normalize_render h]
  rfl

/-- Whoever looks where the browser is sees what it shows, if that is not old. -/
theorem lookAt_self {session : Session} (hBrowser : session.browser = render place)
    (hListing : session.listing = Listing.ofShell session.shell session.browser) : session.lookAt place = session := by
  rw [lookAt, ← hBrowser, refresh, ← hListing]

theorem files_lookAt (h : OrdinaryPlace place) (session : Session) :
    (session.lookAt place).files = ((session.shell.root.find? place).map Node.children).getD [] := by
  have hFiles : (session.lookAt place).files = session.shell.filesAt (render place) := Listing.nodes_ofShell _ _
  rw [hFiles, Shell.filesAt, names_render h.segments]
  cases session.shell.root.find? place <;> rfl

theorem openFolder_lookAt {name : Text} (h : OrdinaryPlace (place ++ [name])) (session : Session) :
    (session.lookAt place).openFolder name = session.lookAt (place ++ [name]) := by
  have hPlace : OrdinaryPlace place := h.mono (List.subset_append_left _ _)
  have hChild : child (session.lookAt place).browser name = render (place ++ [name]) := child_render hPlace name
  rw [openFolder, hChild]
  exact navigate_render h _

theorem navigate_parent_lookAt (h : OrdinaryPlace place) (session : Session) :
    (session.lookAt place).navigate (parent (session.lookAt place).browser) = session.lookAt place.dropLast := by
  have hAbove : OrdinaryPlace place.dropLast := h.mono (List.dropLast_subset _)
  have hParent : parent (session.lookAt place).browser = render place.dropLast := parent_render h
  rw [hParent]
  exact navigate_render hAbove _

theorem goUp_lookAt (h : OrdinaryPlace place) (session : Session) :
    (session.lookAt place).goUp = session.lookAt place.dropLast := by
  rw [goUp]
  split
  · exact navigate_parent_lookAt h session
  · rename_i hRoot
    have hRender : render place = render [] := (not_not.1 hRoot).trans render_nil.symm
    rw [(render_inj h ordinaryPlace_nil).1 hRender]
    rfl

/-- Every step up takes one name away, until none is left. -/
theorem iterate_goUp_lookAt (h : OrdinaryPlace place) (session : Session) (steps : Nat) :
    goUp^[steps] (session.lookAt place) = session.lookAt (place.take (place.length - steps)) := by
  induction steps with
  | zero => rw [Nat.sub_zero, List.take_length]; rfl
  | succ steps ih =>
      have hHere : OrdinaryPlace (place.take (place.length - steps)) := h.mono (List.take_subset _ _)
      rw [Function.iterate_succ_apply', ih, goUp_lookAt hHere, dropLast_take_sub]

end

/-! ### Every session that has been opened -/

/-- A session whose browser is at a place and shows what is there now, in a tree where a name is listed once and where
there are directories only as in the seed tree. -/
structure Browsable (session : Session) : Prop where
  browser : session.ShowsPlace
  listing : session.listing = Listing.ofShell session.shell session.browser
  named : session.shell.WellNamed
  seeded : session.shell.WithinSeed

/-- What is done in a history is what can be done with a session. -/
theorem reached_step {start : Session} {state : Session × World} (h : Reached start state.1) (act : Act) :
    Reached start (step state act).1 := by
  obtain ⟨session, world⟩ := state
  cases act with
  | run line => exact .act h world (.run line)
  | runSuggested command => exact .act h world (.runSuggested command)
  | refresh => exact .act h world .refresh
  | navigate path => exact .act h world (.navigate path)
  | upload filename size content =>
      have hDone := Reached.act h world (.upload filename size content)
      rw [act_upload] at hDone
      exact hDone
  | meanwhile change hChange => exact h

theorem reached_after {start : Session} {state : Session × World} (h : Reached start state.1) (acts : List Act) :
    Reached start (after state acts).1 := by
  induction acts generalizing state with
  | nil => exact h
  | cons act rest ih => exact ih (reached_step h act)

/-- However a session that has been opened is used, its browser shows what is there, if no segment of its home is a
dot or two. -/
theorem browsable_after {connection : Connection} {delay : Option Float} {world opened : World} {session : Session}
    (hOpen : connection.open? delay world = (some session, opened)) (hHome : Dotless world.settings.session.home)
    (acts : List Act) : (after (session, opened) acts).1.Browsable where
  browser := by
    have hReached := @reached_after session (session, opened) .start acts
    exact ((tidy_of_open? hOpen hHome).reached hReached).browser
  listing := (@Coherent.after (session, opened) (coherent_of_open? hOpen).1 acts).1.listing
  named := by
    refine shell_after_of_plain (fun hNamed hPlain => hNamed.step hPlain.distinct) ?_ acts
    obtain ⟨waited, -, rfl, -⟩ := exists_start_of_open? hOpen
    exact Shell.wellNamed_fresh _ _
  seeded := by
    refine shell_after_of_plain (fun hSeeded hPlain => hSeeded.step hPlain) ?_ acts
    obtain ⟨waited, -, rfl, -⟩ := exists_start_of_open? hOpen
    exact Shell.withinSeed_fresh _ _

namespace Browsable

variable {session : Session}

/-- The browser is where it has looked last, so it is as if it had just looked there. -/
theorem exists_lookAt (h : session.Browsable) :
    ∃ place, OrdinaryPlace place ∧ names session.browser = place ∧ session.lookAt place = session := by
  obtain ⟨place, hPlace, hBrowser⟩ := h.browser
  exact ⟨place, hPlace, by rw [hBrowser, names_render hPlace.segments], lookAt_self hBrowser h.listing⟩

/-- A directory that the browser shows is found under its name, at a place of ordinary names. -/
theorem find?_of_mem_files (h : session.Browsable) {node : Node} (hNode : node ∈ session.files)
    (hDir : node.isDir = true) :
    session.shell.root.find? (names session.browser ++ [node.name]) = some node ∧
      OrdinaryPlace (names session.browser ++ [node.name]) := by
  rw [files, h.listing, Listing.nodes_ofShell] at hNode
  have hFound := h.named.find?_of_mem_filesAt hNode
  exact ⟨hFound, h.seeded.ordinaryPlace (Shell.hasDirectory_iff.2 ⟨node, hFound, hDir⟩)⟩

/-- A directory that has been opened shows its children, and up from there is where the browser was. -/
theorem openFolder (h : session.Browsable) {node : Node} (hNode : node ∈ session.files) (hDir : node.isDir = true) :
    (session.openFolder node.name).files = node.children ∧
      (session.openFolder node.name).navigate (parent (session.openFolder node.name).browser) = session := by
  obtain ⟨hFound, hPlace⟩ := h.find?_of_mem_files hNode hDir
  obtain ⟨place, -, hNames, hSame⟩ := h.exists_lookAt
  rw [hNames] at hFound hPlace
  have hOpened : session.openFolder node.name = session.lookAt (place ++ [node.name]) := by
    rw [← openFolder_lookAt hPlace, hSame]
  rw [hOpened, files_lookAt hPlace, hFound, navigate_parent_lookAt hPlace, List.dropLast_concat, hSame]
  exact ⟨rfl, rfl⟩

/-- A number of steps up take as many names from the path, so it takes as many as the path has to be at the root. -/
theorem iterate_goUp (h : session.Browsable) (steps : Nat) :
    (goUp^[steps] session).browser =
        render ((names session.browser).take ((names session.browser).length - steps)) ∧
      ((goUp^[steps] session).browser = "/" ↔ (names session.browser).length ≤ steps) := by
  obtain ⟨place, hPlace, hNames, hSame⟩ := h.exists_lookAt
  have hBrowser : (goUp^[steps] session).browser = render (place.take (place.length - steps)) := by
    rw [← hSame, iterate_goUp_lookAt hPlace]
    rfl
  have hAbove : OrdinaryPlace (place.take (place.length - steps)) := hPlace.mono (List.take_subset _ _)
  rw [hNames, hBrowser]
  refine ⟨rfl, ?_⟩
  rw [← render_nil, render_inj hAbove ordinaryPlace_nil, List.take_eq_nil_iff, Nat.sub_eq_zero_iff_le]
  constructor
  · rintro (hEnough | rfl)
    · exact hEnough
    · exact Nat.zero_le steps
  · exact Or.inl

end Browsable

end PhantomHost.Session
