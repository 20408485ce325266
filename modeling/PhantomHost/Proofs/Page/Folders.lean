import PhantomHost.Page.Browser
import PhantomHost.Proofs.Page.Acts
import PhantomHost.Proofs.Session.Folders
/-!
The buttons of the page that open a directory and go up: what they do to the session that the page remembers.
-/
namespace PhantomHost.Page

open PhantomHost.Text PhantomHost.Path

variable {session : Session} {run : Run}

/-- The session that a pass remembers after a part of it. -/
def remembered {α : Type} (act : Act α) (run : Run) : Option Session :=
  (act.run.run run).2.memory.session

/-- Whoever goes to a path has gone there on the next pass. -/
theorem run_browse {α : Type} (path : Text) (session : Session) (run : Run) :
    (browse path session : Act α).run.run run =
      (.error .again, { run with memory := { run.memory with session := some (session.navigate path) } }) := rfl

/-- The button "Up" goes up. -/
theorem remembered_up (hMemory : run.memory.session = some session) (hUp : run.visit.pressed "Up" = true)
    (hRefresh : run.visit.pressed "Refresh" = false) : remembered (browserBar session) run = some session.goUp := by
  rw [remembered, browserBar, run_bind (run_text _ _ _), run_bind (run_place _ _), run_bind (run_button _ _)]
  simp only [Run.visit_showing, hUp, Bool.true_and, decide_eq_true_eq]
  rw [Session.goUp]
  split
  · rw [run_bind_error (run_browse _ _ _)]
  · simp only [run_bind (run_button _ _), Run.visit_showing, hRefresh, Bool.false_eq_true, if_false]
    exact hMemory

/-- The button of a directory in the grid opens it. -/
theorem remembered_gridCell {node : Node} (hDir : node.isDir = true)
    (hPressed : run.visit.pressed ("open-" ++ node.name) = true) :
    remembered (gridCell session node) run = some (session.openFolder node.name) := by
  rw [remembered, gridCell, if_pos hDir, run_bind (run_keyButton _ _ _), if_pos hPressed, run_browse]
  rfl

/-- The choice of a directory in the list opens it. -/
theorem remembered_listView {node : Node} (hNode : node ∈ session.files) (hDir : node.isDir = true)
    (hName : node.name ≠ "") (hChosen : run.visit.text? "Open folder" = some node.name) :
    remembered (listView session) run = some (session.openFolder node.name) := by
  have hListed : node.name ∈ (session.files.filter Node.isDir).map Node.name :=
    List.mem_map_of_mem (List.mem_filter.2 ⟨hNode, hDir⟩)
  have hSome : (!((session.files.filter Node.isDir).map Node.name).isEmpty) = true := by
    simpa using List.ne_nil_of_mem hListed
  have hAsked : (run.showing [.table (session.files.map FileRow.ofNode)]).visit.text? "Open folder" = some node.name :=
    hChosen
  have hTruthy : (Json.text node.name).isTruthy = true := decide_eq_true hName
  rw [remembered, listView, run_bind (run_place _ _)]
  simp only [hSome, if_true]
  rw [run_bind (run_select_of_text hAsked _), if_pos hTruthy, run_browse]
  rfl

/-- Opening a directory and going up undo each other. In every session that one comes to from one that was opened with
a home without dots as segments: a directory that the browser shows, when it is opened, shows its own children in
order, and whoever goes to the directory above from there has the session as it was, with the path and the files of its
browser. A number of steps up take as many names from the path of the browser, so the root is reached with as many as
the path has, and not before. On the page, the button of a directory in the grid and its name in the list open it, and
the button "Up" takes one step up. -/
theorem folders_open_and_close {connection : Connection} {delay : Option Float} {world opened : World}
    {session now : Session} (hOpen : connection.open? delay world = (some session, opened))
    (hHome : Dotless world.settings.session.home) {acts : List Session.Act}
    (hNow : (Session.after (session, opened) acts).1 = now) :
    (∀ node ∈ now.files, node.isDir = true →
      (now.openFolder node.name).files = node.children ∧
      (now.openFolder node.name).navigate (parent (now.openFolder node.name).browser) = now ∧
      (∀ run : Run, run.visit.pressed ("open-" ++ node.name) = true →
        remembered (gridCell now node) run = some (now.openFolder node.name)) ∧
      ∀ run : Run, run.visit.text? "Open folder" = some node.name →
        remembered (listView now) run = some (now.openFolder node.name)) ∧
    (∀ steps, (Session.goUp^[steps] now).browser =
        render ((names now.browser).take ((names now.browser).length - steps)) ∧
      ((Session.goUp^[steps] now).browser = "/" ↔ (names now.browser).length ≤ steps)) ∧
    ∀ (shown : Session) (run : Run), run.memory.session = some shown → run.visit.pressed "Up" = true →
      run.visit.pressed "Refresh" = false → remembered (browserBar shown) run = some shown.goUp := by
  have hBrowsable : now.Browsable := hNow ▸ Session.browsable_after hOpen hHome acts
  refine ⟨?_, hBrowsable.iterate_goUp, fun shown run => remembered_up⟩
  intro node hNode hDir
  obtain ⟨hFiles, hBack⟩ := hBrowsable.openFolder hNode hDir
  have hOrdinary : Ordinary node.name :=
    (hBrowsable.find?_of_mem_files hNode hDir).2 node.name (List.mem_append_right _ List.mem_cons_self)
  exact ⟨hFiles, hBack, fun run => remembered_gridCell hDir,
    fun run => remembered_listView hNode hDir hOrdinary.1⟩

/-- Down into a directory, a file stored there over another one, and up again by a path with two dots. -/
def errand : List Session.Act :=
  [.run "cd documents", .upload "todo.md" 3 (some "abc"), .navigate "../"]

/-- With the default home, the directory of the errand is opened and left again, and two steps up lead to the root. -/
theorem folders_open_and_close_errand :
    ∃ session opened now node, Session.visitor.open? (some 0) World.quiet = (some session, opened) ∧
      Dotless World.quiet.settings.session.home ∧ (Session.after (session, opened) errand).1 = now ∧
      node ∈ now.files ∧ node.isDir = true ∧ node.name = "documents" ∧
      node.childNames = (["project_notes.txt", "todo.md"] : List Text) ∧ now.browser = "/home/user" ∧
      (now.openFolder node.name).files = node.children ∧
      (now.openFolder node.name).navigate (parent (now.openFolder node.name).browser) = now ∧
      (Session.goUp^[1] now).browser ≠ "/" ∧ (Session.goUp^[2] now).browser = "/" := by
  obtain ⟨session, hSession, hSeen⟩ : ∃ session, (Session.visitor.open? (some 0) World.quiet).1 = some session ∧
      ((Session.after (session, (Session.visitor.open? (some 0) World.quiet).2) errand).1.browser,
        (Session.after (session, (Session.visitor.open? (some 0) World.quiet).2) errand).1.files.head?.map fun node =>
          (node.isDir, node.name, node.childNames)) =
        (("/home/user" : Text),
          some (true, ("documents" : Text), (["project_notes.txt", "todo.md"] : List Text))) :=
    Option.map_eq_some_iff.1 (by decide +kernel)
  obtain ⟨hBrowser, hFirst⟩ := Prod.mk.inj hSeen
  obtain ⟨node, hNode, hParts⟩ := Option.map_eq_some_iff.1 hFirst
  obtain ⟨hDir, hName, hChildren⟩ : node.isDir = true ∧ node.name = "documents" ∧
      node.childNames = (["project_notes.txt", "todo.md"] : List Text) := by
    simpa only [Prod.mk.injEq] using hParts
  have hOpen : Session.visitor.open? (some 0) World.quiet =
      (some session, (Session.visitor.open? (some 0) World.quiet).2) :=
    Prod.ext hSession rfl
  have hHome : Dotless World.quiet.settings.session.home := by decide +kernel
  obtain ⟨hFolders, hUp, -⟩ := @folders_open_and_close _ _ _ _ session _ hOpen hHome errand rfl
  obtain ⟨hFiles, hBack, -⟩ := hFolders node (List.mem_of_mem_head? hNode) hDir
  have hPath : names "/home/user" = (["home", "user"] : List Text) := by decide +kernel
  rw [hBrowser, hPath] at hUp
  refine ⟨session, _, _, node, hOpen, hHome, rfl, List.mem_of_mem_head? hNode, hDir, hName, hChildren, hBrowser,
    hFiles, hBack, (hUp 1).2.not.2 (by decide), (hUp 2).2.2 (by decide)⟩

end PhantomHost.Page
