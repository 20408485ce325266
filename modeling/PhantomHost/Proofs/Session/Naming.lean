import PhantomHost.Proofs.Session.Frame
import PhantomHost.Proofs.Shell.Naming
/-!
The names that a session's browser shows. A session is opened with a fresh host, and nothing that is done with it
brings in a directory, so the browser never shows a name twice, even where it has not looked again.
-/
namespace PhantomHost

/-- An uploaded file is no directory. -/
theorem Node.distinct_upload? {filename : Text} {size : Int} {owner : Json} {content : Option Text} {today : Moment}
    {node : Node} (h : Node.upload? filename size owner content today = some node) : Node.Distinct node := by
  obtain ⟨shown, -, rfl⟩ := Option.map_eq_some_iff.1 h
  exact Node.distinct_iff.2 ⟨List.nodup_nil, List.forall_mem_nil _⟩

/-- What a browser can show of a tree has distinct names. -/
theorem Shell.WellNamed.nodup_filesAt {shell : Shell} (h : shell.WellNamed) (path : Text) :
    ((shell.filesAt path).map Node.name).Nodup := by
  unfold filesAt
  split
  · rename_i dir hFound
    exact h.distinct dir (Node.part_of_find? hFound)
  · exact List.nodup_nil

namespace Session

/-- No directory of the host lists a name twice, and neither does the browser. -/
structure WellNamed (session : Session) : Prop where
  shell : session.shell.WellNamed
  files : (session.files.map Node.name).Nodup

section

variable {session : Session} {world : World}

theorem wellNamed_start (connection : Connection) {shell : Shell} (h : shell.WellNamed) (world : World) :
    (start connection shell world).1.WellNamed := by
  refine ⟨h, ?_⟩
  show ((Listing.ofShell shell shell.cwd).nodes.map Node.name).Nodup
  rw [Listing.nodes_ofShell]
  exact h.nodup_filesAt shell.cwd

/-- Whoever looks again sees a name once. -/
theorem wellNamed_refresh (session : Session) (h : session.shell.WellNamed) : session.refresh.WellNamed := by
  refine ⟨h, ?_⟩
  show ((Listing.ofShell session.shell session.browser).nodes.map Node.name).Nodup
  rw [Listing.nodes_ofShell]
  exact h.nodup_filesAt session.browser

theorem WellNamed.navigate (h : session.WellNamed) (path : Text) : (session.navigate path).WellNamed :=
  wellNamed_refresh _ h.shell

theorem WellNamed.run (h : session.WellNamed) (line : Text) (world : World) :
    (session.run line world).2.1.WellNamed := by
  have hShell : (session.shell.step (.line line)).WellNamed := h.shell.step trivial
  have hRan : (session.ran line world.lineCount).WellNamed := ⟨hShell, h.files⟩
  rw [run_eq]
  split
  · exact hRan.navigate _
  · exact hRan

theorem WellNamed.runSuggested (h : session.WellNamed) (command : Text) (world : World) :
    (session.runSuggested command world).2.1.WellNamed :=
  h.run command _

theorem WellNamed.upload? (h : session.WellNamed) {filename : Text} {size : Int} {content : Option Text}
    {after : Session} {later : World} {stored : Bool}
    (hUpload : session.upload? filename size content world = some (stored, after, later)) : after.WellNamed := by
  obtain ⟨node, hNode, hResult⟩ := Option.map_eq_some_iff.1 hUpload
  have hShell : (session.shell.step (.add session.browser node)).WellNamed :=
    h.shell.step (Node.distinct_upload? hNode)
  rw [Shell.step] at hShell
  rw [Shell.store] at hResult
  cases hAdd : session.shell.add? session.browser node with
  | none =>
      rw [hAdd] at hResult
      obtain ⟨-, rfl, -⟩ := hResult
      exact h
  | some shell =>
      rw [hAdd] at hResult hShell
      obtain ⟨-, rfl, -⟩ := hResult
      have hSeen := wellNamed_refresh { session with shell := shell } hShell
      exact ⟨hSeen.shell, hSeen.files⟩

end

/-- A session that has been opened is well named, whatever its home. -/
theorem wellNamed_of_open? {connection : Connection} {delay : Option Float} {world opened : World} {session : Session}
    (h : connection.open? delay world = (some session, opened)) : session.WellNamed := by
  obtain ⟨waited, -, rfl, -⟩ := exists_start_of_open? h
  exact wellNamed_start _ (Shell.wellNamed_fresh _ _) waited

end Session

end PhantomHost
