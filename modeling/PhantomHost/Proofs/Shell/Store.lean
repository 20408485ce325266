import PhantomHost.Proofs.Node.Insert
import PhantomHost.Proofs.World.Frame
import PhantomHost.Shell.Execution
/-!
What it changes in a shell to store a node.

A node goes into the directory of a path or nowhere. It is then found under its own name, and nothing but
what was below that name is lost. The node may come from the tree itself, even from above the place where
it goes.
-/
namespace PhantomHost.Shell

open PhantomHost.Text

variable (shell : Shell) (path : Text) (node : Node) (world : World)

/-- Whether a node is stored is decided by the directory alone, and not by the node. -/
theorem isSome_add? : (shell.add? path node).isSome = (shell.nodeAt? path).any Node.isDir := by
  rw [add?, Option.isSome_map]
  exact Node.isSome_insertAt node (shell.placeOf path) shell.root

theorem store_eq_of_add? {after : Shell} (h : shell.add? path node = some after) :
    (shell.store path node world).1 = true ∧ (shell.store path node world).2.1 = after := by
  rw [store, h]
  exact ⟨rfl, rfl⟩

theorem store_eq_of_no_directory (h : (shell.nodeAt? path).any Node.isDir = false) :
    (shell.store path node world).1 = false ∧ (shell.store path node world).2.1 = shell := by
  have hNone : shell.add? path node = none := by
    rw [← Option.not_isSome_iff_eq_none, isSome_add?, h]
    exact Bool.false_ne_true
  rw [store, hNone]
  exact ⟨rfl, rfl⟩

/-- What is stored is the node as it was made: a copy of it is stored alike. -/
theorem store_copy : shell.store path node.copy world = shell.store path node world := by
  rw [Node.copy_eq]

/-- Storing a node is an update at one point. Where the path leads to no directory, nothing happens. Else
the tree alone changes: the node is found by its name in the directory, the directory lists the names that
it listed, with the new one at the end if it was not among them, and every place that is not the node's or
below it holds a node exactly if it did, which looks the same and has the same content, and, unless it is
that directory, lists the same names. -/
theorem store_updates_point :
    ((shell.nodeAt? path).any Node.isDir = false →
      (shell.store path node world).1 = false ∧ (shell.store path node world).2.1 = shell) ∧
    ∀ dir, shell.nodeAt? path = some dir → dir.isDir = true →
      (shell.store path node world).1 = true ∧
      ∃ root, (shell.store path node world).2.1 = { shell with root := root } ∧
        root.find? (shell.placeOf path ++ [node.name]) = some node ∧
        (root.find? (shell.placeOf path)).map Node.childNames =
          some (if node.name ∈ dir.childNames then dir.childNames else dir.childNames ++ [node.name]) ∧
        ∀ place, ¬shell.placeOf path ++ [node.name] <+: place →
          Option.Rel (Node.Kept (place = shell.placeOf path)) (shell.root.find? place)
            (root.find? place) := by
  refine ⟨shell.store_eq_of_no_directory path node world, ?_⟩
  intro dir hFound hDir
  have hStored : (shell.add? path node).isSome = true := by
    rw [isSome_add?, hFound]
    exact hDir
  obtain ⟨after, hAfter⟩ := Option.isSome_iff_exists.1 hStored
  obtain ⟨root, hInsert, rfl⟩ := Option.map_eq_some_iff.1 hAfter
  obtain ⟨hAnswer, hShell⟩ := shell.store_eq_of_add? path node world hAfter
  have hPlace : root.find? (shell.placeOf path) = some (Node.put node dir) := by
    rw [Node.find?_insertAt_place hInsert]
    exact congrArg (Option.map (Node.put node)) hFound
  refine ⟨hAnswer, root, hShell, Node.find?_insertAt_self hInsert, ?_, ?_⟩
  · rw [hPlace, Option.map_some, Node.childNames_put hDir]
  · exact fun place hElsewhere => Node.find?_insertAt_of_not_prefix hInsert hElsewhere

/-- The directory above the cursor is stored at the cursor: it is found there as it was, and is listed after
the two names that were there. -/
theorem store_ancestor :
    ∃ above dir root, (fresh "user" ["home", "user"]).nodeAt? ".." = some above ∧
      (fresh "user" ["home", "user"]).nodeAt? "../user/" = some dir ∧ dir.isDir = true ∧
      ((fresh "user" ["home", "user"]).store "../user/" above World.quiet).2.1 =
        { fresh "user" ["home", "user"] with root := root } ∧
      root.find? ["home", "user", "home"] = some above ∧
      (root.find? ["home", "user"]).map Node.childNames =
        some [("documents" : Text), ("config.json" : Text), ("home" : Text)] := by
  have hPlace : (fresh "user" ["home", "user"]).placeOf "../user/" = [("home" : Text), ("user" : Text)] := by
    decide +kernel
  obtain ⟨above, hAbove, hName⟩ : ∃ above,
      (fresh "user" ["home", "user"]).nodeAt? ".." = some above ∧ above.name = "home" :=
    Option.map_eq_some_iff.1 (by decide +kernel)
  obtain ⟨dir, hFound, hParts⟩ : ∃ dir,
      (fresh "user" ["home", "user"]).nodeAt? "../user/" = some dir ∧
        (dir.isDir, dir.childNames) = (true, [("documents" : Text), ("config.json" : Text)]) :=
    Option.map_eq_some_iff.1 (by decide +kernel)
  obtain ⟨hDir, hListed⟩ := Prod.mk.inj hParts
  obtain ⟨-, root, hShell, hSelf, hNames, -⟩ :=
    (store_updates_point (fresh "user" ["home", "user"]) "../user/" above World.quiet).2 dir hFound hDir
  rw [hPlace, hName] at hSelf
  rw [hPlace, hName, hListed, if_neg (by decide +kernel)] at hNames
  exact ⟨above, dir, root, hAbove, hFound, hDir, hShell, hSelf, hNames⟩

end PhantomHost.Shell
