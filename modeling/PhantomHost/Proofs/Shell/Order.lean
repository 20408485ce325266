import PhantomHost.Proofs.Node.Order
import PhantomHost.Proofs.Shell.Cursor
import PhantomHost.Proofs.Shell.Store
/-!
Two nodes that are stored in one shell, in either order, and one node that is stored twice.

Where a path leads depends on the cursor alone, and storing a node leaves the cursor where it is. So what holds
of two insertions into a tree holds of two stored nodes, also where a path leads to no directory.
-/
namespace PhantomHost.Shell

open PhantomHost.Text

variable (shell : Shell) (path other : Text) (node second : Node) (world : World)

/-- What comes of two nodes that are stored one after the other: the two answers, and the shell after both. -/
def storeBoth : (Bool × Bool) × Shell :=
  let (stored, between, later) := shell.store path node world
  let (storedThen, after, _) := between.store other second later
  ((stored, storedThen), after)

theorem step_add_eq :
    shell.step (.add path node) =
      { shell with root := Node.tryInsert node (shell.placeOf path) shell.root } := by
  rw [step, add?, Node.tryInsert]
  cases Node.insertAt node (shell.placeOf path) shell.root <;> rfl

/-- Whether a node is stored, is answered. -/
theorem store_eq_isSome :
    (shell.store path node world).1 = (Node.insertAt node (shell.placeOf path) shell.root).isSome := by
  rw [store, add?]
  cases Node.insertAt node (shell.placeOf path) shell.root <;> rfl

theorem storeBoth_eq : shell.storeBoth path other node second world =
    (((Node.insertAt node (shell.placeOf path) shell.root).isSome,
        (Node.insertAt second (shell.placeOf other)
          (Node.tryInsert node (shell.placeOf path) shell.root)).isSome),
      { shell with
        root := Node.tryInsert second (shell.placeOf other)
          (Node.tryInsert node (shell.placeOf path) shell.root) }) := by
  rw [storeBoth]
  simp only [store_eq_isSome, store_eq_step, step_add_eq]
  rfl

/-- Two nodes that go into different directories, neither of which is taken away by the other node, come to the
same in either order: each is stored or turned down as in the other order, and the tree is the same after both.
A node that is stored twice at one path is answered alike both times, and the second time changes nothing. A node
counts as it was when it was taken, also where it comes from this tree. -/
theorem stores_commute_and_repeat :
    (∀ path other first second, shell.placeOf path ≠ shell.placeOf other →
      ¬shell.placeOf path ++ [first.name] <+: shell.placeOf other →
      ¬shell.placeOf other ++ [second.name] <+: shell.placeOf path →
      shell.storeBoth path other first second world =
        ((shell.storeBoth other path second first world).1.swap,
          (shell.storeBoth other path second first world).2)) ∧
    ∀ path node, shell.storeBoth path path node node world =
      (((shell.store path node world).1, (shell.store path node world).1),
        (shell.store path node world).2.1) := by
  constructor
  · intro path other first second hPlaces hFirst hSecond
    rw [storeBoth_eq, storeBoth_eq]
    have hTree := Node.tryInsert_comm hPlaces hFirst hSecond shell.root
    have hThen := Node.isSome_insertAt_tryInsert hFirst second shell.root
    have hBefore := Node.isSome_insertAt_tryInsert hSecond first shell.root
    rw [hTree, hThen, hBefore, Prod.swap_prod_mk]
  · intro path node
    rw [storeBoth_eq, Node.insertAt_tryInsert_self, Node.tryInsert_tryInsert, store_eq_isSome, store_eq_step,
      step_add_eq]

/-- A node of the tree that a host starts with, as it is found from home. -/
def seedNode (path : Text) : Node :=
  ((fresh "user" ["home", "user"]).nodeAt? path).getD Node.seed

/-- A directory is stored beside the one above it, and the one above both goes into the latter: they come to the
same in either order, and the second can be stored twice. -/
theorem stores_commute_and_repeat_grafts :
    (fresh "user" ["home", "user"]).placeOf "." ≠ (fresh "user" ["home", "user"]).placeOf "/home" ∧
    ¬(fresh "user" ["home", "user"]).placeOf "." ++ [(seedNode "/home").name] <+:
      (fresh "user" ["home", "user"]).placeOf "/home" ∧
    ¬(fresh "user" ["home", "user"]).placeOf "/home" ++ [(seedNode "documents").name] <+:
      (fresh "user" ["home", "user"]).placeOf "." ∧
    (∃ both, (both.root.find? ["home"]).map Node.childNames = some [("user" : Text), ("documents" : Text)] ∧
      (fresh "user" ["home", "user"]).storeBoth "/home" "." (seedNode "documents") (seedNode "/home")
        World.quiet = ((true, true), both) ∧
      (fresh "user" ["home", "user"]).storeBoth "." "/home" (seedNode "/home") (seedNode "documents")
        World.quiet = ((true, true), both)) ∧
    (fresh "user" ["home", "user"]).storeBoth "." "." (seedNode "/home") (seedNode "/home") World.quiet =
      ((true, true), ((fresh "user" ["home", "user"]).store "." (seedNode "/home") World.quiet).2.1) := by
  obtain ⟨hCommute, hRepeat⟩ := stores_commute_and_repeat (fresh "user" ["home", "user"]) World.quiet
  have hPlaces : (fresh "user" ["home", "user"]).placeOf "." ≠ (fresh "user" ["home", "user"]).placeOf "/home" := by
    decide +kernel
  have hFirst : ¬(fresh "user" ["home", "user"]).placeOf "." ++ [(seedNode "/home").name] <+:
      (fresh "user" ["home", "user"]).placeOf "/home" := by
    decide +kernel
  have hSecond : ¬(fresh "user" ["home", "user"]).placeOf "/home" ++ [(seedNode "documents").name] <+:
      (fresh "user" ["home", "user"]).placeOf "." := by
    decide +kernel
  have hStored : ((fresh "user" ["home", "user"]).storeBoth "/home" "." (seedNode "documents")
      (seedNode "/home") World.quiet).1 = (true, true) := by
    decide +kernel
  have hOnce : ((fresh "user" ["home", "user"]).store "." (seedNode "/home") World.quiet).1 = true := by
    decide +kernel
  refine ⟨hPlaces, hFirst, hSecond, ⟨_, ?_, Prod.ext hStored rfl, ?_⟩, ?_⟩
  · decide +kernel
  · rw [hCommute "." "/home" _ _ hPlaces hFirst hSecond, hStored]
    rfl
  · rw [hRepeat, hOnce]

end PhantomHost.Shell
