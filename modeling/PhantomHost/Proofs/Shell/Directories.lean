import PhantomHost.Proofs.Shell.Ground
import PhantomHost.Proofs.Shell.Naming
/-!
The directories of a host where nothing but files is stored.

No line makes a directory, and neither does a file that is stored. So there are directories only where the seed tree
has them, and the names on the way to each one are ordinary.
-/
namespace PhantomHost

namespace Node

mutual

/-- The names of the directories in a tree, that of the tree itself among them. -/
def dirNames : Node → List Text
  | file _ _ => []
  | dir attributes children => attributes.name :: dirNamesAll children

/-- The names of the directories in several trees. -/
def dirNamesAll : List Node → List Text
  | [] => []
  | node :: rest => dirNames node ++ dirNamesAll rest

end

theorem dirNames_subset {node : Node} {nodes : List Node} (h : node ∈ nodes) :
    dirNames node ⊆ dirNamesAll nodes := by
  induction nodes with
  | nil => cases h
  | cons first rest ih =>
      rcases List.mem_cons.1 h with rfl | hRest
      · exact List.subset_append_left _ _
      · exact List.Subset.trans (ih hRest) (List.subset_append_right _ _)

/-- The names on the way to a directory are those of directories in the tree. -/
theorem subset_dirNamesAll {root : Node} {place : List Text} (h : (root.find? place).any isDir = true) :
    place ⊆ dirNamesAll root.children := by
  induction place generalizing root with
  | nil => exact List.nil_subset _
  | cons name rest ih =>
      have hFirst : (root.find? [name]).any isDir = true := isDir_of_isPrefix ⟨rest, rfl⟩ h
      rw [find?_cons] at h hFirst
      cases hChild : root.child? name with
      | none =>
          rw [hChild] at h
          cases h
      | some child =>
          rw [hChild] at h hFirst
          have hBelow := dirNames_subset (List.mem_of_find?_eq_some hChild)
          have hName : child.name = name := name_of_firstNamed hChild
          cases child with
          | file attributes content => cases hFirst
          | dir attributes children =>
              refine List.cons_subset.2 ⟨hBelow ?_, ?_⟩
              · exact hName ▸ List.mem_cons_self
              · exact List.Subset.trans (ih h) (List.Subset.trans (List.subset_cons_self _ _) hBelow)

/-- The way to a directory of the seed tree leads over ordinary names. -/
theorem ordinaryPlace_of_seed {place : List Text} (h : (seed.find? place).any isDir = true) :
    Path.OrdinaryPlace place := by
  have hSeed : Path.OrdinaryPlace (dirNamesAll seed.children) := by decide +kernel
  exact fun name hName => hSeed name (subset_dirNamesAll h hName)

end Node

namespace Shell

theorem Act.Plain.distinct {act : Act} (h : act.Plain) : act.Distinct := by
  cases act with
  | line text => trivial
  | add path node =>
      cases node with
      | file attributes content => exact Node.distinct_iff.2 ⟨List.nodup_nil, List.forall_mem_nil _⟩
      | dir attributes children => cases h

/-- A directory that is there after something has been done was there before, if no directory has been brought in. -/
theorem HasDirectory.of_step {shell : Shell} {act : Act} {place : List Text}
    (h : (shell.step act).HasDirectory place) (hAct : act.Plain) : shell.HasDirectory place := by
  cases act with
  | line text =>
      rw [HasDirectory, step, root_run] at h
      exact h
  | add path node =>
      rw [step, add?] at h
      cases hInsert : Node.insertAt node (shell.placeOf path) shell.root with
      | none =>
          rw [hInsert] at h
          exact h
      | some root =>
          rw [hInsert] at h
          by_cases hBelow : shell.placeOf path ++ [node.name] <+: place
          · have hDir : (root.find? (shell.placeOf path ++ [node.name])).any Node.isDir = true :=
              Node.isDir_of_isPrefix hBelow h
            rw [Node.find?_insertAt_self hInsert] at hDir
            exact absurd hDir (Bool.eq_false_iff.1 hAct)
          · exact (Node.any_isDir_find?_insertAt hInsert hBelow).symm.trans h

/-- There are directories only where the seed tree has them. -/
def WithinSeed (shell : Shell) : Prop :=
  ∀ place, shell.HasDirectory place → (Node.seed.find? place).any Node.isDir = true

theorem withinSeed_fresh (user : Text) (home : List Text) : (fresh user home).WithinSeed :=
  fun _ => id

theorem WithinSeed.step {shell : Shell} (h : shell.WithinSeed) {act : Act} (hAct : act.Plain) :
    (shell.step act).WithinSeed :=
  fun place hThere => h place (hThere.of_step hAct)

theorem WithinSeed.ordinaryPlace {shell : Shell} (h : shell.WithinSeed) {place : List Text}
    (hThere : shell.HasDirectory place) : Path.OrdinaryPlace place :=
  Node.ordinaryPlace_of_seed (h place hThere)

end Shell

end PhantomHost
