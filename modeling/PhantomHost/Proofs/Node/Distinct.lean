import PhantomHost.Node.Seed
import PhantomHost.Proofs.Node.Insert
/-!
Trees in which no directory lists a name twice.

An insertion keeps a tree so if the node that goes in is so itself. In such a tree no node is hidden behind
another one of its name: each one is found at the place where it is listed.
-/
namespace PhantomHost.Node

/-- What a tree is made of: itself, and with a directory every child of that directory. -/
inductive Part (root : Node) : Node → Prop where
  | root : Part root root
  | child {dir child : Node} (h : Part root dir) (hChild : child ∈ dir.children) : Part root child

/-- No directory of the tree lists a name twice. -/
def Distinct (root : Node) : Prop :=
  ∀ node, Part root node → node.childNames.Nodup

theorem children_of_file (node : Node) (h : node.isDir = false) : node.children = [] := by
  cases node with
  | file attributes content => rfl
  | dir attributes children => cases h

theorem content_of_dir (node : Node) (h : node.isDir = true) : node.content = none := by
  cases node with
  | file attributes content => cases h
  | dir attributes children => rfl

/-- A part is the tree itself or a part of one of its children. -/
theorem part_iff {root node : Node} :
    Part root node ↔ node = root ∨ ∃ child ∈ root.children, Part child node := by
  constructor
  · intro h
    induction h with
    | root => exact Or.inl rfl
    | @child dir child h hChild ih =>
        rcases ih with rfl | ⟨top, hTop, hDir⟩
        · exact Or.inr ⟨child, hChild, .root⟩
        · exact Or.inr ⟨top, hTop, hDir.child hChild⟩
  · rintro (rfl | ⟨top, hTop, h⟩)
    · exact .root
    · induction h with
      | root => exact .child .root hTop
      | child h hChild ih => exact ih.child hChild

theorem distinct_iff {root : Node} :
    Distinct root ↔ root.childNames.Nodup ∧ ∀ child ∈ root.children, Distinct child := by
  constructor
  · intro h
    exact ⟨h root .root, fun child hChild node hPart => h node (part_iff.2 (Or.inr ⟨child, hChild, hPart⟩))⟩
  · rintro ⟨hNames, hChildren⟩ node hPart
    rcases part_iff.1 hPart with rfl | ⟨child, hChild, hPart⟩
    · exact hNames
    · exact hChildren child hChild node hPart

mutual

/-- Whether no directory of a tree lists a name twice. -/
def isDistinct : Node → Bool
  | file _ _ => true
  | dir _ children => decide (children.map name).Nodup && allDistinct children

def allDistinct : List Node → Bool
  | [] => true
  | node :: rest => isDistinct node && allDistinct rest

end

mutual

theorem isDistinct_iff (node : Node) : isDistinct node = true ↔ Distinct node := by
  cases node with
  | file attributes content =>
      have hFile : Distinct (file attributes content) :=
        distinct_iff.2 ⟨List.nodup_nil, List.forall_mem_nil _⟩
      exact iff_of_true rfl hFile
  | dir attributes children =>
      rw [isDistinct, Bool.and_eq_true, decide_eq_true_iff, allDistinct_iff children, distinct_iff]
      rfl

theorem allDistinct_iff (nodes : List Node) :
    allDistinct nodes = true ↔ ∀ node ∈ nodes, Distinct node := by
  cases nodes with
  | nil => simp [allDistinct]
  | cons node rest =>
      rw [allDistinct, Bool.and_eq_true, isDistinct_iff node, allDistinct_iff rest, List.forall_mem_cons]

end

instance : DecidablePred Distinct := fun node => decidable_of_iff _ (isDistinct_iff node)

theorem distinct_seed : Distinct seed := by
  decide +kernel

theorem mem_of_mem_putChild {new node : Node} {nodes : List Node} (h : node ∈ putChild new nodes) :
    node = new ∨ node ∈ nodes := by
  induction nodes with
  | nil => exact Or.inl (List.mem_singleton.1 h)
  | cons old rest ih =>
      rw [putChild] at h
      split at h
      · rcases List.mem_cons.1 h with hNew | hRest
        · exact Or.inl hNew
        · exact Or.inr (List.mem_cons_of_mem _ hRest)
      · rcases List.mem_cons.1 h with hOld | hLater
        · exact Or.inr (hOld ▸ List.mem_cons_self)
        · exact (ih hLater).imp_right (List.mem_cons_of_mem _)

theorem Distinct.put {node new : Node} (h : Distinct node) (hNew : Distinct new) :
    Distinct (put new node) := by
  cases node with
  | file attributes content => exact h
  | dir attributes children =>
      obtain ⟨hNames, hChildren⟩ := distinct_iff.1 h
      refine distinct_iff.2 ⟨?_, ?_⟩
      · rw [childNames_put rfl]
        split
        · exact hNames
        · rename_i hFresh
          refine List.nodup_append.2 ⟨hNames, List.pairwise_singleton .., ?_⟩
          intro old hOld added hAdded hSame
          exact hFresh (List.mem_singleton.1 hAdded ▸ hSame ▸ hOld)
      · intro child hChild
        rcases mem_of_mem_putChild hChild with rfl | hOld
        · exact hNew
        · exact hChildren child hOld

theorem Distinct.of_child? {node child : Node} {name : Text} (h : Distinct node)
    (hChild : node.child? name = some child) : Distinct child :=
  (distinct_iff.1 h).2 child (List.mem_of_find?_eq_some hChild)

/-- Under an insertion the names stay distinct, wherever the node goes. -/
theorem Distinct.insertAt {new root after : Node} {place : List Text} (h : Distinct root)
    (hNew : Distinct new) (hInsert : insertAt new place root = some after) : Distinct after := by
  induction place generalizing root after with
  | nil =>
      rw [insertAt_nil] at hInsert
      split at hInsert
      · rw [← Option.some.inj hInsert]
        exact h.put hNew
      · cases hInsert
  | cons name rest ih =>
      obtain ⟨child, changed, hChild, hBelow, -, rfl⟩ := insertAt_cons_eq_some_iff.1 hInsert
      exact h.put (ih (h.of_child? hChild) hBelow)

theorem part_of_find? {root node : Node} {place : List Text} (h : root.find? place = some node) :
    Part root node := by
  induction place generalizing root with
  | nil => exact Option.some.inj h ▸ .root
  | cons name rest ih =>
      rw [find?_cons] at h
      obtain ⟨child, hChild, hBelow⟩ := Option.bind_eq_some_iff.1 h
      exact part_iff.2 (Or.inr ⟨child, List.mem_of_find?_eq_some hChild, ih hBelow⟩)

theorem firstNamed_of_mem {nodes : List Node} {node : Node} (hNames : (nodes.map name).Nodup)
    (h : node ∈ nodes) : firstNamed node.name nodes = some node := by
  induction nodes with
  | nil => cases h
  | cons first rest ih =>
      rw [List.map_cons, List.nodup_cons] at hNames
      rw [firstNamed_cons]
      rcases List.mem_cons.1 h with rfl | hRest
      · rw [if_pos rfl]
      · have hOther : first.name ≠ node.name := fun hSame =>
          hNames.1 (hSame ▸ List.mem_map_of_mem hRest)
        rw [if_neg hOther, ih hNames.2 hRest]

/-- A child that a directory lists is the node that is found by its name. -/
theorem Distinct.find?_child {root dir child : Node} {place : List Text} (h : Distinct root)
    (hFound : root.find? place = some dir) (hChild : child ∈ dir.children) :
    root.find? (place ++ [child.name]) = some child := by
  have hNames : (dir.children.map name).Nodup := h dir (part_of_find? hFound)
  rw [find?_append, hFound, Option.bind_some, find?_cons, child?, firstNamed_of_mem hNames hChild]
  rfl

/-- No node of the tree is hidden: each one has a place where it is found. -/
theorem Distinct.exists_place {root node : Node} (h : Distinct root) (hPart : Part root node) :
    ∃ place, root.find? place = some node := by
  induction hPart with
  | root => exact ⟨[], rfl⟩
  | @child dir child hDir hChild ih =>
      obtain ⟨place, hFound⟩ := ih
      exact ⟨place ++ [child.name], h.find?_child hFound hChild⟩

end PhantomHost.Node
