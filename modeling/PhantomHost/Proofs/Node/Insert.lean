import PhantomHost.Node.Basic
/-!
Insertion into a tree.

To put a node into a directory is to put the changed child into each directory on the way to it, so
`put` describes every level: `insertAt_cons`. From this follows what can be found after an insertion:
the new node at its place, and everywhere else what was there before.
-/
namespace PhantomHost.Node

/-- A directory with a child put into it, in the place of the first one of its name or at the end; a file
stays as it is. -/
def put (new : Node) : Node → Node
  | file attributes content => file attributes content
  | dir attributes children => dir attributes (putChild new children)

/-- Two nodes that look the same in a listing, are of one kind and hold the same content. -/
structure Alike (a b : Node) : Prop where
  attributes : a.attributes = b.attributes
  isDir : a.isDir = b.isDir
  content : a.content = b.content

theorem Alike.refl (node : Node) : Alike node node := ⟨rfl, rfl, rfl⟩

theorem Alike.symm {a b : Node} (h : Alike a b) : Alike b a :=
  ⟨h.attributes.symm, h.isDir.symm, h.content.symm⟩

mutual

theorem copy_eq (node : Node) : node.copy = node := by
  cases node with
  | file attributes content => rfl
  | dir attributes children => rw [copy, copyAll_eq children]

theorem copyAll_eq (nodes : List Node) : copyAll nodes = nodes := by
  cases nodes with
  | nil => rfl
  | cons node rest => rw [copyAll, copy_eq node, copyAll_eq rest]

end

/-! ### Children -/

theorem firstNamed_cons (name : Text) (node : Node) (rest : List Node) :
    firstNamed name (node :: rest) = if node.name = name then some node else firstNamed name rest := by
  rw [firstNamed, List.find?_cons]
  split <;> simp_all [firstNamed]

theorem name_of_firstNamed {name : Text} {nodes : List Node} {found : Node}
    (h : firstNamed name nodes = some found) : found.name = name := by
  simpa using List.find?_some h

theorem mem_names_of_firstNamed {name : Text} {nodes : List Node} {found : Node}
    (h : firstNamed name nodes = some found) : name ∈ nodes.map Node.name := by
  rw [← name_of_firstNamed h]
  exact List.mem_map_of_mem (List.mem_of_find?_eq_some h)

theorem firstNamed_putChild (name : Text) (new : Node) (nodes : List Node) :
    firstNamed name (putChild new nodes) = if new.name = name then some new else firstNamed name nodes := by
  induction nodes with
  | nil => rw [putChild, firstNamed_cons]
  | cons old rest ih =>
      rw [putChild]
      split
      · rename_i hSame
        rw [firstNamed_cons, firstNamed_cons, hSame]
        split <;> rfl
      · rename_i hOther
        rw [firstNamed_cons, firstNamed_cons, ih]
        grind

theorem map_name_putChild (new : Node) (nodes : List Node) :
    (putChild new nodes).map name =
      if new.name ∈ nodes.map name then nodes.map name else nodes.map name ++ [new.name] := by
  induction nodes with
  | nil => rfl
  | cons old rest ih =>
      rw [putChild]
      split
      · rename_i hSame
        simp [hSame]
      · rename_i hOther
        rw [List.map_cons, ih]
        grind

/-- A node stands in the place of the first one of its name, or behind all others if none of them has its name. -/
inductive PutIn (new : Node) : List Node → List Node → Prop
  | replaced {front rest : List Node} {old : Node} (hFirst : ∀ node ∈ front, node.name ≠ new.name)
      (hName : old.name = new.name) : PutIn new (front ++ old :: rest) (front ++ new :: rest)
  | appended {nodes : List Node} (hNew : ∀ node ∈ nodes, node.name ≠ new.name) : PutIn new nodes (nodes ++ [new])

theorem PutIn.cons {new old : Node} {nodes after : List Node} (h : PutIn new nodes after)
    (hOther : old.name ≠ new.name) : PutIn new (old :: nodes) (old :: after) := by
  cases h with
  | replaced hFirst hName => exact .replaced (List.forall_mem_cons.2 ⟨hOther, hFirst⟩) hName
  | appended hNew => exact .appended (List.forall_mem_cons.2 ⟨hOther, hNew⟩)

theorem putIn_putChild (new : Node) (nodes : List Node) : PutIn new nodes (putChild new nodes) := by
  induction nodes with
  | nil => exact .appended (List.forall_mem_nil _)
  | cons old rest ih =>
      rw [putChild]
      split
      · rename_i hSame
        exact .replaced (List.forall_mem_nil _) hSame
      · rename_i hOther
        exact ih.cons hOther

/-- A change that keeps the name puts the changed node where the first one of its name is. -/
theorem changeFirst_eq {change : Node → Option Node}
    (hChange : ∀ old new, change old = some new → new.name = old.name) (name : Text)
    (nodes : List Node) :
    changeFirst name change nodes = ((firstNamed name nodes).bind change).map (putChild · nodes) := by
  induction nodes with
  | nil => rfl
  | cons old rest ih =>
      rw [changeFirst, firstNamed_cons]
      split
      · cases hNew : change old with
        | none => simp [hNew]
        | some new => simp [hNew, putChild, hChange old new hNew]
      · rename_i hOther
        rw [ih]
        cases hFound : firstNamed name rest with
        | none => rfl
        | some found =>
            cases hNew : change found with
            | none => simp [hNew]
            | some new =>
                have hName : new.name = name := by rw [hChange found new hNew, name_of_firstNamed hFound]
                simp [hNew, putChild, hName, hOther]

/-! ### One level -/

theorem alike_put (new node : Node) : Alike (put new node) node := by
  cases node <;> exact ⟨rfl, rfl, rfl⟩

theorem child?_put {node : Node} (h : node.isDir = true) (new : Node) (name : Text) :
    (put new node).child? name = if new.name = name then some new else node.child? name := by
  cases node with
  | file attributes content => cases h
  | dir attributes children => exact firstNamed_putChild name new children

/-- The names stay as they are if the name is there, else it comes last. -/
theorem childNames_put {node : Node} (h : node.isDir = true) (new : Node) :
    (put new node).childNames =
      if new.name ∈ node.childNames then node.childNames else node.childNames ++ [new.name] := by
  cases node with
  | file attributes content => cases h
  | dir attributes children => exact map_name_putChild new children

theorem child?_eq_none_of_file {node : Node} (h : node.isDir = false) (name : Text) :
    node.child? name = none := by
  cases node with
  | file attributes content => rfl
  | dir attributes children => cases h

theorem mem_childNames_of_child? {node child : Node} {name : Text} (h : node.child? name = some child) :
    name ∈ node.childNames := by
  cases node with
  | file attributes content => cases h
  | dir attributes children => exact mem_names_of_firstNamed h

theorem isDir_of_child? {node child : Node} {name : Text} (h : node.child? name = some child) :
    node.isDir = true := by
  cases hDir : node.isDir with
  | true => rfl
  | false =>
      rw [child?_eq_none_of_file hDir] at h
      cases h

/-! ### Every level -/

theorem insertAt_nil (new node : Node) :
    insertAt new [] node = if node.isDir then some (put new node) else none := by
  cases node <;> rfl

theorem attributes_of_insertAt {new node after : Node} {place : List Text}
    (h : insertAt new place node = some after) : after.attributes = node.attributes := by
  cases node with
  | file attributes content => cases place <;> cases h
  | dir attributes children =>
      cases place with
      | nil => cases h; rfl
      | cons name rest =>
          obtain ⟨changed, -, rfl⟩ := Option.map_eq_some_iff.1 h
          rfl

theorem name_of_insertAt {new node after : Node} {place : List Text}
    (h : insertAt new place node = some after) : after.name = node.name :=
  congrArg Attributes.name (attributes_of_insertAt h)

/-- Insertion below a node puts the changed child into the node. -/
theorem insertAt_cons (new : Node) (name : Text) (rest : List Text) (node : Node) :
    insertAt new (name :: rest) node =
      ((node.child? name).bind (insertAt new rest)).map (put · node) := by
  cases node with
  | file attributes content => rfl
  | dir attributes children =>
      rw [insertAt, changeFirst_eq fun old changed hChanged => name_of_insertAt hChanged]
      simp only [child?, children_dir, Option.map_map]
      rfl

/-- What an insertion below a node comes to: the child on the way is there, takes the node, and is put back
in its place. -/
theorem insertAt_cons_eq_some_iff {new node after : Node} {name : Text} {rest : List Text} :
    insertAt new (name :: rest) node = some after ↔
      ∃ child changed, node.child? name = some child ∧ insertAt new rest child = some changed ∧
        changed.name = name ∧ after = put changed node := by
  rw [insertAt_cons, Option.map_eq_some_iff]
  constructor
  · rintro ⟨changed, hChanged, rfl⟩
    obtain ⟨child, hChild, hInsert⟩ := Option.bind_eq_some_iff.1 hChanged
    exact ⟨child, changed, hChild, hInsert, (name_of_insertAt hInsert).trans (name_of_firstNamed hChild), rfl⟩
  · rintro ⟨child, changed, hChild, hInsert, -, rfl⟩
    exact ⟨changed, by rw [hChild, Option.bind_some, hInsert], rfl⟩

/-- A node can be put in exactly where a directory is. -/
theorem isSome_insertAt (new : Node) (place : List Text) (root : Node) :
    (insertAt new place root).isSome = (root.find? place).any isDir := by
  induction place generalizing root with
  | nil =>
      rw [insertAt_nil]
      cases hDir : root.isDir <;> simp [hDir]
  | cons name rest ih =>
      rw [insertAt_cons, find?_cons, Option.isSome_map]
      cases root.child? name with
      | none => rfl
      | some child => exact ih child

/-- At its place, an insertion puts the node into the directory that was there. -/
theorem find?_insertAt_place {new root after : Node} {place : List Text}
    (h : insertAt new place root = some after) :
    after.find? place = (root.find? place).map (put new) := by
  induction place generalizing root after with
  | nil =>
      rw [insertAt_nil] at h
      split at h
      · rw [← Option.some.inj h]
        rfl
      · cases h
  | cons name rest ih =>
      obtain ⟨child, changed, hChild, hInsert, hName, rfl⟩ := insertAt_cons_eq_some_iff.1 h
      rw [find?_cons, find?_cons, child?_put (isDir_of_child? hChild), if_pos hName, hChild,
        Option.bind_some, Option.bind_some, ih hInsert]

theorem find?_insertAt_self {new root after : Node} {place : List Text}
    (h : insertAt new place root = some after) : after.find? (place ++ [new.name]) = some new := by
  have hDir : (root.find? place).any isDir = true := by rw [← isSome_insertAt new, h]; rfl
  rw [find?_append, find?_insertAt_place h]
  cases hFound : root.find? place with
  | none => simp [hFound] at hDir
  | some dir =>
      rw [hFound, Option.any_some] at hDir
      rw [Option.map_some, Option.bind_some, find?_cons, child?_put hDir, if_pos rfl]
      rfl

/-- A node before and after an insertion at a place, seen from another place: it looks the same, and unless it
is the directory of the insertion it lists the same names. -/
def Kept (isTarget : Prop) (before now : Node) : Prop :=
  Alike before now ∧ (¬isTarget → now.childNames = before.childNames)

theorem kept_refl (isTarget : Prop) (found : Option Node) : Option.Rel (Kept isTarget) found found := by
  cases found with
  | none => exact .none
  | some node => exact .some ⟨Alike.refl node, fun _ => rfl⟩

/-- Everywhere but at the new node and below it, what was found is still found, and nothing else. -/
theorem find?_insertAt_of_not_prefix {new root after : Node} {place query : List Text}
    (h : insertAt new place root = some after) (hQuery : ¬place ++ [new.name] <+: query) :
    Option.Rel (Kept (query = place)) (root.find? query) (after.find? query) := by
  induction place generalizing root after query with
  | nil =>
      rw [insertAt_nil] at h
      split at h
      · rename_i hDir
        rw [← Option.some.inj h]
        cases query with
        | nil => exact .some ⟨(alike_put new root).symm, fun hElsewhere => absurd rfl hElsewhere⟩
        | cons name rest =>
            have hName : new.name ≠ name := by
              rintro rfl
              exact hQuery ⟨rest, rfl⟩
            rw [find?_cons, find?_cons, child?_put hDir, if_neg hName]
            exact kept_refl _ _
      · cases h
  | cons step rest ih =>
      obtain ⟨child, changed, hChild, hInsert, hName, rfl⟩ := insertAt_cons_eq_some_iff.1 h
      have hDir := isDir_of_child? hChild
      cases query with
      | nil =>
          have hListed : changed.name ∈ root.childNames := by
            rw [hName]
            exact mem_childNames_of_child? hChild
          exact .some ⟨(alike_put changed root).symm, fun _ => by rw [childNames_put hDir, if_pos hListed]⟩
      | cons name query =>
          rw [find?_cons, find?_cons, child?_put hDir, hName]
          split
          · -- The way of the insertion: what is below this step follows from the child.
            rename_i hSame
            subst hSame
            have hBelow : ¬rest ++ [new.name] <+: query := fun hPrefix =>
              hQuery (List.cons_prefix_cons.2 ⟨rfl, hPrefix⟩)
            rw [hChild]
            simpa only [List.cons.injEq, true_and, Option.bind_some] using ih hInsert hBelow
          · exact kept_refl _ _

/-- What an insertion does not take away stays a directory, and nothing else becomes one. -/
theorem any_isDir_find?_insertAt {new root after : Node} {place query : List Text}
    (h : insertAt new place root = some after) (hQuery : ¬place ++ [new.name] <+: query) :
    (after.find? query).any isDir = (root.find? query).any isDir := by
  have hKept := find?_insertAt_of_not_prefix h hQuery
  generalize root.find? query = before at hKept ⊢
  generalize after.find? query = now at hKept ⊢
  cases hKept with
  | none => rfl
  | some hKept => exact hKept.1.isDir.symm

/-- An insertion anywhere leaves the looks of the root as they are. -/
theorem alike_of_insertAt {new root after : Node} {place : List Text}
    (h : insertAt new place root = some after) : Alike root after := by
  have hRoot : Option.Rel (Kept ([] = place)) (root.find? []) (after.find? []) :=
    find?_insertAt_of_not_prefix h (by simp)
  cases hRoot with
  | some hKept => exact hKept.1

end PhantomHost.Node
