import PhantomHost.Proofs.Node.Insert
/-!
Two insertions into one tree, in either order.

Two children of different names can be put into a directory in either order if one of them takes the place of
another child: then nothing comes behind anything else. On the way to a directory this is always so, and only
the directory itself may gain a child at its end. So the order of two insertions shows only where they go into
one directory, or where one of them takes away what the other goes into.
-/
namespace PhantomHost.Node

open PhantomHost.Text

/-! ### Children -/

theorem putChild_cons_of_eq {new old : Node} (h : old.name = new.name) (rest : List Node) :
    putChild new (old :: rest) = new :: rest :=
  if_pos h

theorem putChild_cons_of_ne {new old : Node} (h : old.name ≠ new.name) (rest : List Node) :
    putChild new (old :: rest) = old :: putChild new rest :=
  if_neg h

/-- Of two nodes of one name that are put in, the second takes the place of the first. -/
theorem putChild_putChild {first second : Node} (h : first.name = second.name) (nodes : List Node) :
    putChild second (putChild first nodes) = putChild second nodes := by
  induction nodes with
  | nil => exact putChild_cons_of_eq h []
  | cons old rest ih =>
      by_cases hSame : old.name = second.name
      · rw [putChild_cons_of_eq (hSame.trans h.symm), putChild_cons_of_eq h, putChild_cons_of_eq hSame]
      · have hFirst : old.name ≠ first.name := fun hOld => hSame (hOld.trans h)
        rw [putChild_cons_of_ne hFirst, putChild_cons_of_ne hSame, ih, putChild_cons_of_ne hSame]

/-- A node that takes the place of another one can be put in before or after a node of a different name. -/
theorem putChild_comm {first second : Node} (h : first.name ≠ second.name) {nodes : List Node}
    (hListed : first.name ∈ nodes.map name) :
    putChild first (putChild second nodes) = putChild second (putChild first nodes) := by
  induction nodes with
  | nil => cases hListed
  | cons old rest ih =>
      by_cases hFirst : old.name = first.name
      · have hSecond : old.name ≠ second.name := fun hOld => h (hFirst.symm.trans hOld)
        rw [putChild_cons_of_ne hSecond, putChild_cons_of_eq hFirst, putChild_cons_of_eq hFirst,
          putChild_cons_of_ne h]
      · have hRest : first.name ∈ rest.map name :=
          (List.mem_cons.1 hListed).resolve_left fun hOld => hFirst hOld.symm
        by_cases hSecond : old.name = second.name
        · rw [putChild_cons_of_eq hSecond, putChild_cons_of_ne h.symm, putChild_cons_of_ne hFirst,
            putChild_cons_of_eq hSecond]
        · rw [putChild_cons_of_ne hSecond, putChild_cons_of_ne hFirst, ih hRest, putChild_cons_of_ne hFirst,
            putChild_cons_of_ne hSecond]

/-! ### One level -/

theorem isDir_put (new node : Node) : (put new node).isDir = node.isDir :=
  (alike_put new node).isDir

theorem put_put {first second : Node} (h : first.name = second.name) (node : Node) :
    put second (put first node) = put second node := by
  cases node with
  | file attributes content => rfl
  | dir attributes children => exact congrArg (dir attributes) (putChild_putChild h children)

theorem put_comm {first second node : Node} (h : first.name ≠ second.name)
    (hListed : first.name ∈ node.childNames) :
    put first (put second node) = put second (put first node) := by
  cases node with
  | file attributes content => rfl
  | dir attributes children => exact congrArg (dir attributes) (putChild_comm h hListed)

/-! ### Every level -/

/-- What comes back from below a directory has the name under which it is listed there. -/
theorem name_of_changed {new node changed : Node} {name : Text} {rest : List Text}
    (h : (node.child? name).bind (insertAt new rest) = some changed) :
    changed.name = name ∧ name ∈ node.childNames := by
  obtain ⟨child, hChild, hInsert⟩ := Option.bind_eq_some_iff.1 h
  exact ⟨(name_of_insertAt hInsert).trans (name_of_firstNamed hChild), mem_childNames_of_child? hChild⟩

/-- An insertion into a directory, and one below it that does not go into the new node. -/
theorem insertAt_nil_comm {first second : Node} {name : Text} {rest : List Text} (hName : first.name ≠ name)
    (root : Node) : (insertAt first [] root).bind (insertAt second (name :: rest)) =
      (insertAt second (name :: rest) root).bind (insertAt first []) := by
  cases hDir : root.isDir with
  | false =>
      rw [insertAt_nil, hDir, insertAt_cons, child?_eq_none_of_file hDir]
      rfl
  | true =>
      rw [insertAt_nil, hDir, if_pos rfl, Option.bind_some, insertAt_cons, insertAt_cons, child?_put hDir,
        if_neg hName]
      cases hBelow : (root.child? name).bind (insertAt second rest) with
      | none => rfl
      | some changed =>
          obtain ⟨hChanged, hListed⟩ := name_of_changed hBelow
          have hOther : changed.name ≠ first.name := fun hSame => hName (hSame.symm.trans hChanged)
          rw [Option.map_some, Option.map_some, Option.bind_some, insertAt_nil, isDir_put, hDir, if_pos rfl,
            put_comm hOther (hChanged ▸ hListed)]

/-- Two insertions below one child change that child twice. -/
theorem insertAt_cons_bind_self (first second : Node) (name : Text) (rest more : List Text) (root : Node) :
    (insertAt first (name :: rest) root).bind (insertAt second (name :: more)) =
      ((root.child? name).bind fun child =>
        (insertAt first rest child).bind (insertAt second more)).map (put · root) := by
  rw [insertAt_cons]
  cases hChild : root.child? name with
  | none => rfl
  | some child =>
      rw [Option.bind_some, Option.bind_some]
      cases hBelow : insertAt first rest child with
      | none => rfl
      | some changed =>
          have hName : changed.name = name := (name_of_insertAt hBelow).trans (name_of_firstNamed hChild)
          rw [Option.map_some, Option.bind_some, Option.bind_some, insertAt_cons,
            child?_put (isDir_of_child? hChild), if_pos hName, Option.bind_some]
          cases hTwice : insertAt second more changed with
          | none => rfl
          | some twice =>
              rw [Option.map_some, Option.map_some, put_put (name_of_insertAt hTwice).symm]

/-- Two insertions below different children change each of the two. -/
theorem insertAt_cons_bind_of_ne (first second : Node) {name step : Text} (h : name ≠ step)
    (rest more : List Text) (root : Node) :
    (insertAt first (name :: rest) root).bind (insertAt second (step :: more)) =
      ((root.child? name).bind (insertAt first rest)).bind fun changed =>
        ((root.child? step).bind (insertAt second more)).map fun other => put other (put changed root) := by
  rw [insertAt_cons]
  cases hBelow : (root.child? name).bind (insertAt first rest) with
  | none => rfl
  | some changed =>
      obtain ⟨hName, hListed⟩ := name_of_changed hBelow
      obtain ⟨child, hChild, -⟩ := Option.bind_eq_some_iff.1 hBelow
      have hStep : ¬changed.name = step := fun hSame => h (hName.symm.trans hSame)
      rw [Option.map_some, Option.bind_some, Option.bind_some, insertAt_cons,
        child?_put (isDir_of_child? hChild), if_neg hStep]

/-- Two insertions come to the same in either order, unless they go into one directory or one goes into what the
other takes away. -/
theorem insertAt_comm {first second : Node} {place other : List Text} (hPlaces : place ≠ other)
    (hFirst : ¬place ++ [first.name] <+: other) (hSecond : ¬other ++ [second.name] <+: place) (root : Node) :
    (insertAt first place root).bind (insertAt second other) =
      (insertAt second other root).bind (insertAt first place) := by
  induction place generalizing other root with
  | nil =>
      cases other with
      | nil => exact absurd rfl hPlaces
      | cons name rest =>
          apply insertAt_nil_comm
          rintro rfl
          exact hFirst ⟨rest, rfl⟩
  | cons name rest ih =>
      cases other with
      | nil =>
          apply Eq.symm
          apply insertAt_nil_comm
          rintro rfl
          exact hSecond ⟨rest, rfl⟩
      | cons step more =>
          by_cases hSame : name = step
          · subst hSame
            rw [insertAt_cons_bind_self, insertAt_cons_bind_self]
            have hBelow : ∀ child, (insertAt first rest child).bind (insertAt second more) =
                (insertAt second more child).bind (insertAt first rest) := by
              apply ih
              · exact fun hRest => hPlaces (congrArg (name :: ·) hRest)
              · exact fun hPrefix => hFirst (List.cons_prefix_cons.2 ⟨rfl, hPrefix⟩)
              · exact fun hPrefix => hSecond (List.cons_prefix_cons.2 ⟨rfl, hPrefix⟩)
            simp only [hBelow]
          · rw [insertAt_cons_bind_of_ne first second hSame, insertAt_cons_bind_of_ne second first (Ne.symm hSame)]
            cases hOne : (root.child? name).bind (insertAt first rest) with
            | none => cases (root.child? step).bind (insertAt second more) <;> rfl
            | some one =>
                cases hTwo : (root.child? step).bind (insertAt second more) with
                | none => rfl
                | some two =>
                    obtain ⟨hName, hListed⟩ := name_of_changed hOne
                    have hNames : one.name ≠ two.name := by
                      rw [hName, (name_of_changed hTwo).1]
                      exact hSame
                    exact congrArg some (put_comm hNames (hName ▸ hListed)).symm

/-- A node that is inserted twice is inserted once. -/
theorem insertAt_twice (new : Node) (place : List Text) (root : Node) :
    (insertAt new place root).bind (insertAt new place) = insertAt new place root := by
  induction place generalizing root with
  | nil =>
      rw [insertAt_nil]
      cases hDir : root.isDir with
      | false => rfl
      | true => rw [if_pos rfl, Option.bind_some, insertAt_nil, isDir_put, hDir, if_pos rfl, put_put rfl]
  | cons name rest ih =>
      rw [insertAt_cons_bind_self, insertAt_cons]
      simp only [ih]

/-! ### Insertions that may find no directory -/

/-- A tree with `new` in the directory at the given place, or as it is if no directory is there. -/
def tryInsert (new : Node) (place : List Text) (root : Node) : Node :=
  (insertAt new place root).getD root

/-- Whether there is a directory for a node does not depend on an insertion that does not take it away. -/
theorem isSome_insertAt_tryInsert {first : Node} {place other : List Text}
    (h : ¬place ++ [first.name] <+: other) (second root : Node) :
    (insertAt second other (tryInsert first place root)).isSome = (insertAt second other root).isSome := by
  rw [isSome_insertAt, isSome_insertAt, tryInsert]
  cases hInsert : insertAt first place root with
  | none => rfl
  | some after => exact any_isDir_find?_insertAt hInsert h

theorem tryInsert_comm {first second : Node} {place other : List Text} (hPlaces : place ≠ other)
    (hFirst : ¬place ++ [first.name] <+: other) (hSecond : ¬other ++ [second.name] <+: place) (root : Node) :
    tryInsert second other (tryInsert first place root) =
      tryInsert first place (tryInsert second other root) := by
  have hBoth := insertAt_comm hPlaces hFirst hSecond root
  have hThen : (insertAt second other (tryInsert first place root)).isSome =
      (insertAt second other root).isSome := isSome_insertAt_tryInsert hFirst second root
  have hBefore : (insertAt first place (tryInsert second other root)).isSome =
      (insertAt first place root).isSome := isSome_insertAt_tryInsert hSecond first root
  unfold tryInsert at hThen hBefore ⊢
  cases hOne : insertAt first place root with
  | none =>
      rw [hOne, Option.isSome_none, Option.isSome_eq_false_iff, Option.isNone_iff_eq_none] at hBefore
      rw [hBefore]
      rfl
  | some one =>
      cases hTwo : insertAt second other root with
      | none =>
          rw [hOne, hTwo, Option.isSome_none, Option.isSome_eq_false_iff, Option.isNone_iff_eq_none] at hThen
          rw [hThen]
          show one = (insertAt first place root).getD root
          rw [hOne]
          rfl
      | some two =>
          rw [hOne, hTwo, Option.bind_some, Option.bind_some] at hBoth
          rw [hOne, hTwo, Option.isSome_some] at hThen
          obtain ⟨both, hAfter⟩ := Option.isSome_iff_exists.1 hThen
          rw [Option.getD_some] at hAfter
          rw [Option.getD_some, Option.getD_some, ← hBoth, hAfter]
          rfl

/-- Where a node has been put in, it goes in again and changes nothing; where there is no directory for it, there
is none afterwards. -/
theorem insertAt_tryInsert_self (new : Node) (place : List Text) (root : Node) :
    insertAt new place (tryInsert new place root) = insertAt new place root := by
  have hTwice := insertAt_twice new place root
  rw [tryInsert]
  cases hOnce : insertAt new place root with
  | none => exact hOnce
  | some after =>
      rw [hOnce] at hTwice
      exact hTwice

theorem tryInsert_tryInsert (new : Node) (place : List Text) (root : Node) :
    tryInsert new place (tryInsert new place root) = tryInsert new place root := by
  have hAgain := insertAt_tryInsert_self new place root
  unfold tryInsert at hAgain ⊢
  rw [hAgain]
  cases insertAt new place root <;> rfl

end PhantomHost.Node
