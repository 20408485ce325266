import PhantomHost.Path
/-!
Places and the paths that are written for them.

A place of ordinary names is found again from its path, wherever one stands, and every path leads from such
a place to such a place. So on these places `render` and `normalize` undo each other. A path is read part by
part, so a path behind another one leads on from where the first leads: `normalize_append`. Read name by name, a
path from the root leads to the same place unless one of its names is a dot or two: `normalize_eq_names_iff`.
-/
namespace PhantomHost.Path

open PhantomHost.Text

/-- A place whose names are all ordinary. -/
def OrdinaryPlace (place : List Text) : Prop :=
  ∀ name ∈ place, Ordinary name

instance (place : List Text) : Decidable (OrdinaryPlace place) := by
  unfold OrdinaryPlace; infer_instance

theorem ordinaryPlace_nil : OrdinaryPlace [] :=
  List.forall_mem_nil _

theorem OrdinaryPlace.mono {place other : List Text} (h : OrdinaryPlace place) (hOther : other ⊆ place) :
    OrdinaryPlace other :=
  fun name hName => h name (hOther hName)

theorem step_of_ordinary {name : Text} (h : Ordinary name) (place : List Text) :
    step place name = place ++ [name] := by
  simp [step, h.1, h.2.2.1, h.2.2.2]

theorem foldl_step_of_ordinary {names : List Text} (h : OrdinaryPlace names) (place : List Text) :
    names.foldl step place = place ++ names := by
  induction names generalizing place with
  | nil => simp
  | cons name rest ih =>
      obtain ⟨hName, hRest⟩ := List.forall_mem_cons.1 h
      rw [List.foldl_cons, step_of_ordinary hName, ih hRest, List.append_assoc, List.singleton_append]

theorem OrdinaryPlace.step {place : List Text} (h : OrdinaryPlace place) {part : Text}
    (hPart : Symbol.char '/' ∉ part) : OrdinaryPlace (Path.step place part) := by
  unfold Path.step
  split
  · exact h
  · rename_i hStays
    split
    · exact h.mono (List.dropLast_subset _)
    · rename_i hUp
      intro name hName
      rcases List.mem_append.1 hName with hOld | hNew
      · exact h name hOld
      · rw [List.mem_singleton.1 hNew]
        simp only [Bool.or_eq_true, decide_eq_true_eq, not_or] at hStays
        exact ⟨hStays.1, hPart, hStays.2, hUp⟩

/-- Every path leads from an ordinary place to an ordinary place. -/
theorem OrdinaryPlace.normalize {cursor : List Text} (h : OrdinaryPlace cursor) (path : Text) :
    OrdinaryPlace (Path.normalize path cursor) := by
  have hParts : ∀ part ∈ parts path, Symbol.char '/' ∉ part := fun _ => not_mem_of_mem_splitOn
  have hStart : OrdinaryPlace (if isAbsolute path then [] else cursor) := by
    split
    · exact ordinaryPlace_nil
    · exact h
  unfold Path.normalize
  generalize (if isAbsolute path then [] else cursor) = place at hStart ⊢
  generalize parts path = pieces at hParts
  induction pieces generalizing place with
  | nil => exact hStart
  | cons part rest ih =>
      obtain ⟨hPart, hRest⟩ := List.forall_mem_cons.1 hParts
      exact ih _ (hStart.step hPart) hRest

theorem isAbsolute_render (place : List Text) : isAbsolute (render place) = true := rfl

theorem OrdinaryPlace.segments {place : List Text} (h : OrdinaryPlace place) :
    ∀ name ∈ place, name ≠ "" ∧ Symbol.char '/' ∉ name :=
  fun name hName => ⟨(h name hName).1, (h name hName).2.1⟩

/-- The parts of a written place are its names, behind the empty part in front of the first slash. The root
has one more empty part. -/
theorem parts_render {place : List Text} (h : ∀ name ∈ place, Symbol.char '/' ∉ name) :
    parts (render place) = [] :: if place = [] then [[]] else place := by
  have hSplit : parts (render place) = [] :: splitOn '/' (joinWith [.char '/'] place) :=
    @splitOn_append_cons (.char '/') [] List.not_mem_nil _
  rw [hSplit]
  split
  · rename_i hRoot
    rw [hRoot]
    rfl
  · rename_i hPlace
    rw [splitOn_joinWith hPlace h]

/-- The names of a written place are the names of the place, dots among them. -/
theorem names_render {place : List Text} (h : ∀ name ∈ place, name ≠ "" ∧ Symbol.char '/' ∉ name) :
    names (render place) = place := by
  rw [names, parts_render fun name hName => (h name hName).2]
  split
  · rename_i hRoot
    rw [hRoot]
    rfl
  · exact List.filter_eq_self.2 fun name hName => decide_eq_true (h name hName).1

/-- An ordinary place is found again from its path, wherever one stands. -/
theorem normalize_render {place : List Text} (h : OrdinaryPlace place) (cursor : List Text) :
    Path.normalize (render place) cursor = place := by
  have hStay : Path.step [] [] = [] := rfl
  rw [Path.normalize, parts_render fun name hName => (h name hName).2.1, isAbsolute_render, if_pos rfl,
    List.foldl_cons, hStay]
  split
  · rename_i hRoot
    rw [hRoot]
    rfl
  · exact foldl_step_of_ordinary h []

theorem render_inj {place other : List Text} (hPlace : OrdinaryPlace place)
    (hOther : OrdinaryPlace other) : render place = render other ↔ place = other := by
  constructor
  · intro h
    rw [← normalize_render hPlace [], h, normalize_render hOther]
  · rintro rfl
    rfl

/-! ### A path behind a path -/

/-- The parts of two paths with a slash between them are the parts of the two. -/
theorem parts_append (path rest : Text) : parts (path ++ "/" ++ rest) = parts path ++ parts rest := by
  rw [List.append_assoc]
  exact splitOn_append (.char '/') path rest

theorem isAbsolute_append {path : Text} (h : path ≠ []) (rest : Text) :
    isAbsolute (path ++ rest) = isAbsolute path := by
  cases path with
  | nil => exact absurd rfl h
  | cons c path => rfl

/-- A path behind another one leads on from where the first leads, unless it starts at the root. -/
theorem normalize_append {path rest : Text} (hPath : path ≠ []) (hRest : isAbsolute rest = false)
    (cursor : List Text) :
    Path.normalize (path ++ "/" ++ rest) cursor = Path.normalize rest (Path.normalize path cursor) := by
  have hStart : isAbsolute (path ++ "/" ++ rest) = isAbsolute path := by
    rw [List.append_assoc]
    exact isAbsolute_append hPath _
  rw [Path.normalize, parts_append, hStart, List.foldl_append, Path.normalize, Path.normalize, hRest,
    if_neg Bool.false_ne_true]

/-- The pieces of a text are made of its symbols. -/
theorem subset_of_mem_splitOn {sep : Symbol} {text piece : Text} (h : piece ∈ splitOn sep text) :
    piece ⊆ text := by
  induction text generalizing piece with
  | nil =>
      rw [List.mem_singleton.1 h]
      exact List.nil_subset _
  | cons c rest ih =>
      rw [splitOn] at h
      split at h
      · rcases List.mem_cons.1 h with rfl | hLater
        · exact List.nil_subset _
        · exact List.subset_cons_of_subset c (ih hLater)
      · split at h
        · rw [List.mem_singleton.1 h]
          exact List.cons_subset_cons c (List.nil_subset rest)
        · rename_i first others hPieces
          rw [hPieces] at ih
          rcases List.mem_cons.1 h with rfl | hLater
          · exact List.cons_subset_cons c (ih List.mem_cons_self)
          · exact List.subset_cons_of_subset c (ih (List.mem_cons_of_mem _ hLater))

theorem mem_names {path name : Text} (h : name ∈ names path) : name ≠ "" ∧ Symbol.char '/' ∉ name := by
  obtain ⟨hPart, hNonempty⟩ := List.mem_filter.1 h
  exact ⟨of_decide_eq_true hNonempty, not_mem_of_mem_splitOn hPart⟩

/-- Empty parts of a path lead nowhere. -/
theorem normalize_eq_foldl_names (path : Text) (cursor : List Text) :
    Path.normalize path cursor = (names path).foldl step (if isAbsolute path then [] else cursor) := by
  have hStay : (fun (place : List Text) (part : Text) =>
      if decide (part ≠ "") = true then step place part else place) = step := by
    funext place part
    by_cases hPart : part = ""
    · simp [hPart, step]
    · simp [hPart]
  rw [names, List.foldl_filter, hStay]
  rfl

theorem isAbsolute_of_not_mem {name : Text} (h : Symbol.char '/' ∉ name) : isAbsolute name = false := by
  cases name with
  | nil => rfl
  | cons c rest => exact beq_eq_false_iff_ne.2 fun hHead => h (Option.some.inj hHead ▸ List.mem_cons_self)

/-- A name is a path of one step. -/
theorem normalize_of_not_mem {name : Text} (h : Symbol.char '/' ∉ name) (cursor : List Text) :
    Path.normalize name cursor = step cursor name := by
  rw [Path.normalize, parts, splitOn_eq_singleton h, isAbsolute_of_not_mem h]
  rfl

theorem mem_foldl_step {pieces place : List Text} {name : Text} (h : name ∈ pieces.foldl step place) :
    name ∈ place ∨ name ∈ pieces := by
  induction pieces generalizing place with
  | nil => exact Or.inl h
  | cons part rest ih =>
      rcases ih h with hThere | hLater
      · have hStep : name ∈ place ∨ name = part := by
          unfold step at hThere
          split at hThere
          · exact Or.inl hThere
          · split at hThere
            · exact Or.inl (List.dropLast_subset _ hThere)
            · exact (List.mem_append.1 hThere).imp_right List.mem_singleton.1
        rcases hStep with hBefore | rfl
        · exact Or.inl hBefore
        · exact Or.inr List.mem_cons_self
      · exact Or.inr (List.mem_cons_of_mem _ hLater)

/-- A path from the root leads to ordinary names only, which are spelled with its symbols. -/
theorem mem_normalize_of_isAbsolute {path : Text} (h : isAbsolute path = true) {cursor : List Text} {name : Text}
    (hName : name ∈ Path.normalize path cursor) : Ordinary name ∧ name ⊆ path := by
  have hRoot : Path.normalize path cursor = Path.normalize path [] := by
    rw [Path.normalize, Path.normalize, if_pos h, if_pos h]
  rw [hRoot] at hName
  refine ⟨ordinaryPlace_nil.normalize path name hName, ?_⟩
  rw [Path.normalize, if_pos h] at hName
  rcases mem_foldl_step hName with hNowhere | hPart
  · cases hNowhere
  · exact subset_of_mem_splitOn hPart

theorem names_ne_nil {path : Text} (hPath : path ≠ []) (hStart : isAbsolute path = false) :
    names path ≠ [] := by
  cases path with
  | nil => exact absurd rfl hPath
  | cons c rest =>
      have hSep : c ≠ Symbol.char '/' := fun hSame => beq_eq_false_iff_ne.1 hStart (congrArg some hSame)
      have hFirst : ∀ (piece : Text) (others : List Text),
          ((c :: piece) :: others).filter (· ≠ ("" : Text)) ≠ [] := fun piece others =>
        List.ne_nil_of_mem (List.mem_filter.2 ⟨List.mem_cons_self, decide_eq_true (List.cons_ne_nil c piece)⟩)
      rw [names, parts, splitOn, if_neg hSep]
      cases splitOn (Symbol.char '/') rest with
      | nil => exact hFirst [] []
      | cons piece others => exact hFirst piece others

/-! ### Up and down -/

/-- Below the root, the path of a place has a slash in front of every name. -/
theorem render_eq_flatMap {place : List Text} (h : place ≠ []) :
    render place = place.flatMap (Symbol.char '/' :: ·) := by
  induction place with
  | nil => exact absurd rfl h
  | cons name rest ih =>
      cases rest with
      | nil => exact congrArg (Symbol.char '/' :: ·) (List.append_nil name).symm
      | cons next others =>
          rw [List.flatMap_cons, ← ih (List.cons_ne_nil next others)]
          exact congrArg (Symbol.char '/' :: ·) (List.append_assoc name "/" _)

/-- The path of a place without a slash at its end, which only the path of the root has. -/
theorem trimEnd_render {place : List Text} (h : OrdinaryPlace place) :
    trimEnd (· == Symbol.char '/') (render place) = place.flatMap (Symbol.char '/' :: ·) := by
  rcases List.eq_nil_or_concat place with rfl | ⟨above, name, rfl⟩
  · rfl
  · rw [List.concat_eq_append] at h ⊢
    obtain ⟨hNonempty, hSlash, -⟩ := h name (List.mem_append_right _ List.mem_cons_self)
    have hEnd : ∀ c ∈ name, (c == Symbol.char '/') = false := fun c hc =>
      beq_eq_false_iff_ne.2 fun hSame => hSlash (hSame ▸ hc)
    rw [render_eq_flatMap (List.append_ne_nil_of_right_ne_nil above (List.cons_ne_nil name [])),
      List.flatMap_append, List.flatMap_singleton, List.append_cons]
    rw [trimEnd_append, trimEnd_eq_self hEnd]
    exact if_neg hNonempty

theorem child_render {place : List Text} (h : OrdinaryPlace place) (name : Text) :
    child (render place) name = render (place ++ [name]) := by
  rw [child, trimEnd_render h,
    render_eq_flatMap (List.append_ne_nil_of_right_ne_nil place (List.cons_ne_nil name [])),
    List.flatMap_append, List.flatMap_singleton, List.append_assoc]
  rfl

theorem parent_render {place : List Text} (h : OrdinaryPlace place) :
    parent (render place) = render place.dropLast := by
  rw [parent, names_render h.segments]

theorem dropLast_take_sub (place : List Text) (steps : Nat) :
    (place.take (place.length - steps)).dropLast = place.take (place.length - (steps + 1)) := by
  rw [List.dropLast_eq_take, List.take_take, List.length_take]
  congr 1
  omega

/-! ### Dots -/

/-- No part of a path is a dot or two. -/
def Dotless (path : Text) : Prop :=
  ∀ name ∈ names path, name ≠ "." ∧ name ≠ ".."

instance (path : Text) : Decidable (Dotless path) := by
  unfold Dotless; infer_instance

/-- A path from the root leads where its names lead one by one, exactly if none of them is a dot or two. -/
theorem normalize_eq_names_iff {path : Text} (h : isAbsolute path = true) (cursor : List Text) :
    Path.normalize path cursor = names path ↔ Dotless path := by
  constructor
  · intro hSame name hName
    rw [← hSame] at hName
    obtain ⟨hOrdinary, -⟩ := mem_normalize_of_isAbsolute h hName
    exact hOrdinary.2.2
  · intro hDots
    have hPlace : OrdinaryPlace (names path) := fun name hName =>
      ⟨(mem_names hName).1, (mem_names hName).2, hDots name hName⟩
    rw [normalize_eq_foldl_names, if_pos h]
    exact foldl_step_of_ordinary hPlace []

/-- A slash in front of a path adds no name. -/
theorem names_slash (path : Text) : names ("/" ++ path) = names path := by
  have hParts : parts ("/" ++ path) = [] :: parts path := parts_append [] path
  rw [names, hParts]
  rfl

/-- The names of a path are where it leads behind a slash, exactly if none of them is a dot or two. -/
theorem names_eq_normalize_iff (path : Text) : names path = Path.normalize ("/" ++ path) [] ↔ Dotless path := by
  have hSame := @normalize_eq_names_iff ("/" ++ path) rfl []
  rw [names_slash, Dotless, names_slash] at hSame
  exact eq_comm.trans hSame

/-- The names of a path, written as a place, lead from anywhere where the path leads from the root. -/
theorem normalize_render_names (path : Text) (cursor : List Text) :
    Path.normalize (render (names path)) cursor = Path.normalize ("/" ++ path) [] := by
  rw [normalize_eq_foldl_names, normalize_eq_foldl_names, names_render fun _ => mem_names, names_slash]
  rfl

end PhantomHost.Path
