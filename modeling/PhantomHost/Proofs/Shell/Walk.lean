import PhantomHost.Proofs.Shell.Ground
import PhantomHost.Proofs.Text.Words
/-!
Changes of the directory, one after the other and all at once.

A `cd` looks at the place that its path means and at nothing on the way there. So a `cd` that succeeds leads where
the first part of a longer path leads, and the rest of that path comes to the same from there.
-/
namespace PhantomHost.Shell

open PhantomHost.Text PhantomHost.Path

/-- The shell after `cd` with a path. -/
def goTo (shell : Shell) (path : Text) : Shell :=
  (shell.run ("cd " ++ path)).1

/-- A `cd` with a path succeeds: it answers nothing. -/
def CanGoTo (shell : Shell) (path : Text) : Prop :=
  (shell.run ("cd " ++ path)).2 = ""

instance (shell : Shell) (path : Text) : Decidable (shell.CanGoTo path) :=
  inferInstanceAs (Decidable (_ = _))

/-- A command that takes one path. -/
theorem run_pair (shell : Shell) (builtin : Builtin) {path : Text} (h : IsWord path) :
    shell.run (builtin.word ++ " " ++ path) = shell.perform builtin [path] := by
  have hWord : IsWord builtin.word := by cases builtin <;> decide
  exact shell.run_of_words (words_pair hWord h)

/-- What a `cd` with a path comes to, by what is at the place of the path. -/
theorem run_cd {path : Text} (h : IsWord path) (shell : Shell) :
    shell.run ("cd " ++ path) =
      if shell.HasDirectory (shell.placeOf path) then
        ({ shell with cursor := shell.placeOf path }, ("" : Text))
      else (shell, "cd: " ++ path ++ ": No such file or directory") := by
  have hRun : shell.run ("cd " ++ path) = shell.cd [path] := shell.run_pair .cd h
  rw [hRun]
  split
  · rename_i hThere
    obtain ⟨dir, hFound, hDir⟩ := hasDirectory_iff.1 hThere
    cases dir with
    | file attributes content => cases hDir
    | dir attributes children => simp only [cd, nodeAt?, hFound]
  · rename_i hNowhere
    cases hFound : shell.root.find? (shell.placeOf path) with
    | none => simp only [cd, nodeAt?, hFound]
    | some node =>
        cases node with
        | file attributes content => simp only [cd, nodeAt?, hFound]
        | dir attributes children => exact absurd (hasDirectory_iff.2 ⟨_, hFound, rfl⟩) hNowhere

theorem canGoTo_iff {path : Text} (h : IsWord path) (shell : Shell) :
    shell.CanGoTo path ↔ shell.HasDirectory (shell.placeOf path) := by
  rw [CanGoTo, run_cd h]
  split
  · rename_i hDir
    exact iff_of_true rfl hDir
  · rename_i hDir
    have hMessage : ("cd: " ++ path ++ ": No such file or directory" : Text) ≠ "" :=
      List.append_ne_nil_of_left_ne_nil (List.append_ne_nil_of_left_ne_nil (by decide) path) _
    exact iff_of_false hMessage hDir

theorem CanGoTo.goTo_eq {shell : Shell} {path : Text} (h : shell.CanGoTo path) (hPath : IsWord path) :
    shell.goTo path = { shell with cursor := shell.placeOf path } := by
  rw [goTo, run_cd hPath, if_pos ((canGoTo_iff hPath shell).1 h)]

/-- A `cd` behind a `cd` that succeeds comes to the same as one `cd` with both paths. -/
theorem CanGoTo.append {shell : Shell} {path rest : Text} (h : shell.CanGoTo path) (hPath : IsWord path)
    (hRest : IsWord rest) (hStart : isAbsolute rest = false) :
    ((shell.goTo path).CanGoTo rest ↔ shell.CanGoTo (path ++ "/" ++ rest)) ∧
      ((shell.goTo path).CanGoTo rest → (shell.goTo path).goTo rest = shell.goTo (path ++ "/" ++ rest)) := by
  have hSlash : IsWord "/" := by decide
  have hWhole : IsWord (path ++ "/" ++ rest) := (hPath.append hSlash).append hRest
  have hPlace : (shell.goTo path).placeOf rest = shell.placeOf (path ++ "/" ++ rest) := by
    rw [h.goTo_eq hPath]
    exact (normalize_append hPath.1 hStart shell.cursor).symm
  have hRoot : (shell.goTo path).root = shell.root := shell.root_run _
  have hSame : (shell.goTo path).CanGoTo rest ↔ shell.CanGoTo (path ++ "/" ++ rest) := by
    rw [canGoTo_iff hRest, canGoTo_iff hWhole, HasDirectory, hPlace, hRoot]
    rfl
  refine ⟨hSame, fun hThen => ?_⟩
  rw [hThen.goTo_eq hRest, (hSame.1 hThen).goTo_eq hWhole, hPlace, h.goTo_eq hPath]

/-- Changes of the directory, one after the other, each of which succeeds. -/
inductive Walk : Shell → List Text → Shell → Prop where
  | stay (shell : Shell) : Walk shell [] shell
  | step {shell finish : Shell} {path : Text} {later : List Text} (first : shell.CanGoTo path)
      (rest : Walk (shell.goTo path) later finish) : Walk shell (path :: later) finish

/-- A path one component at a time: the root first if the path starts there, then name by name. -/
def components (path : Text) : List Text :=
  if isAbsolute path then "/" :: names path else names path

/-- A walk along names stays in the tree, and ends in a directory if it starts in one. -/
theorem Walk.of_names {shell finish : Shell} {along : List Text} (walk : Walk shell along finish)
    (hNames : ∀ name ∈ along, IsWord name ∧ Symbol.char '/' ∉ name) (hStart : shell.HasDirectory shell.cursor) :
    finish = { shell with cursor := along.foldl Path.step shell.cursor } ∧
      shell.HasDirectory (along.foldl Path.step shell.cursor) := by
  induction walk with
  | stay shell => exact ⟨rfl, hStart⟩
  | @step shell finish name later first rest ih =>
      obtain ⟨⟨hWord, hSlash⟩, hLater⟩ := List.forall_mem_cons.1 hNames
      have hPlace : shell.placeOf name = Path.step shell.cursor name := normalize_of_not_mem hSlash _
      have hThere := (canGoTo_iff hWord shell).1 first
      rw [first.goTo_eq hWord, hPlace] at ih
      exact ih hLater (hPlace ▸ hThere)

/-- The first step of a walk finds a directory, wherever the walk starts; from there on the names lead from one to
the next. -/
theorem Walk.of_first {shell finish : Shell} {first : Text} {along : List Text}
    (walk : Walk shell (first :: along) finish) (hFirst : IsWord first)
    (hNames : ∀ name ∈ along, IsWord name ∧ Symbol.char '/' ∉ name) :
    finish = { shell with cursor := along.foldl Path.step (shell.placeOf first) } ∧
      shell.HasDirectory (along.foldl Path.step (shell.placeOf first)) := by
  cases walk with
  | step goes rest =>
      have hThere := (canGoTo_iff hFirst shell).1 goes
      rw [goes.goTo_eq hFirst] at rest
      exact rest.of_names hNames hThere

/-- A walk along a path ends where one `cd` with the whole path leads, which succeeds then. -/
theorem Walk.canGoTo {shell finish : Shell} {path : Text} (walk : Walk shell (components path) finish)
    (hPath : IsWord path) : shell.CanGoTo path ∧ shell.goTo path = finish := by
  have hNames : ∀ name ∈ names path, IsWord name ∧ Symbol.char '/' ∉ name := by
    intro name hName
    obtain ⟨hNonempty, hSlash⟩ := mem_names hName
    have hSymbols : name ⊆ path := subset_of_mem_splitOn (List.mem_filter.1 hName).1
    exact ⟨⟨hNonempty, fun c hc => hPath.2 c (hSymbols hc)⟩, hSlash⟩
  suffices hEnd : finish = { shell with cursor := shell.placeOf path } ∧
      shell.HasDirectory (shell.placeOf path) by
    have hCan := (canGoTo_iff hPath shell).2 hEnd.2
    exact ⟨hCan, (hCan.goTo_eq hPath).trans hEnd.1.symm⟩
  rw [placeOf, normalize_eq_foldl_names]
  unfold components at walk
  split at walk
  · rename_i hRoot
    rw [if_pos hRoot]
    exact walk.of_first (by decide) hNames
  · rename_i hRelative
    rw [if_neg hRelative]
    cases hAlong : names path with
    | nil => exact absurd hAlong (names_ne_nil hPath.1 (Bool.eq_false_iff.2 hRelative))
    | cons name later =>
        rw [hAlong] at walk hNames
        obtain ⟨⟨hWord, hSlash⟩, hLater⟩ := List.forall_mem_cons.1 hNames
        rw [List.foldl_cons, ← normalize_of_not_mem hSlash]
        exact walk.of_first hWord hLater

/-- Changing the directory composes. After a `cd` that succeeds, a `cd` with a path that does not start at the root
succeeds exactly if one `cd` with both paths does from where the first started, and then both leave the shell in
the same state. So a walk along a path, one component at a time, that gets through ends where one `cd` with the
whole path leads. -/
theorem cd_composes (shell : Shell) :
    (∀ path rest, IsWord path → IsWord rest → isAbsolute rest = false → shell.CanGoTo path →
      ((shell.goTo path).CanGoTo rest ↔ shell.CanGoTo (path ++ "/" ++ rest)) ∧
      ((shell.goTo path).CanGoTo rest →
        (shell.goTo path).goTo rest = shell.goTo (path ++ "/" ++ rest))) ∧
    ∀ path finish, IsWord path → Walk shell (components path) finish →
      shell.CanGoTo path ∧ shell.goTo path = finish := by
  constructor
  · exact fun path rest hPath hRest hStart hFirst => hFirst.append hPath hRest hStart
  · exact fun path finish hPath walk => walk.canGoTo hPath

/-- Up past home and down again, behind each other and at once, and from the root to a directory with detours. -/
theorem cd_composes_detours :
    (fresh "user" ["home", "user"]).CanGoTo "documents/../.." ∧
    ((fresh "user" ["home", "user"]).goTo "documents/../..").CanGoTo "user//./documents/" ∧
    ((fresh "user" ["home", "user"]).goTo "documents/../..").goTo "user//./documents/" =
      (fresh "user" ["home", "user"]).goTo "documents/../../user//./documents/" ∧
    ((fresh "user" ["home", "user"]).goTo "documents/../../user//./documents/").cursor =
      ([("home" : Text), ("user" : Text), ("documents" : Text)]) ∧
    components "/home//user/../../etc" =
      [("/" : Text), ("home" : Text), ("user" : Text), (".." : Text), (".." : Text), ("etc" : Text)] ∧
    ∃ finish, Walk (fresh "user" ["home", "user"]) (components "/home//user/../../etc") finish ∧
      (fresh "user" ["home", "user"]).goTo "/home//user/../../etc" = finish ∧
      finish.cursor = [("etc" : Text)] := by
  obtain ⟨hCompose, hWalk⟩ := cd_composes (fresh "user" ["home", "user"])
  have hFirst : (fresh "user" ["home", "user"]).CanGoTo "documents/../.." := by decide +kernel
  have hThen : ((fresh "user" ["home", "user"]).goTo "documents/../..").CanGoTo "user//./documents/" := by
    decide +kernel
  have hBoth := (hCompose "documents/../.." "user//./documents/" (by decide +kernel) (by decide +kernel)
    (by decide +kernel) hFirst).2 hThen
  have hComponents : components "/home//user/../../etc" =
      [("/" : Text), ("home" : Text), ("user" : Text), (".." : Text), (".." : Text), ("etc" : Text)] := by
    decide +kernel
  obtain ⟨finish, walk⟩ :
      ∃ finish, Walk (fresh "user" ["home", "user"]) (components "/home//user/../../etc") finish := by
    rw [hComponents]
    exact ⟨_, .step (by decide +kernel) (.step (by decide +kernel) (.step (by decide +kernel)
      (.step (by decide +kernel) (.step (by decide +kernel) (.step (by decide +kernel) (.stay _))))))⟩
  have hEnd := (hWalk _ finish (by decide +kernel) walk).2
  refine ⟨hFirst, hThen, hBoth, by decide +kernel, hComponents, finish, walk, hEnd, ?_⟩
  rw [← hEnd]
  decide +kernel

end PhantomHost.Shell
