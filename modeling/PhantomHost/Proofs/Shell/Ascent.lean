import Mathlib.Logic.Function.Iterate
import PhantomHost.Proofs.Shell.Walk
/-!
Going up, one directory after the other.

`cd ..` drops the last name of the cursor if a directory is there, and is turned down if not. Above a directory there
are directories only, so the first step decides: either every step goes up, as far as the root, or none does.
-/
namespace PhantomHost.Shell

open PhantomHost.Text PhantomHost.Path

/-- The shell after `cd ..` has been run a number of times. -/
def climb (steps : Nat) (shell : Shell) : Shell :=
  (fun lower => lower.goTo "..")^[steps] shell

theorem climb_succ (steps : Nat) (shell : Shell) :
    shell.climb (steps + 1) = (shell.climb steps).goTo ".." :=
  Function.iterate_succ_apply' _ steps shell

/-- A step up leads to the place above the cursor if a directory is there, and nowhere if not. -/
theorem goTo_up (shell : Shell) :
    shell.goTo ".." =
      if shell.HasDirectory shell.cursor.dropLast then { shell with cursor := shell.cursor.dropLast }
      else shell := by
  have hUp : IsWord ".." := by decide
  have hPlace : shell.placeOf ".." = shell.cursor.dropLast := normalize_of_not_mem (by decide) shell.cursor
  rw [goTo, run_cd hUp, hPlace]
  split <;> rfl

/-- Where a directory is above the cursor, every step takes one name away. By induction on the steps: the places on the
way are all above that directory, so directories are there. -/
theorem climb_eq_take {shell : Shell} (h : shell.HasDirectory shell.cursor.dropLast) (steps : Nat) :
    shell.climb steps = { shell with cursor := shell.cursor.take (shell.cursor.length - steps) } := by
  induction steps with
  | zero => rw [Nat.sub_zero, List.take_length]; rfl
  | succ steps ih =>
      have hAbove : shell.cursor.take (shell.cursor.length - (steps + 1)) <+: shell.cursor.dropLast := by
        rw [List.dropLast_eq_take]
        exact List.take_prefix_take_left (by omega)
      have hThere : shell.HasDirectory (shell.cursor.take (shell.cursor.length - (steps + 1))) :=
        Node.isDir_of_isPrefix hAbove h
      rw [climb_succ, ih, goTo_up, dropLast_take_sub]
      exact if_pos hThere

/-- Where no directory is above the cursor, no step leads anywhere. -/
theorem climb_eq_self {shell : Shell} (h : ¬shell.HasDirectory shell.cursor.dropLast) (steps : Nat) :
    shell.climb steps = shell :=
  Function.iterate_fixed ((goTo_up shell).trans (if_neg h)) steps

/-- The root of a host stays a directory. -/
theorem HasDirectory.step_root {shell : Shell} (h : shell.HasDirectory []) (act : Act) :
    (shell.step act).HasDirectory [] := by
  cases act with
  | line text =>
      have hRoot : (shell.step (.line text)).root = shell.root := shell.root_run text
      rw [HasDirectory, hRoot]
      exact h
  | add path node => exact h.add fun hOver => by simpa using hOver.2

theorem HasDirectory.after_root {shell : Shell} (h : shell.HasDirectory []) (acts : List Act) :
    (shell.after acts).HasDirectory [] := by
  induction acts generalizing shell with
  | nil => exact h
  | cons act rest ih => exact ih (h.step_root act)

theorem Grounded.above {shell : Shell} (h : shell.Grounded) : shell.HasDirectory shell.cursor.dropLast :=
  Node.isDir_of_isPrefix (List.dropLast_prefix _) h.cursor

/-- Going up reaches the root wherever a directory is above the cursor. In every state of a host, whatever its home:
if a directory is at the place above the cursor, a number of `cd ..` takes as many names off the cursor, so as many as
it has or more lead to the root, and there the shell stays. If not, the shell stands two names down or deeper, and
every `cd ..` leaves it where it is. From a home that is a directory on, there is always one, unless a stored node has
taken the place of the directory where the shell stands, of its home, or of one above these. -/
theorem climb_reaches_root {user : Text} {home : List Text} {acts : List Act} {shell : Shell}
    (hShell : (fresh user home).after acts = shell) :
    (shell.HasDirectory shell.cursor.dropLast → ∀ steps,
      shell.climb steps = { shell with cursor := shell.cursor.take (shell.cursor.length - steps) } ∧
      (shell.cursor.length ≤ steps → (shell.climb steps).cursor = [] ∧ (shell.climb steps).cwd = "/")) ∧
    (¬shell.HasDirectory shell.cursor.dropLast →
      2 ≤ shell.cursor.length ∧ ∀ steps, shell.climb steps = shell) ∧
    ((fresh user home).HasDirectory home → (fresh user home).Spared acts →
      shell.HasDirectory shell.cursor.dropLast) := by
  subst hShell
  refine ⟨?_, ?_, ?_⟩
  · intro hAbove steps
    have hClimb := climb_eq_take hAbove steps
    refine ⟨hClimb, fun hSteps => ?_⟩
    rw [hClimb, cwd, Nat.sub_eq_zero_of_le hSteps]
    exact ⟨rfl, render_nil⟩
  · intro hNone
    refine ⟨?_, climb_eq_self hNone⟩
    have hFresh : (fresh user home).HasDirectory [] := rfl
    have hRoot := hFresh.after_root acts
    by_contra hShort
    have hTop : ((fresh user home).after acts).cursor.dropLast = [] :=
      List.eq_nil_of_length_eq_zero (by rw [List.length_dropLast]; omega)
    exact hNone (hTop ▸ hRoot)
  · intro hHome hActs
    have hGrounded : (fresh user home).Grounded := ⟨hHome, hHome⟩
    exact (hGrounded.after hActs).above

/-- Down into a directory, a file stored over the one where the shell stands: a directory is still above it, and four
steps lead to the root. -/
theorem climb_reaches_root_ousted :
    ∃ shell, (fresh "user" ["home", "user"]).after
        [.line "cd /home/user/documents", .add ".." (Node.seedFile "documents" "" "" "" "" "")] = shell ∧
      shell.cwd = "/home/user/documents" ∧ ¬shell.HasDirectory shell.cursor ∧
      shell.HasDirectory shell.cursor.dropLast ∧ (shell.climb 4).cwd = "/" := by
  obtain ⟨hClimb, -⟩ := @climb_reaches_root "user" ["home", "user"]
    [.line "cd /home/user/documents", .add ".." (Node.seedFile "documents" "" "" "" "" "")] _ rfl
  refine ⟨_, rfl, by decide +kernel, by decide +kernel, by decide +kernel, ?_⟩
  exact ((hClimb (by decide +kernel) 4).2 (by decide +kernel)).2

/-- A fresh host with a home that has been set up. -/
def hostAt (home : Text) : Shell :=
  fresh (World.withHome home).settings.session.username (World.withHome home).settings.session.homePlace

/-- From a home that is not there, and from a directory after a file has taken the place of one above it, however many
`cd ..` do not lead to the root. -/
theorem climb_stays_below :
    ((hostAt "/nowhere/there").cursor.length = 2 ∧
      ∀ steps, ((hostAt "/nowhere/there").climb steps).cwd = "/nowhere/there") ∧
    ∃ shell, (hostAt "/home/user").after
        [.line "cd /home/user/documents", .add "/" (Node.seedFile "home" "" "" "" "" "")] = shell ∧
      shell.cursor.length = 3 ∧ ∀ steps, (shell.climb steps).cwd = "/home/user/documents" := by
  refine ⟨⟨by decide +kernel, fun steps => ?_⟩, _, rfl, by decide +kernel, fun steps => ?_⟩
  · rw [climb_eq_self (by decide +kernel)]
    decide +kernel
  · rw [climb_eq_self (by decide +kernel)]
    decide +kernel

end PhantomHost.Shell
