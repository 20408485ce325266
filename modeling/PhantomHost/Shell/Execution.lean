import PhantomHost.World.Basic
/-!
A shell that is watched: every command line with a word in it is counted and logged, and so is every
node that is stored.
-/
namespace PhantomHost.Shell

open PhantomHost.Text

/-- The name of a command in the counters: nothing for a word that is no command. A line without a
word is no command line. -/
def commandOf (line : Text) : Option (Option Builtin) :=
  match words line with
  | [] => none
  | word :: _ => some (Builtin.ofWord? word)

/-- Runs a line and takes note of it. -/
def execute (shell : Shell) (line : Text) (world : World) : Text × Shell × World :=
  match words line with
  | [] => ("", shell, world)
  | word :: _ =>
    let builtin := Builtin.ofWord? word
    let world := world.count (Metrics.countCommand builtin)
    let (after, output) := shell.run line
    let notice : Notice :=
      match builtin with
      | some _ => .executed (trim line) after.cwd
      | none => .unknownCommand word
    (output, after, world.say notice)

/-- Puts a node into the directory of a path and takes note of it. Tells whether there was such a
directory. -/
def store (shell : Shell) (path : Text) (node : Node) (world : World) : Bool × Shell × World :=
  match shell.add? path node with
  | some after => (true, after, world.say (.stored node.name path))
  | none => (false, shell, world.say (.noDirectory path))

/-- The answer and the shell after a line are those of the shell that nobody watches. -/
theorem execute_eq_run (shell : Shell) (line : Text) (world : World) :
    ((shell.execute line world).2.1, (shell.execute line world).1) = shell.run line := by
  unfold execute run
  cases words line <;> rfl

end PhantomHost.Shell
