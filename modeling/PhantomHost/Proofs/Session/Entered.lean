import PhantomHost.Session.Basic
import PhantomHost.Proofs.World.Frame
/-!
What a session does with a line: the shell runs it, and the transcript gains it as an input line with an
output line behind it. Nothing else that a session does gives its shell a line or adds an input line.
-/
namespace PhantomHost

/-- What has been entered, as a transcript tells: the contents of its input lines. -/
def entered (lines : List Line) : List Text :=
  (lines.filter fun line => line.kind = .input).map Line.content

@[simp] theorem entered_nil : entered [] = [] := rfl

namespace Session

@[simp] theorem shell_navigate (path : Text) (session : Session) :
    (session.navigate path).shell = session.shell := rfl

@[simp] theorem lines_navigate (path : Text) (session : Session) :
    (session.navigate path).lines = session.lines := rfl

@[simp] theorem shell_disconnect (session : Session) (world : World) :
    (session.disconnect world).1.shell = session.shell := rfl

@[simp] theorem lines_disconnect (session : Session) (world : World) :
    (session.disconnect world).1.lines = [] := rfl

/-- A line that is run goes to the shell as it is. -/
theorem shell_run (line : Text) (session : Session) (world : World) :
    (session.run line world).2.1.shell = (session.shell.run line).1 := by
  have hShell := Shell.execute_eq_run session.shell line
    (session.write .input line world).2
  have hFirst := congrArg Prod.fst hShell
  simp only at hFirst
  rw [← hFirst]
  simp only [run, write]
  split <;> rfl

/-- A run adds two lines to the transcript: what was entered, and the output. -/
theorem lines_run (line : Text) (session : Session) (world : World) :
    ∃ first second output before after, (session.run line world).2.1.lines =
      session.lines ++ [⟨first, .input, line, before⟩, ⟨second, .output, output, after⟩] := by
  simp only [run, write, World.writeLine, World.newLine]
  split
  · exact ⟨_, _, _, _, _, List.append_assoc ..⟩
  · exact ⟨_, _, _, _, _, List.append_assoc ..⟩

/-- What a run adds to the transcript was entered as that line alone. -/
theorem entered_drop_run (line : Text) (session : Session) (world : World) :
    entered ((session.run line world).2.1.lines.drop session.lines.length) = [line] := by
  obtain ⟨first, second, output, before, after, hLines⟩ := lines_run line session world
  rw [hLines, List.drop_left]
  rfl

end Session

@[simp] theorem Shell.messageCount_execute (shell : Shell) (line : Text) (world : World) :
    (shell.execute line world).2.2.messageCount = world.messageCount := by
  unfold execute
  split <;> simp

@[simp] theorem Session.messageCount_run (line : Text) (session : Session) (world : World) :
    (session.run line world).2.2.messageCount = world.messageCount := by
  simp [run, write, World.writeLine, World.newLine]

end PhantomHost
