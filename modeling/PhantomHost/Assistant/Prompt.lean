import PhantomHost.World.Basic
import PhantomHost.Text.Utf8
import PhantomHost.Text.Blank
/-!
The instructions that the model gets before every conversation: a file, or a text of the program if
there is no file or nothing in it.
-/
namespace PhantomHost.Assistant

open PhantomHost.Text

/-- The instructions when there is no file. -/
def builtInPrompt : Text :=
  "You are an expert Linux System Administrator and DevOps engineer assistant. " ++
  "You are embedded in a web-based SSH client. You can help the user with shell " ++
  "commands, explaining file systems, debugging scripts, and general Linux " ++
  "knowledge. If the user asks you to perform an action or run a command, " ++
  "strictly provide the command within a markdown code block " ++
  "(e.g., ```bash\ncommand\n```) so the user can execute it directly."

/-- The instructions that come with the program. -/
def shippedPrompt : Text :=
  "You are an expert Linux System Administrator and DevOps engineer assistant.\n" ++
  "You are embedded in a web-based SSH client connected to an Ubuntu 22.04 server.\n" ++
  "You can help the user with shell commands, explaining file systems, debugging\n" ++
  "scripts, and general Linux knowledge.\n\n" ++
  "If the user asks you to perform an action or run a command, strictly provide\n" ++
  "the command within a markdown code block, for example:\n\n" ++
  "```bash\nls /home/user/documents\n```\n\n" ++
  "so the user can execute it directly. Put one command per block.\n"

/-- The instructions for the model, or why the file is no text. -/
def loadPrompt (world : World) : Except Utf8.Error Text × World :=
  let path := world.settings.systemPrompt
  match world.disk.read path with
  | .error fault =>
    (.ok builtInPrompt, world.say (.noPrompt path (fault.problem path)))
  | .ok bytes =>
    match Utf8.decode bytes with
    | .error error => (.error error, world)
    | .ok text =>
      let text := Utf8.unifyLineEnds text
      if text.all isBlank then
        (.ok builtInPrompt, world.say (.emptyPrompt path))
      else (.ok text, world)

end PhantomHost.Assistant
