import PhantomHost.Page.Basic
import PhantomHost.Transcript.Search
/-!
The terminal of the page: the transcript with the matches of a search, and the input for commands.
-/
namespace PhantomHost.Page

open PhantomHost.Text

/-- The search after one could have gone back, on, or both. -/
def moved (back forth : Bool) (search : Search) : Search :=
  let search := if back then search.previous else search
  if forth then search.next else search

/-- Shows the search of a transcript. A stray value at the end of the transcript can neither be searched
nor shown. The search stands where it stood on the pass before, counted round the
matches that there are now. -/
def searchBar (session : Session) : Act Search := do
  let query ← textOr "lower" (← keyInput "Search transcript" "search_query" (.text ""))
  if let some kind := (← get).memory.stray then
    fail (.shape ⟨kind, if query = "" then "replace" else "lower"⟩)
  let search := Search.start session.lines query
  if search.hits = [] then return search
  place (.weighted [1, 1, 6])
  let search := search.goTo (← get).memory.searchStep
  let back ← button "Previous"
  let forth ← button "Next"
  let search := moved back forth search
  remember fun memory => { memory with searchStep := search.current }
  text .caption search.status
  return search

/-- The HTML of a line of the transcript; a line of output without content is not shown. -/
def lineHtml (connection : Connection) (search : Search) (index : Nat) (line : Line) : Text :=
  let body :=
    renderLine line.content search.query ((search.currentIn? index).map fun n => (n : Int))
  if line.kind = .input then
    "<div><span class=\"sim-prompt\">" ++
      escapeMarkup (connection.prompt line.cwd) ++
      "</span> <span class=\"sim-input\">" ++ body ++ "</span></div>"
  else if line.content = "" then ""
  else "<div class=\"sim-" ++ line.kind.word ++ "\">" ++ body ++ "</div>"

/-- The HTML of a transcript with the matches of a search. -/
def terminalHtml (connection : Connection) (search : Search) : Text :=
  "<div class=\"sim-terminal\">" ++
    (search.lines.zipIdx.flatMap fun (line, index) => lineHtml connection search index line) ++
    "</div>"

/-- Runs a command. A value that is no text gets into the transcript, but cannot be run. -/
def runCommand (command : Json) (session : Session) : Act Unit := do
  match command with
  | .text line =>
    let session ← onWorld fun world => (session.run line world).2
    keep session
  | other =>
    let session ← onWorld (session.write .input other.shown)
    keep session
    remember fun memory => { memory with stray := some other.kindName }
    fail (.shape ⟨other.kindName, "split"⟩)

/-- Shows the input for commands, and runs one. -/
def commandInput (session : Session) : Act Unit := do
  place (.block .form "command")
  let command ← textInput (session.connection.prompt session.cwd) (.text "")
  let isSent ← submit "Run"
  if isSent && command.isTruthy then
    runCommand command session
    again

def terminal (session : Session) : Act Unit := do
  let search ← searchBar session
  text .markdown (terminalHtml session.connection search)
  commandInput session

end PhantomHost.Page
