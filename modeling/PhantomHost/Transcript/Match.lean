import PhantomHost.Text.Lowercase
import PhantomHost.Text.Pieces
import PhantomHost.Text.Markup
import PhantomHost.Transcript.Line
/-!
Occurrences of a query in a transcript, without regard to letter case.

Offsets are counted in the lower-case form of a line. Highlighting cuts the line itself at these
offsets, so where lowering changes the number of characters a mark can lie beside its word. Whatever
is marked, the parts make up the line; this is `flatMap_highlight`.
-/
namespace PhantomHost

open PhantomHost.Text

/-- Where a query occurs in a text, in lower case; an empty query occurs nowhere. -/
def offsets (query content : Text) : List Nat :=
  if query = "" then [] else occurrences (lower query) (lower content)

/-- The occurrences in the lines from a number on, each as line number and offset. -/
def matchesFrom (query : Text) : Nat → List Line → List (Nat × Nat)
  | _, [] => []
  | index, line :: rest =>
    (offsets query line.content).map (index, ·) ++ matchesFrom query (index + 1) rest

/-- All occurrences of a query in a transcript, in its order. -/
def findMatches (lines : List Line) (query : Text) : List (Nat × Nat) :=
  matchesFrom query 0 lines

/-- A part of a text, and whether it is marked. -/
abbrev Segment := Text × Bool

/-- The parts of the rest of a text that begins at offset `pos`, when the stretches of `width`
characters from the given offsets on are marked. A stretch past the end is cut there. -/
def segmentsFrom (width : Nat) : Nat → Text → List Nat → List Segment
  | _, text, [] => if text = [] then [] else [(text, false)]
  | pos, text, start :: rest =>
    let behind := text.drop (start - pos)
    (if pos < start then [(text.take (start - pos), false)] else []) ++
      (behind.take width, true) ::
        segmentsFrom width (start + width) (behind.drop width) rest

/-- The parts of a text, with the occurrences of a query marked. -/
def highlight (content query : Text) : List Segment :=
  segmentsFrom (lower query).length 0 content (offsets query content)

/-- The parts make up the text, wherever the stretches lie. -/
theorem flatMap_segmentsFrom (width pos : Nat) (text : Text) (starts : List Nat) :
    (segmentsFrom width pos text starts).flatMap Prod.fst = text := by
  induction starts generalizing pos text with
  | nil => by_cases h : text = [] <;> simp [segmentsFrom, h]
  | cons start rest ih =>
    by_cases h : pos < start
    · simp only [segmentsFrom, h, if_true, List.flatMap_append, List.flatMap_cons, List.flatMap_nil,
        List.append_nil, ih, List.take_append_drop]
    · have hZero : start - pos = 0 := by omega
      simp [segmentsFrom, h, hZero, ih]

/-- Highlighting loses nothing of a text and adds nothing to it. -/
theorem flatMap_highlight (content query : Text) :
    (highlight content query).flatMap Prod.fst = content :=
  flatMap_segmentsFrom _ _ _ _

def hitCount (segments : List Segment) : Nat :=
  (segments.filter (·.2)).length

/-- The opening tag of a mark. -/
def openTag (current : Bool) : Text :=
  if current then "<span class=\"sim-hit-current\">" else "<span class=\"sim-hit\">"

/-- The closing tag of a mark. -/
def closeTag : Text :=
  "</span>"

/-- The parts as HTML, with the marks numbered from `index` on. -/
def renderFrom (current : Option Int) : Nat → List Segment → Text
  | _, [] => []
  | index, (part, false) :: rest => escapeMarkup part ++ renderFrom current index rest
  | index, (part, true) :: rest =>
    openTag (current == some (index : Int)) ++ escapeMarkup part ++ closeTag ++
      renderFrom current (index + 1) rest

/-- A line as HTML with the occurrences of a query marked, one of them as the current one. -/
def renderLine (content query : Text) (current : Option Int) : Text :=
  renderFrom current 0 (highlight content query)

end PhantomHost
