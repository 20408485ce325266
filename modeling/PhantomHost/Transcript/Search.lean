import PhantomHost.Transcript.Match
/-!
A search with a current match that moves round the list of matches.
-/
namespace PhantomHost

/-- A search in a transcript. The matches are those at the time of the last query. -/
structure Search where
  lines : List Line
  query : Text
  hits : List (Nat × Nat)
  current : Nat

namespace Search

/-- A search for a query, standing at the first match. -/
def start (lines : List Line) (query : Text) : Search :=
  ⟨lines, query, findMatches lines query, 0⟩

/-- The search for another query in the same transcript. -/
def setQuery (query : Text) (search : Search) : Search :=
  start search.lines query

/-- The search after lines have been added to its transcript. The matches stay. -/
def append (lines : List Line) (search : Search) : Search :=
  { search with lines := search.lines ++ lines }

def match? (search : Search) : Option (Nat × Nat) :=
  search.hits[search.current]?

/-- The search at the match after the current one. -/
def next (search : Search) : Search :=
  if search.hits = [] then search
  else { search with current := (search.current + 1) % search.hits.length }

/-- The search at the match before the current one. -/
def previous (search : Search) : Search :=
  if search.hits = [] then search
  else
    { search with current := (search.current + search.hits.length - 1) % search.hits.length }

/-- The search at the match of a number, counted round the list of matches. -/
def goTo (number : Nat) (search : Search) : Search :=
  if search.hits = [] then search else { search with current := number % search.hits.length }

/-- The number of the current match among the matches of a line, if it is one of them. -/
def currentIn? (index : Nat) (search : Search) : Option Nat :=
  match search.match? with
  | some (line, offset) =>
    if line = index then
      ((search.hits.filter fun hit => hit.1 = index).map Prod.snd).idxOf? offset
    else none
  | none => none

/-- Where the search stands, such as `2/5`. -/
def status (search : Search) : Text :=
  if search.hits = [] then "0/0"
  else toString (search.current + 1) ++ "/" ++ toString search.hits.length

end Search

end PhantomHost
