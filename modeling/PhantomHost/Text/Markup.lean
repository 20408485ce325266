import PhantomHost.Text.Basic
/-!
Escaping for HTML: the five characters that mean something in markup are written as entities, so
an escaped text holds no tag and no attribute quote.
-/
namespace PhantomHost.Text

/-- One character of an HTML text. -/
def escapeChar (c : Symbol) : Text :=
  if c = '&' then "&amp;"
  else if c = '<' then "&lt;"
  else if c = '>' then "&gt;"
  else if c = '"' then "&quot;"
  else if c = '\'' then "&#x27;"
  else [c]

/-- A text as HTML: every character of markup is written as an entity. -/
def escapeMarkup (text : Text) : Text :=
  text.flatMap escapeChar

@[simp] theorem escapeMarkup_nil : escapeMarkup [] = [] := rfl

/-- Escaping works character by character, so it may be done piece by piece. -/
@[simp] theorem escapeMarkup_append (s t : Text) :
    escapeMarkup (s ++ t) = escapeMarkup s ++ escapeMarkup t := by
  simp [escapeMarkup]

end PhantomHost.Text
