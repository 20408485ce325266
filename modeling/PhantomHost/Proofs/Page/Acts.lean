import PhantomHost.Page.Basic
/-!
What the parts of a pass do to it, one equation for each: the elements that they show, what they remember, and
the answer that they give.
-/
namespace PhantomHost.Page

open PhantomHost.Text

variable {α β : Type}

/-- The text that is answered to an element, which is empty when nothing is answered; none if something other
than a text is answered. -/
def Visit.text? (name : Text) (visit : Visit) : Option Text :=
  match visit.answers.lookup name with
  | some (.value (.text content)) => some content
  | some _ => none
  | none => some ""

/-- A button or an element with the same label is pressed. -/
def Visit.pressed (visit : Visit) (label : Text) : Bool :=
  visit.clicks.contains label

/-- A pass after more elements have been shown. -/
def Run.showing (elements : List Element) (run : Run) : Run :=
  { run with elements := run.elements ++ elements }

@[simp] theorem Run.visit_showing (elements : List Element) (run : Run) :
    (run.showing elements).visit = run.visit := rfl

@[simp] theorem Run.showing_showing (first later : List Element) (run : Run) :
    (run.showing first).showing later = run.showing (first ++ later) := by
  simp [Run.showing]

theorem run_bind {act : Act α} {next : α → Act β} {run after : Run} {result : α}
    (h : act.run.run run = (.ok result, after)) : (act >>= next).run.run run = (next result).run.run after := by
  rw [ExceptT.run_bind, StateT.run_bind, h]
  rfl

theorem run_bind_error {act : Act α} {next : α → Act β} {run after : Run} {stop : Stop}
    (h : act.run.run run = (.error stop, after)) : (act >>= next).run.run run = (.error stop, after) := by
  rw [ExceptT.run_bind, StateT.run_bind, h]
  rfl

theorem run_pure (result : α) (run : Run) : (pure result : Act α).run.run run = (.ok result, run) := rfl

theorem run_get (run : Run) : (get : Act Run).run.run run = (.ok run, run) := rfl

theorem run_place (element : Element) (run : Run) :
    (place element).run.run run = (.ok (), run.showing [element]) := rfl

theorem run_text (kind : TextKind) (content : Text) (run : Run) :
    (text kind content).run.run run = (.ok (), run.showing [.text kind content]) := rfl

theorem run_remember (change : Memory → Memory) (run : Run) :
    (remember change).run.run run = (.ok (), { run with memory := change run.memory }) := rfl

theorem run_button (label : Text) (run : Run) :
    (button label).run.run run =
      (.ok (run.visit.pressed label), run.showing [.button label none (run.visit.pressed label)]) := rfl

theorem run_keyButton (label key : Text) (run : Run) :
    (keyButton label key).run.run run =
      (.ok (run.visit.pressed key), run.showing [.button label (some key) (run.visit.pressed key)]) := rfl

theorem run_submit (label : Text) (run : Run) :
    (submit label).run.run run =
      (.ok (run.visit.pressed label), run.showing [.submit label (run.visit.pressed label)]) := rfl

/-- An input shows the answer that it got and goes on with it. -/
theorem run_textInput (label : Text) (default : Json) (run : Run) :
    ∃ value, (textInput label default).run.run run = (.ok value, run.showing [.textInput label none value]) :=
  ⟨_, rfl⟩

theorem run_answer {name content : Text} {run : Run} (h : run.visit.text? name = some content) :
    (answer name (.text "")).run.run run = (.ok (.text content), run) := by
  rw [Visit.text?] at h
  simp only [answer, run_bind (run_get run), run_pure]
  split at h
  · rename_i hAnswer
    rw [hAnswer, Option.some.inj h]
  · cases h
  · rename_i hAnswer
    rw [hAnswer, ← Option.some.inj h]

theorem run_textInput_of_text {label content : Text} {run : Run} (h : run.visit.text? label = some content) :
    (textInput label (.text "")).run.run run =
      (.ok (.text content), run.showing [.textInput label none (.text content)]) :=
  run_bind (run_answer h)

theorem run_keyInput_of_text {label key content : Text} {run : Run} (h : run.visit.text? key = some content) :
    (keyInput label key (.text "")).run.run run =
      (.ok (.text content), run.showing [.textInput label (some key) (.text content)]) :=
  run_bind (run_answer h)

/-- A list whose first option is empty goes on with the option that is chosen. -/
theorem run_select_of_text {label content : Text} {run : Run} (h : run.visit.text? label = some content)
    (options : List Text) :
    (select label ("" :: options)).run.run run =
      (.ok (.text content), run.showing [.select label ("" :: options) (.text content)]) :=
  run_bind (run_answer h)

theorem run_textOr_text (wanted content : Text) (run : Run) :
    (textOr wanted (.text content)).run.run run = (.ok content, run) := rfl

end PhantomHost.Page
