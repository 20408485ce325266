import PhantomHost.Shell.Basic
import PhantomHost.Decimal.Double
/-!
Counters for monitoring: commands, sessions, uploads and questions to the assistant.

A counter with labels lists a label from its first use on, in the order of first use.
-/
namespace PhantomHost

abbrev Tally (α : Type) := List (α × Nat)

namespace Tally

variable {α : Type} [DecidableEq α]

def add (label : α) : Tally α → Tally α
  | [] => [(label, 1)]
  | (known, n) :: rest =>
    if known = label then (known, n + 1) :: rest else (known, n) :: add label rest

def count (label : α) : Tally α → Nat
  | [] => 0
  | (known, n) :: rest => if known = label then n else count label rest

def total : Tally α → Nat
  | [] => 0
  | (_, n) :: rest => n + total rest

/-- Counting a label adds one to it and nothing to the others. -/
theorem count_add (label other : α) (tally : Tally α) :
    count other (add label tally) = count other tally + if other = label then 1 else 0 := by
  induction tally with
  | nil => by_cases h : label = other <;> simp [add, count, h, eq_comm]
  | cons entry rest ih =>
    obtain ⟨known, n⟩ := entry
    by_cases hKnown : known = label
    · subst hKnown
      by_cases hOther : known = other
      · simp [add, count, hOther]
      · simp [add, count, hOther, Ne.symm hOther]
    · by_cases hOther : known = other
      · subst hOther; simp [add, count, hKnown]
      · simp [add, count, hKnown, hOther, ih]

/-- Every count is counted in the sum. -/
@[simp] theorem total_add (label : α) (tally : Tally α) :
    total (add label tally) = total tally + 1 := by
  induction tally with
  | nil => rfl
  | cons entry rest ih =>
    obtain ⟨known, n⟩ := entry
    by_cases hKnown : known = label
    · simp [add, total, hKnown]; omega
    · simp [add, total, hKnown, ih]; omega

end Tally

/-- The result of a question to the assistant. -/
inductive ChatResult where
  | success | empty | error
  deriving Repr, DecidableEq

def ChatResult.word : ChatResult → Text
  | .success => "success"
  | .empty => "empty"
  | .error => "error"

/-- The upper bounds of the classes of response times, in seconds. -/
def latencyBounds : List Float := [0.5, 1.0, 2.0, 5.0, 10.0, 20.0, 30.0, 60.0, Decimal.infinity]

/-- Response times: how many fell into every class, and their sum. -/
structure Histogram where
  classes : List Nat
  sum : Float

namespace Histogram

def empty : Histogram :=
  ⟨latencyBounds.map fun _ => 0, 0.0⟩

/-- One more in the first class whose bound is not below a value. -/
def addTo (value : Float) : List Float → List Nat → List Nat
  | bound :: bounds, n :: rest =>
    if value ≤ bound then (n + 1) :: rest else n :: addTo value bounds rest
  | _, counts => counts

/-- The histogram after one more response time. -/
def observe (value : Float) (histogram : Histogram) : Histogram :=
  ⟨addTo value latencyBounds histogram.classes, histogram.sum + value⟩

/-- How many response times have been observed. -/
def count (histogram : Histogram) : Nat :=
  histogram.classes.foldr (fun n total => n + total) 0

end Histogram

/-- All counters. `started` is when the first of them was used. -/
structure Metrics where
  started : Option Float
  commandCount : Nat
  commands : Tally (Option Builtin)
  sessions : Nat
  activeSessions : Int
  uploads : Tally Bool
  chats : Tally (Text × ChatResult)
  latency : Histogram

namespace Metrics

/-- Counters that nobody has used yet. -/
def zero : Metrics :=
  ⟨none, 0, [], 0, 0, [], [], Histogram.empty⟩

/-- Counts a command; nothing stands for a word that is no command. -/
def countCommand (command : Option Builtin) (metrics : Metrics) : Metrics :=
  { metrics with
    commandCount := metrics.commandCount + 1
    commands := metrics.commands.add command }

/-- Counts a session that has been opened. -/
def openSession (metrics : Metrics) : Metrics :=
  { metrics with
    sessions := metrics.sessions + 1
    activeSessions := metrics.activeSessions + 1 }

/-- Counts a session that has been closed. -/
def closeSession (metrics : Metrics) : Metrics :=
  { metrics with activeSessions := metrics.activeSessions - 1 }

/-- Counts an upload that was stored or rejected. -/
def countUpload (stored : Bool) (metrics : Metrics) : Metrics :=
  { metrics with uploads := metrics.uploads.add stored }

/-- Counts a question to a model, with the response time if the model was asked. -/
def countChat (model : Text) (result : ChatResult) (seconds : Option Float)
    (metrics : Metrics) : Metrics :=
  { metrics with
    chats := metrics.chats.add (model, result)
    latency := match seconds with
      | some seconds => metrics.latency.observe seconds
      | none => metrics.latency }

end Metrics

end PhantomHost
