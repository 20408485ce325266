import Mathlib.Data.List.Nodup
import PhantomHost.Proofs.Site.Basic
/-!
The counters and the log of a run say the same: every line with a word, every upload with a result, every session and
every question with an answer is counted once, and nothing else is.

`Accounts` is the invariant that carries this: one act adds to both sides what `Notes` says.
-/
namespace PhantomHost

open PhantomHost.Text
open Assistant (Question)

/-! ### What a log tells -/

/-- The lines that hosts were given. -/
def linesOf (log : List Site.Event) : List Text :=
  log.filterMap fun
    | .entered line => some line
    | .uploaded _ | .opened | .asked _ => none

/-- The results of uploads. -/
def uploadsOf (log : List Site.Event) : List Bool :=
  log.filterMap fun
    | .uploaded stored => some stored
    | .entered _ | .opened | .asked _ => none

/-- The questions to the assistant. -/
def questionsOf (log : List Site.Event) : List Question :=
  log.filterMap fun
    | .asked question => some question
    | .entered _ | .uploaded _ | .opened => none

/-- How many sessions were opened. -/
def openings (log : List Site.Event) : Nat :=
  List.length <| log.filter fun
    | .opened => true
    | .entered _ | .uploaded _ | .asked _ => false

namespace Assistant.Question

/-- The question has an answer. -/
def returned (question : Question) : Bool :=
  question.answer.isOk

/-- The response time is counted. -/
def timed (question : Question) : Bool :=
  question.returned && question.reachable && !question.seconds.isNaN

end Assistant.Question

/-- What the counters of commands say of the lines that were entered. -/
structure CountsLines (lines : List Text) (commandCount : Nat) (commands : Tally (Option Builtin)) : Prop where
  commandCount : commandCount = commands.total
  total : commands.total = lines.countP fun line => (Shell.commandOf line).isSome
  count : ∀ command, commands.count command = lines.countP fun line => Shell.commandOf line = some command
  labels : commands.labels.Nodup

theorem CountsLines.enter {lines : List Text} {metrics : Metrics}
    (h : CountsLines lines metrics.commandCount metrics.commands) (line : Text) :
    CountsLines (line :: lines) (metrics.enter line).commandCount (metrics.enter line).commands := by
  rw [Metrics.enter]
  cases hCommand : Shell.commandOf line with
  | none =>
      exact {
        commandCount := h.commandCount
        total := by simp [h.total, hCommand]
        count := by simp [h.count, hCommand]
        labels := h.labels }
  | some command =>
      exact {
        commandCount := by simp [Metrics.countCommand, h.commandCount]
        total := by simp [Metrics.countCommand, h.total, hCommand]
        count := by
          intro other
          simp only [Metrics.countCommand, Tally.count_add, h.count, List.countP_cons, hCommand, Option.some.injEq,
            decide_eq_true_eq, @eq_comm _ other command]
        labels := Tally.nodup_labels_add command h.labels }

/-- What the counters of questions say of the questions that were asked. -/
structure CountsQuestions (questions : List Question) (chats : Tally (Text × ChatResult)) (latency : Histogram) :
    Prop where
  total : chats.total = questions.countP Question.returned
  complete : latency.Complete
  timed : latency.count = questions.countP Question.timed

theorem CountsQuestions.ask {questions : List Question} {question : Question} {before after : Metrics}
    (h : CountsQuestions questions before.chats before.latency) (hCounts : question.Counts before after) :
    CountsQuestions (question :: questions) after.chats after.latency := by
  cases hCounts with
  | fault hAnswer hAfter =>
      subst hAfter
      exact {
        total := by simp [h.total, Question.returned, hAnswer]
        complete := h.complete
        timed := by simp [h.timed, Question.timed, Question.returned, hAnswer] }
  | unreachable model result hAnswer hReachable hAfter =>
      subst hAfter
      exact {
        total := by simp [Metrics.countChat, h.total, Question.returned, hAnswer]
        complete := h.complete
        timed := by simp [Metrics.countChat, h.timed, Question.timed, hReachable] }
  | timed model result hAnswer hReachable hAfter =>
      subst hAfter
      exact {
        total := by simp [Metrics.countChat, h.total, Question.returned, hAnswer]
        complete := h.complete.observe question.seconds
        timed := by
          have hObserve := Histogram.count_observe h.complete question.seconds
          cases hNumber : question.seconds.isNaN <;>
            simp_all [Metrics.countChat, h.timed, Question.timed, Question.returned] }

/-- What the counters say of a log, with the number of sessions that are connected. -/
structure Accounts (log : List Site.Event) (metrics : Metrics) (connected : Nat) : Prop where
  lines : CountsLines (linesOf log) metrics.commandCount metrics.commands
  uploads : ∀ stored, metrics.uploads.count stored = (uploadsOf log).count stored
  questions : CountsQuestions (questionsOf log) metrics.chats metrics.latency
  sessions : metrics.sessions = openings log
  activeSessions : metrics.activeSessions = connected
  called : ∀ question ∈ questionsOf log, question.called = (question.reachable && question.instructed)

namespace Accounts

theorem zero : Accounts [] Metrics.zero 0 where
  lines := ⟨rfl, rfl, fun _ => rfl, List.nodup_nil⟩
  uploads _ := rfl
  questions := ⟨rfl, Histogram.complete_empty, rfl⟩
  sessions := rfl
  activeSessions := rfl
  called := by simp [questionsOf]

/-- The step lemma: what an act leaves in the log is counted. -/
theorem note {log events : List Site.Event} {before after : Metrics} {connected later : Nat}
    (h : Accounts log before connected) (hNotes : Notes before connected events after later) :
    Accounts (events ++ log) after later := by
  cases hNotes with
  | nothing => exact h
  | entered line =>
      have hLines := h.lines.enter line
      obtain ⟨commandCount, commands, hEnter⟩ := before.exists_enter line
      rw [hEnter] at hLines ⊢
      exact ⟨hLines, h.uploads, h.questions, h.sessions, h.activeSessions, h.called⟩
  | uploaded stored =>
      have hUploads : ∀ other, (before.uploads.add stored).count other = (stored :: uploadsOf log).count other := by
        intro other
        rw [Tally.count_add, h.uploads, List.count_cons]
        simp only [beq_iff_eq, @eq_comm _ other stored]
      exact ⟨h.lines, hUploads, h.questions, h.sessions, h.activeSessions, h.called⟩
  | opened =>
      have hActive : before.activeSessions + 1 = ((connected + 1 : Nat) : Int) := by simp [h.activeSessions]
      exact ⟨h.lines, h.uploads, h.questions, congrArg (· + 1) h.sessions, hActive, h.called⟩
  | closed hConnected =>
      have hActive : before.activeSessions - 1 = later := by simp [h.activeSessions, hConnected]
      exact ⟨h.lines, h.uploads, h.questions, h.sessions, hActive, h.called⟩
  | asked hCounts hCalled =>
      have hQuestions := h.questions.ask hCounts
      obtain ⟨chats, latency, rfl⟩ := hCounts.exists_eq
      exact ⟨h.lines, h.uploads, hQuestions, h.sessions, h.activeSessions, List.forall_mem_cons.2 ⟨hCalled, h.called⟩⟩

end Accounts

namespace Site

/-- The run lemma: the counters say of a run what its log says. -/
theorem accounts_foldl {log : List Event} {site : Site} (hLink : site.world.link.Sound)
    (h : Accounts log site.world.counts site.connected) (acts : List Act) :
    let (log, after) := acts.foldl advance (log, site)
    Accounts log after.world.counts after.connected := by
  induction acts generalizing log site with
  | nil => exact h
  | cons act rest ih =>
      obtain ⟨hNotes, hAfter⟩ := notes_step hLink act
      exact ih hAfter (h.note hNotes)

/-- A site in a world in which nothing has happened. -/
def fresh (settings : Settings) (source : Log.Source) (clock : Float) (today : Moment) (server : ModelServer)
    (disk : Disk) : Site :=
  ofWorld (World.fresh settings source clock today server disk)

variable (settings : Settings) (source : Log.Source) (clock : Float) (today : Moment) (server : ModelServer)
  (disk : Disk)

theorem accounts_run (acts : List Act) :
    let (log, site) := (fresh settings source clock today server disk).run acts
    Accounts log site.world.counts site.connected :=
  accounts_foldl Link.sound_unknown .zero acts

end Site

/-! ### Commands by their words -/

/-- If a question comes to a request, its instructions can be read and the clock says how long it took. -/
def Assistant.Question.Ordinary (question : Question) : Prop :=
  question.reachable = true → question.instructed = true ∧ question.seconds.isNaN = false

instance (question : Question) : Decidable question.Ordinary :=
  inferInstanceAs (Decidable (_ → _))

namespace Site

/-- Lines to a host and to a session, two uploads, and four questions: the third comes too soon after a failure to be
asked, and the last one is answered with a number, which is no answer. -/
def errand : List Act :=
  [.setUp (Shell.fresh "user" ["home", "user"]), .execute 0 "ls -l", .execute 0 "lsx", .execute 0 " ",
    .connect (.text "10.0.0.5") (.text "user") (.int 22) (.text "password") (some 0.0),
    .inSession 0 (.run " ls /etc"), .inSession 0 (.runSuggested "unknown"),
    .inSession 0 (.upload "a.txt" 3 none), .inSession 0 (.navigate "/nowhere"), .inSession 0 (.upload "b.txt" 3 none),
    .greet "Hello!", .inChat 0 (.send "a"), .inChat 0 (.send " "), .inChat 0 (.send "b"), .ask [] "c",
    .meanwhile (World.pass 60.0) (fun _ => rfl) (fun _ => rfl), .ask [] "d"]

end Site

end PhantomHost
