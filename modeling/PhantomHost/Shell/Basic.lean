import PhantomHost.Node.Seed
import PhantomHost.Path
import PhantomHost.Text.Blank
/-!
The shell of the simulated host: a tree, a cursor in it, and seven commands.

A line is split into words. The first word names the command; a command looks at its first argument
at most, except `echo`. Every failure is an answer like those of a real shell.
-/
namespace PhantomHost

open PhantomHost.Text

/-- The commands that the shell knows. -/
inductive Builtin where
  | ls | cd | pwd | cat | echo | whoami | help
  deriving Repr, DecidableEq

namespace Builtin

/-- The word that names a command. -/
def word : Builtin → Text
  | ls => "ls"
  | cd => "cd"
  | pwd => "pwd"
  | cat => "cat"
  | echo => "echo"
  | whoami => "whoami"
  | help => "help"

def all : List Builtin := [ls, cd, pwd, cat, echo, whoami, help]

/-- The command of a word. Letter case counts. -/
def ofWord? (word : Text) : Option Builtin :=
  all.find? fun builtin => builtin.word == word

@[simp] theorem ofWord?_word (builtin : Builtin) : ofWord? builtin.word = some builtin := by
  cases builtin <;> decide

/-- A command is found by its own word only. -/
theorem word_of_ofWord? {word : Text} {builtin : Builtin} (h : ofWord? word = some builtin) :
    builtin.word = word := by
  simpa using List.find?_some h

end Builtin

/-- A host: who is logged in, where `cd` without argument leads, where the shell stands, and the
tree. -/
structure Shell where
  user : Text
  home : List Text
  cursor : List Text
  root : Node
  deriving DecidableEq

namespace Shell

/-- A host with the seed tree, standing at home. -/
def fresh (user : Text) (home : List Text) : Shell :=
  ⟨user, home, home, Node.seed⟩

/-- The path of the place where the shell stands. -/
def cwd (shell : Shell) : Text :=
  Path.render shell.cursor

/-- The place that a path means, seen from the cursor. -/
def placeOf (shell : Shell) (path : Text) : List Text :=
  Path.normalize path shell.cursor

/-- The node that a path means, seen from the cursor. -/
def nodeAt? (shell : Shell) (path : Text) : Option Node :=
  shell.root.find? (shell.placeOf path)

def helpText : Text :=
  "Available commands: ls, cd, pwd, cat, echo, whoami, help.\nThis is a simulated environment."

/-- The names of a directory's children in one line, or the name of a file. -/
def listing : Node → Text
  | .file attributes _ => attributes.name
  | .dir _ children => joinWith "  " (children.map Node.name)

/-- `ls`: lists the place of the first argument, or the cursor. -/
def ls (shell : Shell) (args : List Text) : Text :=
  match args with
  | [] =>
    match shell.root.find? shell.cursor with
    | some node => listing node
    | none => "ls: cannot access '': No such file or directory"
  | path :: _ =>
    match shell.nodeAt? path with
    | some node => listing node
    | none => "ls: cannot access '" ++ path ++ "': No such file or directory"

/-- `cd`: moves the cursor to the directory of the first argument, or home. -/
def cd (shell : Shell) (args : List Text) : Shell × Text :=
  match args with
  | [] => ({ shell with cursor := shell.home }, "")
  | path :: _ =>
    match shell.nodeAt? path with
    | some (.dir _ _) => ({ shell with cursor := shell.placeOf path }, "")
    | _ => (shell, "cd: " ++ path ++ ": No such file or directory")

/-- `cat`: the content of the file of the first argument. -/
def cat (shell : Shell) (args : List Text) : Text :=
  match args with
  | [] => "cat: missing operand"
  | path :: _ =>
    match shell.nodeAt? path with
    | some (.file _ content) => content.getD ""
    | some (.dir _ _) => "cat: " ++ path ++ ": Is a directory"
    | none => "cat: " ++ path ++ ": No such file or directory"

def perform (shell : Shell) (builtin : Builtin) (args : List Text) : Shell × Text :=
  match builtin with
  | .ls => (shell, shell.ls args)
  | .cd => shell.cd args
  | .pwd => (shell, shell.cwd)
  | .cat => (shell, shell.cat args)
  | .echo => (shell, joinWith " " args)
  | .whoami => (shell, shell.user)
  | .help => (shell, helpText)

def run (shell : Shell) (line : Text) : Shell × Text :=
  match words line with
  | [] => (shell, "")
  | word :: args =>
    match Builtin.ofWord? word with
    | some builtin => shell.perform builtin args
    | none => (shell, word ++ ": command not found")

/-- The children of the directory at an absolute path, as a file browser shows them. Dots are names
like all others here. -/
def filesAt (shell : Shell) (path : Text) : List Node :=
  match shell.root.find? (Path.names path) with
  | some node => node.children
  | none => []

/-- Whether a path leads to a directory. -/
def isDirectory (shell : Shell) (path : Text) : Bool :=
  match shell.nodeAt? path with
  | some node => node.isDir
  | none => false

/-- The host with a node put into the directory of a path; nothing if no directory is there. -/
def add? (shell : Shell) (path : Text) (node : Node) : Option Shell :=
  (Node.insertAt node (shell.placeOf path) shell.root).map fun root => { shell with root := root }

end Shell

end PhantomHost
