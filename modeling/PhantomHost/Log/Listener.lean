import PhantomHost.Disk
import PhantomHost.Log.Format
import PhantomHost.Text.Utf8
/-!
A listener to the log: it writes every record that is important enough as a line, and adds the line to
a file at once.
-/
namespace PhantomHost.Log

open PhantomHost.Text

/-- Who listens to the log: how a record is written, the least level, and the file that gets the lines
as well. -/
structure Listener where
  format : Format
  threshold : Nat
  file : Option FilePath

namespace Listener

/-- The line of a record, if the listener hears it and it makes one. -/
def line? (listener : Listener) (source : Source) (entry : Record) : Option Text :=
  if listener.threshold ≤ entry.notice.level.number then
    (Log.line? listener.format source entry).map (· ++ "\n")
  else none

/-- The disk after a line has been added to the file of the listener. A line with a lone half has no
bytes and is left out. -/
def store (listener : Listener) (line : Text) (disk : Disk) : Disk :=
  match listener.file with
  | none => disk
  | some path =>
    match Utf8.encode? line with
    | none => disk
    | some bytes => (disk.append path bytes).toOption.getD disk

end Listener

end PhantomHost.Log
