import PhantomHost.Node.Basic
/-!
The tree that every host starts with.
-/
namespace PhantomHost.Node

def seedDir (name owner modified : Text) (children : List Node) : Node :=
  dir ⟨name, "drwxr-xr-x", .text owner, "4096", modified⟩ children

def seedFile (name permissions owner size modified content : Text) : Node :=
  file ⟨name, permissions, .text owner, size, modified⟩ (some content)

/-- The tree of a host that nobody has used yet. -/
def seed : Node :=
  seedDir "root" "root" "Oct 25 10:00" [
    seedDir "home" "root" "Oct 25 10:00" [
      seedDir "user" "user" "Oct 25 10:01" [
        seedDir "documents" "user" "Oct 26 14:30" [
          seedFile "project_notes.txt" "-rw-r--r--" "user" "1.2k" "Oct 26 14:32"
            "These are the notes for the secret project.\nStatus: Ongoing\nPriority: High",
          seedFile "todo.md" "-rw-r--r--" "user" "340" "Oct 27 09:15"
            "- [ ] Refactor backend\n- [ ] Fix CSS bugs\n- [x] Deploy to production"],
        seedFile "config.json" "-rw-r--r--" "user" "512" "Oct 25 11:20"
          "\x7b\n  \"theme\": \"dark\",\n  \"notifications\": true,\n  \"version\": \"1.0.4\"\n\x7d"]],
    seedDir "var" "root" "Oct 24 08:00" [
      seedDir "log" "root" "Oct 24 08:00" [
        seedFile "syslog" "-rw-r-----" "syslog" "24M" "Oct 27 15:45"
          "Oct 27 15:45:01 server CRON[1234]: (root) CMD (cd / && run-parts --report /etc/cron.hourly)"]],
    seedDir "etc" "root" "Oct 20 12:00" [
      seedFile "passwd" "-rw-r--r--" "root" "1024" "Oct 20 12:00"
        "root:x:0:0:root:/root:/bin/bash\nuser:x:1000:1000:user,,,:/home/user:/bin/bash"]]

end PhantomHost.Node
