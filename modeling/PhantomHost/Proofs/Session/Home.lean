import PhantomHost.Proofs.Session.Coherence
/-!
The home that has been set up: how the settings read it, and how the shell reads the same path.

The settings take the names between the slashes for what they are. The shell trusts them: it starts there, a bare `cd`
leads there, and so the browser starts there too. Read as a path from the root, a dot among these names stays where one
is and two go up. So a home with dots is one place to the settings and another one to the shell.
-/
namespace PhantomHost

open PhantomHost.Text PhantomHost.Path

namespace Shell

/-- Whatever is done with a shell, its home stays where it is. -/
theorem home_after (shell : Shell) (acts : List Act) : (shell.after acts).home = shell.home := by
  induction acts generalizing shell with
  | nil => rfl
  | cons act rest ih => exact (ih (shell.step act)).trans (shell.cursor_step act).1

theorem run_bare_cd (shell : Shell) {line : Text} (h : words line = [Builtin.cd.word]) :
    shell.run line = ({ shell with cursor := shell.home }, ("" : Text)) :=
  shell.run_of_words h

end Shell

namespace Session

/-- A session starts with its browser at the home of its shell, by the names of the home that has been set up. -/
theorem home_of_open? {connection : Connection} {delay : Option Float} {world opened : World} {session : Session}
    (h : connection.open? delay world = (some session, opened)) :
    session.home = render (names world.settings.session.home) := by
  obtain ⟨waited, -, rfl, -⟩ := exists_start_of_open? h
  rfl

/-- The home that has been set up is read name by name, and that is what the shell makes of it exactly if no name is a
dot or two. A fresh shell stands at the names of the home, and whatever has been done, a bare `cd` leads there. As a
path, what `pwd` prints there means what the home means to the shell. In every session, a browser that is at the home
it has started with lists the directory of these names, and a file is stored where the home leads as a path. -/
theorem home_read_name_by_name {world : World} {home : Text} (hHome : world.settings.session.home = home) :
    world.freshShell.cursor = names home ∧
    (∀ acts line, words line = [Builtin.cd.word] →
      ((world.freshShell.after acts).run line).1.cursor = names home) ∧
    (names home = normalize ("/" ++ home) [] ↔ Dotless home) ∧
    (∀ shell : Shell, shell.cursor = names home →
      shell.placeOf (shell.run "pwd").2 = normalize ("/" ++ home) []) ∧
    ∀ (connection : Connection) delay session opened acts now,
      connection.open? delay world = (some session, opened) →
      (after (session, opened) acts).1 = now → now.browser = session.home →
      now.listing.place = names home ∧ now.shell.placeOf now.browser = normalize ("/" ++ home) [] := by
  subst hHome
  refine ⟨rfl, ?_, names_eq_normalize_iff _, ?_, ?_⟩
  · intro acts line hLine
    rw [Shell.run_bare_cd _ hLine]
    exact world.freshShell.home_after acts
  · intro shell hCursor
    rw [Shell.run_pwd, hCursor]
    exact normalize_render_names _ shell.cursor
  · intro connection delay session opened acts now hOpen hNow hBrowser
    obtain ⟨hCoherent, -⟩ := @Coherent.after (session, opened) (coherent_of_open? hOpen).1 acts
    rw [hNow] at hCoherent
    rw [home_of_open? hOpen] at hBrowser
    rw [hCoherent.listing, hBrowser]
    exact ⟨names_render fun _ => mem_names, normalize_render_names _ now.shell.cursor⟩

/-- Without a slash in front and with too many behind, the home is one place to everyone: from elsewhere a bare `cd`
leads there, what `pwd` prints leads back, and a file is stored where the browser looks. -/
theorem home_read_name_by_name_slashes :
    (World.withHome "var//log/").settings.session.home = "var//log/" ∧ Dotless "var//log/" ∧
    (World.withHome "var//log/").freshShell.cursor = normalize ("/" ++ "var//log/") [] ∧
    (((World.withHome "var//log/").freshShell.after [.line "cd /etc"]).run " cd ").1.cursor =
      normalize ("/" ++ "var//log/") [] ∧
    (World.withHome "var//log/").freshShell.placeOf ((World.withHome "var//log/").freshShell.run "pwd").2 =
      (World.withHome "var//log/").freshShell.cursor ∧
    ∃ session opened now, visitor.open? (some 0) (World.withHome "var//log/") = (some session, opened) ∧
      (after (session, opened) [.run "pwd", .navigate "/etc", .run "cd"]).1 = now ∧ now.browser = session.home ∧
      now.listing.place = now.shell.placeOf now.browser := by
  have hHome : (World.withHome "var//log/").settings.session.home = "var//log/" := by decide +kernel
  obtain ⟨hStart, hBack, hSame, hPwd, hBrowser⟩ := home_read_name_by_name hHome
  have hDots : Dotless "var//log/" := by decide +kernel
  have hPlace := hSame.2 hDots
  obtain ⟨session, hSession, hThere⟩ : ∃ session,
      (visitor.open? (some 0) (World.withHome "var//log/")).1 = some session ∧
      ((after (session, (visitor.open? (some 0) (World.withHome "var//log/")).2)
        [.run "pwd", .navigate "/etc", .run "cd"]).1.browser == session.home) = true :=
    Option.map_eq_some_iff.1 (by decide +kernel)
  have hOpen : visitor.open? (some 0) (World.withHome "var//log/") =
      (some session, (visitor.open? (some 0) (World.withHome "var//log/")).2) :=
    Prod.ext hSession rfl
  have hAtHome := eq_of_beq hThere
  obtain ⟨hListed, hStored⟩ := hBrowser _ _ _ _ _ _ hOpen rfl hAtHome
  refine ⟨hHome, hDots, hStart.trans hPlace, ?_, (hPwd _ hStart).trans (hStart.trans hPlace).symm,
    session, _, _, hOpen, rfl, hAtHome, (hListed.trans hPlace).trans hStored.symm⟩
  exact (hBack [.line "cd /etc"] " cd " (by decide +kernel)).trans hPlace

/-- With two dots in it, the home is one place to the settings and another one to the shell: what `pwd` prints does not
lead back, and a file is stored out of sight of the browser. -/
theorem home_with_dots_elsewhere :
    (World.withHome "/home/../etc").freshShell.cursor = (["home", "..", "etc"] : List Text) ∧
    ((World.withHome "/home/../etc").freshShell.run "cd").1.cursor = (["home", "..", "etc"] : List Text) ∧
    normalize ("/" ++ "/home/../etc") [] = (["etc"] : List Text) ∧
    ((World.withHome "/home/../etc").freshShell.run "pwd").2 = "/home/../etc" ∧
    ((World.withHome "/home/../etc").freshShell.run "cd /home/../etc").1.cursor = (["etc"] : List Text) ∧
    ∃ session opened, visitor.open? (some 0) (World.withHome "/home/../etc") = (some session, opened) ∧
      session.browser = session.home ∧
      (step (session, opened) (.upload "a.txt" 3 (some "abc"))).1.files = [] ∧
      ((step (session, opened) (.upload "a.txt" 3 (some "abc"))).1.shell.root.find? ["etc", "a.txt"]).isSome =
        true := by
  refine ⟨by decide +kernel, by decide +kernel, by decide +kernel, by decide +kernel, by decide +kernel, ?_⟩
  obtain ⟨session, hSession, hSeen⟩ : ∃ session,
      (visitor.open? (some 0) (World.withHome "/home/../etc")).1 = some session ∧
      (session.browser == session.home,
        (step (session, (visitor.open? (some 0) (World.withHome "/home/../etc")).2)
          (.upload "a.txt" 3 (some "abc"))).1.files,
        ((step (session, (visitor.open? (some 0) (World.withHome "/home/../etc")).2)
          (.upload "a.txt" 3 (some "abc"))).1.shell.root.find? ["etc", "a.txt"]).isSome) = (true, [], true) :=
    Option.map_eq_some_iff.1 (by decide +kernel)
  obtain ⟨hAtHome, hRest⟩ := Prod.mk.inj hSeen
  obtain ⟨hFiles, hStored⟩ := Prod.mk.inj hRest
  exact ⟨session, _, Prod.ext hSession rfl, eq_of_beq hAtHome, hFiles, hStored⟩

end Session

end PhantomHost
