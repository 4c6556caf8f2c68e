import LiveTail.Launch
import LiveTail.Proofs.Keepsake
/-! From one launch to the next: saved preferences stay what they are while other files are used,
and the next launch opens the page and follows the selector that were saved. -/
namespace LiveTail

/-- Something done with files later: an action, a line at the end of a file, another save, or a
change of the working directory. -/
inductive FileUse where
  | act (a : FileAction)
  | append (path : String) (bytes : List UInt8)
  | save (p : Preferences) (path : String)
  | enter (cwd : Path.Place)

/-- The places where it can change a file. A save has a temporary file as well. -/
def FileUse.places (cwd : Path.Place) : FileUse → List Path.Place
  | .act a => a.places cwd
  | .append path _ => [Path.locate cwd path]
  | .save _ path => [Path.locate cwd path, Path.locate cwd (Preferences.temporaryPath path)]
  | .enter _ => []

namespace FileSystem

variable {fs fs' g : FileSystem} {path text : String} {u : FileUse} {touched : List Path.Place}

/-- How a use can go. It may go wrong, and a save may stop at any point. -/
inductive Used (fs : FileSystem) : FileUse → FileSystem → Prop
  | act {a : FileAction} {r : Except FileFault Unit} {fs' : FileSystem} (h : fs.Act a r fs') :
      Used fs (.act a) fs'
  | append {path : String} {bytes : List UInt8} {fs' : FileSystem}
      (h : fs.append path bytes = .ok fs') : Used fs (.append path bytes) fs'
  | refused (path : String) (bytes : List UInt8) : Used fs (.append path bytes) fs
  | save {p : Preferences} {path : String} {log : FileLog}
      {rest : Plan (Except Preferences.SaveFault Unit)} {fs' : FileSystem}
      (h : (p.savePlan path).Goes fs log rest fs') : Used fs (.save p path) fs'
  | enter (cwd : Path.Place) : Used fs (.enter cwd) { fs with cwd := cwd }

/-- A line at the end of a file is a write of the whole file. -/
theorem effect_of_append {bytes : List UInt8} (h : fs.append path bytes = .ok fs') :
    ∃ all, fs.Effect (.write path all) fs' := by
  unfold FileSystem.append at h
  split at h
  case h_2 p old hr =>
    have hwrite : fs.write path (old ++ bytes) = .ok fs' := by simpa [FileSystem.write, hr] using h
    exact ⟨_, effect_of_write hwrite⟩
  case h_3 p hr =>
    have hwrite : fs.write path bytes = .ok fs' := by simpa [FileSystem.write, hr] using h
    exact ⟨_, effect_of_write hwrite⟩
  all_goals cases h

theorem Used.kept (h : fs.Used u fs') {q : Path.Place} (hq : fs.node? q = some .directory) :
    fs'.node? q = some .directory := by
  cases h with
  | act h => exact h.kept hq
  | append h =>
    obtain ⟨all, heffect⟩ := effect_of_append h
    exact heffect.kept hq
  | refused => exact hq
  | save h => exact h.kept hq
  | enter => exact hq

theorem Used.file?_of_not_mem (h : fs.Used u fs') {q : Path.Place} (hq : q ∉ u.places fs.cwd) :
    fs'.file? q = fs.file? q := by
  cases h with
  | act h => exact h.file?_of_not_mem hq
  | append h =>
    obtain ⟨all, heffect⟩ := effect_of_append h
    exact heffect.file?_of_not_mem hq
  | refused => rfl
  | save h =>
    simp only [FileUse.places, List.mem_cons, List.not_mem_nil, or_false, not_or] at hq
    exact Preferences.file?_elsewhere h hq.1 hq.2
  | enter => rfl

theorem Used.cwd_of_append {bytes : List UInt8} (h : fs.Used (.append path bytes) fs') :
    fs'.cwd = fs.cwd := by
  cases h with
  | append h =>
    obtain ⟨all, heffect⟩ := effect_of_append h
    exact heffect.cwd
  | refused => rfl

/-- One use after the other, and the places that they touch. -/
inductive Later : FileSystem → List Path.Place → FileSystem → Prop
  | nil (fs : FileSystem) : Later fs [] fs
  | cons {fs fs' g : FileSystem} {u : FileUse} {touched : List Path.Place} (head : fs.Used u fs')
      (tail : Later fs' touched g) : Later fs (u.places fs.cwd ++ touched) g

theorem Later.kept (h : fs.Later touched g) {q : Path.Place}
    (hq : fs.node? q = some .directory) : g.node? q = some .directory := by
  induction h with
  | nil => exact hq
  | cons head tail ih => exact ih (head.kept hq)

theorem Later.file?_of_not_mem (h : fs.Later touched g) {q : Path.Place} (hq : q ∉ touched) :
    g.file? q = fs.file? q := by
  induction h with
  | nil => rfl
  | cons head tail ih =>
    rw [List.mem_append, not_or] at hq
    rw [ih hq.2, head.file?_of_not_mem hq.1]

/-- An absolute path starts at the root, any other in the working directory. -/
theorem origin_of_absolute_or (h : Path.isAbsolute path = true ∨ g.cwd = fs.cwd) :
    Path.origin g.cwd path = Path.origin fs.cwd path := by
  cases h with
  | inl habsolute => simp only [Path.origin, habsolute, if_true]
  | inr hcwd => rw [hcwd]

theorem readText_of_route (h : fs.readText path = .ok text)
    (horigin : Path.isAbsolute path = true ∨ g.cwd = fs.cwd)
    (hkept : ∀ q ∈ fs.route path, fs.node? q = some .directory → g.node? q = some .directory)
    (hfile : g.file? (Path.locate fs.cwd path) = fs.file? (Path.locate fs.cwd path)) :
    g.readText path = .ok text := by
  rw [← h]
  unfold readText at h ⊢
  cases hread : fs.read path with
  | error e => simp [hread] at h
  | ok bytes => rw [read_of_route hread (origin_of_absolute_or horigin) hkept hfile]

/-- A text stays what it is while its place is not touched. -/
theorem readText_of_later (h : fs.readText path = .ok text) (hlater : fs.Later touched g)
    (hplace : Path.locate fs.cwd path ∉ touched)
    (horigin : Path.isAbsolute path = true ∨ g.cwd = fs.cwd) : g.readText path = .ok text :=
  readText_of_route h horigin (fun _ _ hq => hlater.kept hq) (hlater.file?_of_not_mem hplace)

end FileSystem

namespace Launch

/-- Opening the journal at most adds nothing to the end of its file. -/
theorem openJournal_used (filter : JournalFilter) (file : Option String) (files : FileSystem) :
    (openJournal filter file files).2 = files ∨ ∃ path, file = some path ∧
      files.Used (.append path []) (openJournal filter file files).2 := by
  cases file with
  | none => exact .inl rfl
  | some path =>
    unfold openJournal
    cases hopen : files.append path [] with
    | error e =>
      left
      simp only [hopen]
    | ok files' =>
      right
      simp only [hopen]
      exact ⟨path, rfl, .append hopen⟩

/-- The session on a page is there if the page has a socket, and follows the query it is given. -/
theorem startSession_lastQuery (now : Instant) (a : Arguments) (c : Config) (pageUrl : String)
    (query : Option String) :
    (startSession now a c pageUrl query).toOption.map (fun r => r.1.lastQuery) =
      (socketEndpoint pageUrl).toOption.map (fun _ => query) := by
  unfold startSession
  cases socketEndpoint pageUrl with
  | error f => rfl
  | ok url => cases query <;> rfl

/-- The window opens on the page that is resolved, if that has a socket, with the query that is
resolved. -/
theorem start_window (s : Surroundings) (a : Arguments) {config : Config}
    {warnings : List ConfigWarning} {journal : Journal} {files : FileSystem}
    {saved : Option Preferences}
    (hconfig : Config.load s.files (Directories.resolve s.home s.configHome s.dataHome).config =
      (config, warnings))
    (hjournal : openJournal (chooseFilter s.filter a.debug config.logLevel) config.logFile s.files =
      (journal, files))
    (hsaved : Preferences.load files (Preferences.filePath
      (Directories.resolve s.home s.configHome s.dataHome).data) = saved) :
    (start s a).window.map (fun w => (w.screen.pageUrl, w.screen.session.lastQuery)) =
      (socketEndpoint (resolvePageUrl a.pageUrl config.pageUrl
        (saved.bind Preferences.pageUrl))).toOption.map
        (fun _ => (resolvePageUrl a.pageUrl config.pageUrl (saved.bind Preferences.pageUrl),
          a.query.or (saved.bind Preferences.lastQuery))) := by
  have hsession := startSession_lastQuery s.now a config
    (resolvePageUrl a.pageUrl config.pageUrl (saved.bind Preferences.pageUrl))
    (a.query.or (saved.bind Preferences.lastQuery))
  rw [Preferences.load] at hsaved
  unfold start
  dsimp only
  rw [hconfig]
  dsimp only
  rw [hjournal]
  dsimp only
  rw [hsaved]
  generalize resolvePageUrl a.pageUrl config.pageUrl (saved.bind Preferences.pageUrl) = pageUrl at *
  generalize a.query.or (saved.bind Preferences.lastQuery) = query at *
  cases hs : startSession s.now a config pageUrl query with
  | error f =>
    cases he : socketEndpoint pageUrl with
    | error f => rfl
    | ok url => simp [hs, he, Except.toOption] at hsession
  | ok r =>
    cases he : socketEndpoint pageUrl with
    | error f => simp [hs, he, Except.toOption] at hsession
    | ok url =>
      simp only [hs, he, Except.toOption, Option.map_some, Option.some.injEq] at hsession
      simp [openWindow, Screen.new, Except.toOption, hsession]

end Launch

/-- Preferences that are saved without fault are loaded as they are, whatever their texts, by the
same path. They still are as long as the file and the directories on the way to it are there, and so
whatever is done later that does not touch its place. Another version is never loaded, and neither
is anything else that is no record of the current version. A launch that is given no page and no
query, and keeps its journal elsewhere, opens the page that was saved, if that has a socket, and
follows the selector that was saved with it. -/
theorem preferences_come_back (path : String) :
    (∀ pageUrl lastQuery fs fs',
      (Preferences.new pageUrl lastQuery).save path fs = (.ok (), fs') →
        Preferences.load fs' path = some (.new pageUrl lastQuery) ∧
        (∀ g : FileSystem, (Path.isAbsolute path = true ∨ g.cwd = fs'.cwd) →
          (∀ q ∈ fs'.route path, fs'.node? q = some .directory → g.node? q = some .directory) →
          g.file? (Path.locate fs'.cwd path) = fs'.file? (Path.locate fs'.cwd path) →
          Preferences.load g path = some (.new pageUrl lastQuery)) ∧
        ∀ touched g, fs'.Later touched g → Path.locate fs'.cwd path ∉ touched →
          (Path.isAbsolute path = true ∨ g.cwd = fs'.cwd) →
          Preferences.load g path = some (.new pageUrl lastQuery)) ∧
    (∀ (p : Preferences) fs fs', p.version < Word.count 32 → p.version ≠ 1 →
      p.save path fs = (.ok (), fs') → Preferences.load fs' path = none) ∧
    (∀ fs bytes, FileSystem.read fs path = .ok bytes →
      (¬ ∃ text p, String.fromUTF8? ⟨bytes.toArray⟩ = some text ∧ Preferences.ofText text = .ok p ∧
        p.version = 1) → Preferences.load fs path = none) ∧
    ∀ (w : Window) (s : Surroundings) (a : Arguments) fs fs' touched,
      let dirs := Directories.resolve s.home s.configHome s.dataHome
      let config := (Config.load s.files dirs.config).1
      path = Preferences.filePath dirs.data →
      w.preferences.save path fs = (.ok (), fs') →
      fs'.Later touched s.files → Path.locate fs'.cwd path ∉ touched →
      (Path.isAbsolute path = true ∨ s.files.cwd = fs'.cwd) →
      a.pageUrl = none → a.query = none → config.pageUrl = none →
      (∀ file, config.logFile = some file →
        Path.locate s.files.cwd file ≠ Path.locate s.files.cwd path) →
      (Launch.start s a).window.map (fun v => (v.screen.pageUrl, v.screen.session.lastQuery)) =
        (socketEndpoint w.screen.pageUrl).toOption.map
          (fun _ => (w.screen.pageUrl, w.screen.session.lastQuery)) := by
  have hload {p : Preferences} {g : FileSystem} (hp : p.version = Preferences.currentVersion)
      (h : g.readText path = .ok p.render) : Preferences.load g path = some p := by
    rw [Preferences.load_of_readText (by rw [hp]; decide) h, if_pos hp]
  refine ⟨?_, ?_, ?_, ?_⟩
  · intro pageUrl lastQuery fs fs' hsave
    have htext := Preferences.readText_of_save hsave
    refine ⟨hload rfl htext, ?_, ?_⟩
    · intro g horigin hkept hfile
      exact hload rfl (FileSystem.readText_of_route htext horigin hkept hfile)
    · intro touched g hlater hplace horigin
      exact hload rfl (FileSystem.readText_of_later htext hlater hplace horigin)
  · intro p fs fs' hp hversion hsave
    have hother : p.version ≠ Preferences.currentVersion := hversion
    rw [Preferences.load_of_readText hp (Preferences.readText_of_save hsave), if_neg hother]
  · intro fs bytes hread hrecord
    rw [Option.eq_none_iff_forall_ne_some]
    intro p hp
    obtain ⟨text, htext, hp, hversion⟩ := Preferences.load_eq_some_iff.mp hp
    refine hrecord ⟨text, p, ?_, hp, hversion⟩
    rw [FileSystem.readText, hread] at htext
    cases hbytes : String.fromUTF8? ⟨bytes.toArray⟩ with
    | none => simp [hbytes] at htext
    | some t =>
      simp only [hbytes, Except.ok.injEq] at htext
      rw [htext]
  · intro w s a fs fs' touched dirs config hpath hsave hlater hplace horigin hpage hquery hconfig
      hlog
    subst hpath
    have htext := FileSystem.readText_of_later (Preferences.readText_of_save hsave) hlater hplace
      horigin
    let opened := Launch.openJournal (Launch.chooseFilter s.filter a.debug config.logLevel)
      config.logFile s.files
    have hkept : opened.2.readText (Preferences.filePath dirs.data) = .ok w.preferences.render := by
      rcases Launch.openJournal_used (Launch.chooseFilter s.filter a.debug config.logLevel)
        config.logFile s.files with hsame | ⟨file, hfile, hused⟩
      · rw [hsame]
        exact htext
      · -- The journal opens one more file, which is not that of the preferences.
        have hne := hlog file hfile
        exact FileSystem.readText_of_later htext (.cons hused (.nil _))
          (by simpa [FileUse.places] using hne.symm) (.inr hused.cwd_of_append)
    have hwindow :=
      Launch.start_window s a (Prod.eta _).symm (Prod.eta opened).symm (hload rfl hkept)
    rw [hpage, hquery, hconfig] at hwindow
    exact hwindow

/-- Nothing is set in the surroundings, so the preferences stand in the working directory. -/
theorem preferences_come_back_next_time :
    let w : Window :=
      ⟨Screen.new ((Session.new (.new .disabled) .epoch 10).queue "level = \"error\"")
        "ws://127.0.0.1:9000/socket" "http://127.0.0.1:9000/", none, false⟩
    let saved := w.preferences.save "./prefs.json" .empty
    saved.1 = .ok () ∧ Preferences.load saved.2 "./prefs.json" = some w.preferences ∧
      (Launch.start { words := [], files := saved.2 } {}).window.map
        (fun v => (v.screen.pageUrl, v.screen.session.lastQuery)) =
      (socketEndpoint "http://127.0.0.1:9000/").toOption.map
        (fun _ => ("http://127.0.0.1:9000/", some "level = \"error\"")) := by
  intro w saved
  have hok : saved.1 = .ok () := by
    have hisOk : saved.1.isOk = true := by decide +kernel
    cases hr : saved.1 with
    | ok u => rfl
    | error e => simp [hr, Except.isOk, Except.toBool] at hisOk
  have hsave : saved = (.ok (), saved.2) := Prod.ext hok rfl
  obtain ⟨hload, -, -, hlaunch⟩ := preferences_come_back "./prefs.json"
  let s : Surroundings := { words := [], files := saved.2 }
  have hpath : "./prefs.json" =
      Preferences.filePath (Directories.resolve s.home s.configHome s.dataHome).data := by
    decide +kernel
  have hpage : (Config.load s.files
      (Directories.resolve s.home s.configHome s.dataHome).config).1.pageUrl = none := by
    decide +kernel
  have hlog : (Config.load s.files
      (Directories.resolve s.home s.configHome s.dataHome).config).1.logFile = none := by
    decide +kernel
  refine ⟨hok, (hload _ _ _ _ hsave).1, ?_⟩
  refine hlaunch w s {} .empty saved.2 [] hpath hsave (.nil _) List.not_mem_nil (.inr rfl) rfl rfl
    hpage ?_
  intro file hfile
  rw [hlog] at hfile
  cases hfile

end LiveTail
