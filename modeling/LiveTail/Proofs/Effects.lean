import LiveTail.Proofs.Nodes
/-! What a plan can have done to the files when it stops. Each action is performed or refused, and a
write may be cut short; a stop can come after any of them. -/
namespace LiveTail

/-- The places where an action can change a file. -/
def FileAction.places (cwd : Path.Place) : FileAction → List Path.Place
  | .makeDirectory _ | .checkDirectory _ => []
  | .write path _ | .remove path => [Path.locate cwd path]
  | .rename source target => [Path.locate cwd source, Path.locate cwd target]

/-- Only looks for directories, or makes them. -/
def FileAction.IsMaking : FileAction → Prop
  | .makeDirectory _ | .checkDirectory _ => True
  | .write .. | .rename .. | .remove _ => False

theorem FileAction.IsMaking.places {a : FileAction} (h : a.IsMaking) (cwd : Path.Place) :
    a.places cwd = [] := by
  cases a with
  | makeDirectory | checkDirectory => rfl
  | write | rename | remove => cases h

namespace FileSystem

/-- What an action that is performed does. -/
inductive Effect (fs : FileSystem) : FileAction → FileSystem → Prop
  | makeDirectory {path : String} (reaches : fs.Reaches path)
      (free : fs.node? (Path.locate fs.cwd path) = none) :
      Effect fs (.makeDirectory path) (fs.set (Path.locate fs.cwd path) .directory)
  | checkDirectory {path : String} : Effect fs (.checkDirectory path) fs
  | write {path : String} {bytes : List UInt8} (reaches : fs.Reaches path)
      (place : fs.node? (Path.locate fs.cwd path) ≠ some .directory) :
      Effect fs (.write path bytes) (fs.set (Path.locate fs.cwd path) (.file bytes))
  | rename {source target : String} {bytes : List UInt8} (reaches : fs.Reaches source)
      (there : fs.file? (Path.locate fs.cwd source) = some bytes)
      (reachesTarget : fs.Reaches target)
      (place : fs.node? (Path.locate fs.cwd target) ≠ some .directory)
      (slash : Path.endsInSlash target = false) :
      Effect fs (.rename source target)
        ((fs.erase (Path.locate fs.cwd source)).set (Path.locate fs.cwd target) (.file bytes))
  | remove {path : String} {bytes : List UInt8} (reaches : fs.Reaches path)
      (there : fs.file? (Path.locate fs.cwd path) = some bytes) :
      Effect fs (.remove path) (fs.erase (Path.locate fs.cwd path))

variable {fs fs' : FileSystem} {a : FileAction}

theorem effect_of_makeDirectory {path : String} (h : fs.makeDirectory path = .ok fs') :
    fs.Effect (.makeDirectory path) fs' := by
  unfold FileSystem.makeDirectory at h
  split at h
  case h_2 p hr =>
    obtain ⟨hreach, heq⟩ := reaches_of_resolve hr
    obtain ⟨rfl, hn⟩ := Prod.mk.inj heq
    cases h
    exact .makeDirectory hreach hn.symm
  all_goals cases h

theorem effect_of_write {path : String} {bytes : List UInt8} (h : fs.write path bytes = .ok fs') :
    fs.Effect (.write path bytes) fs' := by
  unfold FileSystem.write at h
  split at h
  case h_2 p b hr =>
    obtain ⟨hreach, heq⟩ := reaches_of_resolve hr
    obtain ⟨rfl, hn⟩ := Prod.mk.inj heq
    cases h
    exact .write hreach (by simp [← hn])
  case h_3 p hr =>
    obtain ⟨hreach, heq⟩ := reaches_of_resolve hr
    obtain ⟨rfl, hn⟩ := Prod.mk.inj heq
    split at h
    · cases h
    · cases h
      exact .write hreach (by simp [← hn])
  all_goals cases h

theorem effect_of_rename {source target : String} (h : fs.rename source target = .ok fs') :
    fs.Effect (.rename source target) fs' := by
  unfold FileSystem.rename at h
  split at h
  case h_1 p bytes q n hs ht =>
    obtain ⟨hreach, heq⟩ := reaches_of_resolve hs
    obtain ⟨rfl, hn⟩ := Prod.mk.inj heq
    obtain ⟨hreach', heq'⟩ := reaches_of_resolve ht
    obtain ⟨rfl, hn'⟩ := Prod.mk.inj heq'
    split at h
    · cases h
    · split at h
      · cases h
      case isFalse hslash =>
        split at h
        · cases h
        case h_2 hplace =>
          cases h
          refine .rename hreach (file?_eq_some_iff.mpr hn.symm) hreach' ?_ (by simpa using hslash)
          rwa [← hn']
  all_goals cases h

theorem effect_of_remove {path : String} (h : fs.remove path = .ok fs') :
    fs.Effect (.remove path) fs' := by
  unfold FileSystem.remove at h
  split at h
  case h_1 p b hr =>
    obtain ⟨hreach, heq⟩ := reaches_of_resolve hr
    obtain ⟨rfl, hn⟩ := Prod.mk.inj heq
    cases h
    exact .remove hreach (file?_eq_some_iff.mpr hn.symm)
  all_goals cases h

theorem effect_of_perform (h : fs.perform a = .ok fs') : fs.Effect a fs' := by
  cases a with
  | makeDirectory path => exact effect_of_makeDirectory h
  | checkDirectory path =>
    simp only [perform] at h
    split at h
    · cases h
      exact .checkDirectory
    · cases h
  | write path bytes => exact effect_of_write h
  | rename source target => exact effect_of_rename h
  | remove path => exact effect_of_remove h

theorem not_directory_of_file? {p : Path.Place} {bytes : List UInt8}
    (h : fs.file? p = some bytes) : fs.node? p ≠ some .directory := by
  rw [file?_eq_some_iff.mp h]
  simp

theorem ne_nil_of_file? {p : Path.Place} {bytes : List UInt8} (h : fs.file? p = some bytes) :
    p ≠ [] :=
  ne_nil_of_node? (not_directory_of_file? h)

namespace Effect

theorem cwd (h : fs.Effect a fs') : fs'.cwd = fs.cwd := by
  cases h <;> rfl

/-- At a place that an action does not name, all stays as it is, but for a new directory. -/
theorem node?_of_not_mem (h : fs.Effect a fs') {q : Path.Place} (hq : q ∉ a.places fs.cwd) :
    fs'.node? q = fs.node? q ∨
      a.IsMaking ∧ fs.node? q = none ∧ fs'.node? q = some .directory := by
  cases h with
  | @makeDirectory path reaches free =>
    have hne : fs.node? (Path.locate fs.cwd path) ≠ some .directory := by simp [free]
    rw [node?_set (ne_nil_of_node? hne)]
    by_cases hp : q = Path.locate fs.cwd path
    · exact .inr ⟨trivial, by rw [hp, free], by rw [if_pos hp]⟩
    · exact .inl (by rw [if_neg hp])
  | checkDirectory => exact .inl rfl
  | write reaches place =>
    simp only [FileAction.places, List.mem_singleton] at hq
    exact .inl (by rw [node?_set (ne_nil_of_node? place), if_neg hq])
  | rename reaches there reachesTarget place slash =>
    simp only [FileAction.places, List.mem_cons, List.not_mem_nil, or_false, not_or] at hq
    refine .inl ?_
    rw [node?_set (ne_nil_of_node? place), if_neg hq.2, node?_erase (ne_nil_of_file? there),
      if_neg hq.1]
  | remove reaches there =>
    simp only [FileAction.places, List.mem_singleton] at hq
    exact .inl (by rw [node?_erase (ne_nil_of_file? there), if_neg hq])

theorem file?_of_not_mem (h : fs.Effect a fs') {q : Path.Place} (hq : q ∉ a.places fs.cwd) :
    fs'.file? q = fs.file? q := by
  rcases h.node?_of_not_mem hq with hsame | ⟨-, hold, hnew⟩
  · exact file?_congr hsame
  · simp only [file?, hold, hnew]

/-- The places that an action names are not those of directories. -/
theorem not_directory (h : fs.Effect a fs') {q : Path.Place} (hq : q ∈ a.places fs.cwd) :
    fs.node? q ≠ some .directory ∧ fs'.node? q ≠ some .directory := by
  cases h with
  | makeDirectory => cases hq
  | checkDirectory => cases hq
  | write reaches place =>
    rw [List.mem_singleton.mp hq, node?_set (ne_nil_of_node? place)]
    exact ⟨place, by simp⟩
  | @rename source target bytes reaches there reachesTarget place slash =>
    rw [node?_set (ne_nil_of_node? place), node?_erase (ne_nil_of_file? there)]
    simp only [FileAction.places, List.mem_cons, List.not_mem_nil, or_false] at hq
    rcases hq with rfl | rfl
    · refine ⟨not_directory_of_file? there, ?_⟩
      split <;> simp
    · exact ⟨place, by simp⟩
  | remove reaches there =>
    rw [List.mem_singleton.mp hq, node?_erase (ne_nil_of_file? there)]
    exact ⟨not_directory_of_file? there, by simp⟩

theorem kept (h : fs.Effect a fs') {q : Path.Place} (hq : fs.node? q = some .directory) :
    fs'.node? q = some .directory := by
  by_cases hplace : q ∈ a.places fs.cwd
  · exact absurd hq (h.not_directory hplace).1
  · rcases h.node?_of_not_mem hplace with hsame | ⟨-, hold, -⟩
    · rw [hsame, hq]
    · rw [hq] at hold
      cases hold

/-- A new directory is made where nothing was. -/
theorem fresh (h : fs.Effect a fs') {q : Path.Place} (hq : fs'.node? q = some .directory) :
    fs.node? q = some .directory ∨ a.IsMaking ∧ fs.node? q = none := by
  by_cases hplace : q ∈ a.places fs.cwd
  · exact absurd hq (h.not_directory hplace).2
  · rcases h.node?_of_not_mem hplace with hsame | ⟨hmaking, hold, -⟩
    · exact .inl (hsame ▸ hq)
    · exact .inr ⟨hmaking, hold⟩

theorem grown (h : fs.Effect a fs') : fs.Grown fs' where
  cwd := h.cwd
  kept _ hq := h.kept hq
  fresh q hq := by
    rcases h.fresh hq with hold | ⟨-, hold⟩ <;> simp only [file?, hold]

/-- What is there was there before, or at a place that a path led to. -/
theorem mem_nodes (h : fs.Effect a fs') {e : Path.Place × FileNode} (he : e ∈ fs'.nodes) :
    e ∈ fs.nodes ∨ ∃ path, fs.Reaches path ∧ e.1 = Path.locate fs.cwd path := by
  cases h with
  | @makeDirectory path reaches free =>
    rcases List.mem_cons.mp he with rfl | hold
    · exact .inr ⟨path, reaches, rfl⟩
    · exact .inl (List.mem_filter.mp hold).1
  | checkDirectory => exact .inl he
  | @write path bytes reaches place =>
    rcases List.mem_cons.mp he with rfl | hold
    · exact .inr ⟨path, reaches, rfl⟩
    · exact .inl (List.mem_filter.mp hold).1
  | @rename source target bytes reaches there reachesTarget place slash =>
    rcases List.mem_cons.mp he with rfl | hold
    · exact .inr ⟨target, reachesTarget, rfl⟩
    · exact .inl (List.mem_filter.mp (List.mem_filter.mp hold).1).1
  | remove reaches there => exact .inl (List.mem_filter.mp he).1

/-- A tree stays a tree. -/
theorem sound (h : fs.Effect a fs') (hs : fs.Sound) : fs'.Sound := by
  constructor
  · intro e he
    apply h.kept
    rcases h.mem_nodes he with hold | ⟨path, hreach, hplace⟩
    · exact hs.tree e hold
    · rw [hplace]
      exact hs.parent_of_reaches hreach
  · rw [h.cwd]
    exact h.kept hs.cwd

theorem file?_of_write {path : String} {bytes : List UInt8}
    (h : fs.Effect (.write path bytes) fs') :
    fs'.file? (Path.locate fs.cwd path) = some bytes := by
  cases h with
  | write reaches place =>
    rw [file?_eq_some_iff, node?_set (ne_nil_of_node? place), if_pos rfl]

theorem node?_of_remove {path : String} (h : fs.Effect (.remove path) fs') :
    fs'.node? (Path.locate fs.cwd path) = none := by
  cases h with
  | remove reaches there => rw [node?_erase (ne_nil_of_file? there), if_pos rfl]

/-- A file that gets another name is read under it, and no more at its old place. -/
theorem read_of_rename {source target : String} (h : fs.Effect (.rename source target) fs') :
    (∃ bytes, fs.file? (Path.locate fs.cwd source) = some bytes ∧ fs'.read target = .ok bytes) ∧
      (Path.locate fs.cwd source ≠ Path.locate fs.cwd target →
        fs'.node? (Path.locate fs.cwd source) = none) := by
  have hgrown := h.grown
  cases h with
  | @rename _ _ bytes reaches there reachesTarget place slash =>
    have hplace := ne_nil_of_node? place
    constructor
    · have hreach := reachesTarget.kept (hgrown.origin target) (fun q _ hq => hgrown.kept q hq)
        (fun _ => slash)
      refine ⟨bytes, there, read_eq_ok_iff.mpr ⟨hreach, ?_⟩⟩
      rw [hgrown.cwd, file?_eq_some_iff, node?_set hplace, if_pos rfl]
    · intro hne
      rw [node?_set hplace, if_neg hne, node?_erase (ne_nil_of_file? there), if_pos rfl]

end Effect

/-- How an action can go: it is performed, or refused for whatever reason, or it is a write that is
cut short after some of the bytes. -/
inductive Act (fs : FileSystem) : FileAction → Except FileFault Unit → FileSystem → Prop
  | performed {a : FileAction} {fs' : FileSystem} (h : fs.perform a = .ok fs') :
      Act fs a (.ok ()) fs'
  | refused (a : FileAction) (e : FileFault) : Act fs a (.error e) fs
  | cutShort {path : String} {bytes : List UInt8} {n : Nat} {fs' : FileSystem} (e : FileFault)
      (h : fs.perform (.write path (bytes.take n)) = .ok fs') :
      Act fs (.write path bytes) (.error e) fs'

variable {r : Except FileFault Unit}

theorem Act.ok (h : fs.Act a (.ok ()) fs') : fs.Effect a fs' := by
  cases h with
  | performed h => exact effect_of_perform h

/-- An action that went wrong has changed nothing, or has written some bytes. -/
theorem Act.error {e : FileFault} (h : fs.Act a (.error e) fs') :
    fs' = fs ∨
      ∃ path bytes n, a = .write path bytes ∧ fs.Effect (.write path (bytes.take n)) fs' := by
  cases h with
  | refused => exact .inl rfl
  | @cutShort path bytes n _ _ h => exact .inr ⟨path, bytes, n, rfl, effect_of_perform h⟩

/-- However an action went, it did nothing or what an action at the same places does. -/
theorem Act.effect (h : fs.Act a r fs') : fs' = fs ∨
    ∃ b, fs.Effect b fs' ∧ b.places fs.cwd = a.places fs.cwd ∧ (b.IsMaking → a.IsMaking) := by
  cases r with
  | ok u => exact .inr ⟨a, h.ok, rfl, id⟩
  | error e =>
    rcases h.error with rfl | ⟨path, bytes, n, rfl, heffect⟩
    · exact .inl rfl
    · exact .inr ⟨_, heffect, rfl, id⟩

theorem Act.cwd (h : fs.Act a r fs') : fs'.cwd = fs.cwd := by
  rcases h.effect with rfl | ⟨b, heffect, -⟩
  · rfl
  · exact heffect.cwd

theorem Act.sound (h : fs.Act a r fs') (hs : fs.Sound) : fs'.Sound := by
  rcases h.effect with rfl | ⟨b, heffect, -⟩
  · exact hs
  · exact heffect.sound hs

theorem Act.file?_of_not_mem (h : fs.Act a r fs') {q : Path.Place} (hq : q ∉ a.places fs.cwd) :
    fs'.file? q = fs.file? q := by
  rcases h.effect with rfl | ⟨b, heffect, hplaces, -⟩
  · rfl
  · exact heffect.file?_of_not_mem (hplaces ▸ hq)

theorem Act.kept (h : fs.Act a r fs') {q : Path.Place} (hq : fs.node? q = some .directory) :
    fs'.node? q = some .directory := by
  rcases h.effect with rfl | ⟨b, heffect, -⟩
  · exact hq
  · exact heffect.kept hq

theorem Act.fresh (h : fs.Act a r fs') {q : Path.Place} (hq : fs'.node? q = some .directory) :
    fs.node? q = some .directory ∨ a.IsMaking ∧ fs.node? q = none := by
  rcases h.effect with rfl | ⟨b, heffect, -, hmaking⟩
  · exact .inl hq
  · exact (heffect.fresh hq).imp_right (.imp_left hmaking)

end FileSystem

/-- What was done, and how it went. -/
abbrev FileLog := List (FileAction × Except FileFault Unit)

namespace Plan

variable {α β : Type} {fs fs' : FileSystem}

/-- How a plan can have gone when it stops, with what is left of it. -/
inductive Goes : Plan α → FileSystem → FileLog → Plan α → FileSystem → Prop
  | stop (plan : Plan α) (fs : FileSystem) : Goes plan fs [] plan fs
  | act {a : FileAction} {next : Except FileFault Unit → Plan α} {r : Except FileFault Unit}
      {fs fs' fs'' : FileSystem} {log : FileLog} {rest : Plan α} (head : fs.Act a r fs')
      (tail : Goes (next r) fs' log rest fs'') : Goes (.act a next) fs ((a, r) :: log) rest fs''

/-- A plan that is not disturbed goes to its end. -/
theorem goes_run (plan : Plan α) (fs : FileSystem) :
    ∃ log, plan.Goes fs log (.done (plan.run fs).1) (plan.run fs).2 := by
  induction plan generalizing fs with
  | done a => exact ⟨[], .stop _ _⟩
  | act a next ih =>
    cases hp : fs.perform a with
    | ok fs' =>
      obtain ⟨log, hlog⟩ := ih (.ok ()) fs'
      refine ⟨(a, .ok ()) :: log, ?_⟩
      simp only [run, hp]
      exact .act (.performed hp) hlog
    | error e =>
      obtain ⟨log, hlog⟩ := ih (.error e) fs
      refine ⟨(a, .error e) :: log, ?_⟩
      simp only [run, hp]
      exact .act (.refused a e) hlog

/-- A plan in two parts stops in the first, or comes to its result and stops in the second. -/
theorem goes_andThen {plan : Plan α} {f : α → Plan β} {log : FileLog} {rest : Plan β}
    (h : (plan.andThen f).Goes fs log rest fs') :
    (∃ rest', plan.Goes fs log rest' fs' ∧
        ∀ b, rest = .done b → ∃ a, f a = .done b ∧ rest' = .done a) ∨
      ∃ log₁ log₂ a fs₁, log = log₁ ++ log₂ ∧ plan.Goes fs log₁ (.done a) fs₁ ∧
        (f a).Goes fs₁ log₂ rest fs' := by
  induction plan generalizing fs log with
  | done a => exact .inr ⟨[], log, a, fs, rfl, .stop _ _, h⟩
  | act action next ih =>
    cases h with
    | stop => exact .inl ⟨_, .stop _ _, fun b hb => by cases hb⟩
    | act head tail =>
      rcases ih _ tail with ⟨rest', hfirst, hrest⟩ | ⟨log₁, log₂, a, fs₁, hlog, hfirst, hsecond⟩
      · exact .inl ⟨rest', .act head hfirst, hrest⟩
      · exact .inr ⟨_, log₂, a, fs₁, by rw [hlog, List.cons_append], .act head hfirst, hsecond⟩

/-- All that a plan may do is of a kind. -/
inductive Only (P : FileAction → Prop) : Plan α → Prop
  | done (a : α) : Only P (.done a)
  | act {a : FileAction} {next : Except FileFault Unit → Plan α} (head : P a)
      (tail : ∀ r, Only P (next r)) : Only P (.act a next)

variable {P : FileAction → Prop}

theorem Only.mono {Q : FileAction → Prop} {plan : Plan α} (h : plan.Only P) (hP : ∀ a, P a → Q a) :
    plan.Only Q := by
  induction h with
  | done a => exact .done a
  | act head tail ih => exact .act (hP _ head) ih

theorem Only.andThen {plan : Plan α} {f : α → Plan β} (h : plan.Only P) (hf : ∀ a, (f a).Only P) :
    (plan.andThen f).Only P := by
  induction h with
  | done a => exact hf a
  | act head tail ih => exact .act head ih

theorem Goes.only {plan rest : Plan α} {log : FileLog} (h : plan.Goes fs log rest fs')
    (hplan : plan.Only P) : ∀ e ∈ log, P e.1 := by
  induction h with
  | stop => simp
  | act head tail ih =>
    cases hplan with
    | act hhead htail =>
      intro e he
      cases List.mem_cons.mp he with
      | inl heq => rw [heq]; exact hhead
      | inr hlater => exact ih (htail _) e hlater

theorem Goes.cwd {plan rest : Plan α} {log : FileLog} (h : plan.Goes fs log rest fs') :
    fs'.cwd = fs.cwd := by
  induction h with
  | stop => rfl
  | act head tail ih => rw [ih, head.cwd]

theorem Goes.sound {plan rest : Plan α} {log : FileLog} (h : plan.Goes fs log rest fs')
    (hs : fs.Sound) : fs'.Sound := by
  induction h with
  | stop => exact hs
  | act head tail ih => exact ih (head.sound hs)

theorem Goes.kept {plan rest : Plan α} {log : FileLog} (h : plan.Goes fs log rest fs')
    {q : Path.Place} (hq : fs.node? q = some .directory) : fs'.node? q = some .directory := by
  induction h with
  | stop => exact hq
  | act head tail ih => exact ih (head.kept hq)

/-- A file changes only by an action that names its place and is not refused as a whole. -/
theorem Goes.file? {plan rest : Plan α} {log : FileLog} (h : plan.Goes fs log rest fs')
    {q : Path.Place} (hq : ∀ e ∈ log, q ∈ e.1.places fs.cwd →
      (∃ source target, e.1 = .rename source target) ∧ e.2 ≠ .ok ()) :
    fs'.file? q = fs.file? q := by
  induction h with
  | stop => rfl
  | @act a next r fs fs₁ fs₂ log rest head tail ih =>
    have hlater := ih (by
      intro e he hplace
      rw [head.cwd] at hplace
      exact hq e (List.mem_cons_of_mem _ he) hplace)
    rw [hlater]
    by_cases hplace : q ∈ a.places fs.cwd
    · obtain ⟨⟨source, target, hrename⟩, hrefused⟩ := hq _ List.mem_cons_self hplace
      cases r with
      | ok u => exact absurd rfl hrefused
      | error e =>
        rcases head.error with rfl | ⟨path, bytes, n, hwrite, -⟩
        · rfl
        · simp only [hwrite] at hrename
          cases hrename
    · exact head.file?_of_not_mem hplace

/-- A plan that only makes directories makes them where nothing was. -/
theorem Goes.fresh_of_making {plan rest : Plan α} {log : FileLog} (h : plan.Goes fs log rest fs')
    (hplan : plan.Only FileAction.IsMaking) {q : Path.Place} (hq : fs'.node? q = some .directory) :
    fs.file? q = none := by
  have hsame : fs'.file? q = fs.file? q := by
    apply h.file?
    intro e he hplace
    rw [(h.only hplan e he).places] at hplace
    cases hplace
  rw [← hsame, FileSystem.file?, hq]

/-- A plan that makes no directories has none in the end that were not there. -/
theorem Goes.old_of_not_making {plan rest : Plan α} {log : FileLog} (h : plan.Goes fs log rest fs')
    (hplan : plan.Only (fun a => ¬ a.IsMaking)) {q : Path.Place}
    (hq : fs'.node? q = some .directory) : fs.node? q = some .directory := by
  have hlog := h.only hplan
  clear hplan
  induction h with
  | stop => exact hq
  | @act a next r fs fs₁ fs₂ log rest head tail ih =>
    have hone := ih hq (fun e he => hlog e (List.mem_cons_of_mem _ he))
    rcases head.fresh hone with hold | ⟨hmaking, -⟩
    · exact hold
    · exact absurd hmaking (hlog _ List.mem_cons_self)

theorem makeDirectories_only (paths : List String) :
    (makeDirectories paths).Only FileAction.IsMaking := by
  induction paths with
  | nil => exact .done _
  | cons path above ih =>
    have hcheck (next : Except FileFault Unit → Plan (Except FileFault Unit))
        (hnext : ∀ r, ∃ result, next r = .done result) :
        (Plan.act (.checkDirectory path) next).Only FileAction.IsMaking := by
      refine .act trivial ?_
      intro r
      obtain ⟨result, hresult⟩ := hnext r
      rw [hresult]
      exact .done result
    unfold makeDirectories
    refine .act trivial ?_
    intro r
    split
    · exact .done _
    · apply ih.andThen
      rintro (e | u)
      · exact .done _
      · refine .act trivial ?_
        rintro (e | u)
        · exact hcheck _ (by rintro (_ | _) <;> exact ⟨_, rfl⟩)
        · exact .done _
    · exact hcheck _ (by rintro (_ | _) <;> exact ⟨_, rfl⟩)

end Plan

end LiveTail
