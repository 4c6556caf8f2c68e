import LiveTail.Proofs.Place
/-! What an operation on files does at each place. Directories stay, a file changes only at the
places that an operation names, and a path leads where it led as long as the directories on its way
are there. -/
namespace LiveTail

/-- Why a path cannot lead anywhere, whatever the files. -/
def Path.fault? (path : String) : Option FileFault :=
  if path.isEmpty then some .notFound
  else if path.toList.contains '\x00' then some .invalidName
  else if FileSystem.maxPath < path.utf8ByteSize then some .nameTooLong
  else none

namespace FileSystem

variable {fs fs' : FileSystem}

/-- The bytes of the file at a place. -/
def file? (fs : FileSystem) (p : Path.Place) : Option (List UInt8) :=
  match fs.node? p with
  | some (.file bytes) => some bytes
  | _ => none

theorem file?_eq_some_iff {p : Path.Place} {bytes : List UInt8} :
    fs.file? p = some bytes ↔ fs.node? p = some (.file bytes) := by
  unfold file?
  split <;> simp_all

theorem file?_congr {p : Path.Place} (h : fs'.node? p = fs.node? p) : fs'.file? p = fs.file? p := by
  simp only [file?, h]

/-- The root is a directory. -/
theorem ne_nil_of_node? {p : Path.Place} (h : fs.node? p ≠ some .directory) : p ≠ [] := by
  rintro rfl
  exact h rfl

theorem lookup_filter_ne (nodes : List (Path.Place × FileNode)) (p q : Path.Place) :
    (nodes.filter (fun e => e.1 ≠ p)).lookup q = if q = p then none else nodes.lookup q := by
  induction nodes with
  | nil => simp
  | cons e r ih =>
    obtain ⟨k, n⟩ := e
    rw [List.filter_cons]
    by_cases hk : k = p
    · subst hk
      rw [if_neg (by simp), ih, List.lookup_cons]
      by_cases hq : q = k
      · rw [if_pos hq, if_pos hq]
      · rw [if_neg hq, if_neg hq, beq_eq_false_iff_ne.mpr hq]
    · rw [if_pos (by simpa using hk), List.lookup_cons, List.lookup_cons, ih]
      by_cases hq : q = k
      · simp [hq, hk]
      · simp [beq_eq_false_iff_ne.mpr hq]

theorem node?_set {p : Path.Place} (h : p ≠ []) (n : FileNode) (q : Path.Place) :
    (fs.set p n).node? q = if q = p then some n else fs.node? q := by
  by_cases hq : q = []
  · subst hq
    rw [if_neg (Ne.symm h)]
    rfl
  · simp only [node?, set, List.isEmpty_iff, hq, if_false, List.lookup_cons, lookup_filter_ne]
    by_cases hqp : q = p
    · simp [hqp]
    · simp [beq_eq_false_iff_ne.mpr hqp, hqp]

theorem node?_erase {p : Path.Place} (h : p ≠ []) (q : Path.Place) :
    (fs.erase p).node? q = if q = p then none else fs.node? q := by
  by_cases hq : q = []
  · subst hq
    rw [if_neg (Ne.symm h)]
    rfl
  · simp only [node?, erase, List.isEmpty_iff, hq, if_false, lookup_filter_ne]

/-! ### Where paths lead -/

/-- The names of a path can be gone through. -/
def Reaches (fs : FileSystem) (path : String) : Prop :=
  fs.resolve path = .ok (Path.locate fs.cwd path, fs.node? (Path.locate fs.cwd path))

theorem resolve_eq (fs : FileSystem) (path : String) :
    fs.resolve path =
      match Path.fault? path with
      | some e => .error e
      | none =>
        match fs.follow (Path.origin fs.cwd path) (Text.splitOn '/' path.toList) with
        | .ok () => .ok (Path.locate fs.cwd path, fs.node? (Path.locate fs.cwd path))
        | .error e => .error e := by
  unfold resolve Path.fault? Path.origin
  split
  · rfl
  · split
    · rfl
    · split
      · rfl
      · rfl

theorem reaches_iff {path : String} :
    fs.Reaches path ↔ Path.fault? path = none ∧
      fs.follow (Path.origin fs.cwd path) (Text.splitOn '/' path.toList) = .ok () := by
  unfold Reaches
  rw [resolve_eq]
  cases Path.fault? path with
  | some e => simp
  | none => cases fs.follow (Path.origin fs.cwd path) (Text.splitOn '/' path.toList) <;> simp

theorem reaches_of_resolve {path : String} {x : Path.Place × Option FileNode}
    (h : fs.resolve path = .ok x) :
    fs.Reaches path ∧ x = (Path.locate fs.cwd path, fs.node? (Path.locate fs.cwd path)) := by
  have heq := resolve_eq fs path
  rw [h] at heq
  cases hf : Path.fault? path with
  | some e => simp [hf] at heq
  | none =>
    cases hw : fs.follow (Path.origin fs.cwd path) (Text.splitOn '/' path.toList) with
    | error e => simp [hf, hw] at heq
    | ok u =>
      simp only [hf, hw, Except.ok.injEq] at heq
      exact ⟨reaches_iff.mpr ⟨hf, hw⟩, heq⟩

theorem read_eq_ok_iff {path : String} {bytes : List UInt8} :
    fs.read path = .ok bytes ↔
      fs.Reaches path ∧ fs.file? (Path.locate fs.cwd path) = some bytes := by
  rw [file?_eq_some_iff]
  constructor
  · intro h
    unfold read at h
    split at h
    case h_1 p b hr =>
      obtain ⟨hreach, heq⟩ := reaches_of_resolve hr
      rw [← (Prod.mk.inj heq).2, ← Except.ok.inj h]
      exact ⟨hreach, rfl⟩
    all_goals cases h
  · rintro ⟨hreach, hnode⟩
    unfold Reaches at hreach
    simp only [read, hreach, hnode]

end FileSystem

/-- A path with a name `..`, which leads back to the directory above. -/
def Path.GoesUp (path : String) : Prop := ['.', '.'] ∈ Text.splitOn '/' path.toList

instance (path : String) : Decidable (Path.GoesUp path) := inferInstanceAs (Decidable (_ ∈ _))

/-- A name on the way along a path: the place it names, and the names behind it. -/
structure Path.Step where
  place : Path.Place
  name : List Char
  behind : List (List Char)
  deriving DecidableEq

/-- The names along a path that name places, in order. -/
def Path.steps : List String → List (List Char) → List Path.Step
  | _, [] => []
  | up, c :: r =>
    if c = [] || c = ['.'] then steps up r
    else if c = ['.', '.'] then steps (up.drop 1) r
    else ⟨(.ofList c :: up).reverse, c, r⟩ :: steps (.ofList c :: up) r

/-- A step leads to its place, and the names behind it go on from there. -/
theorem Path.walk_of_mem_steps {up : List String} {names : List (List Char)} {s : Path.Step}
    (h : s ∈ Path.steps up names) :
    s.behind <:+ names ∧ Path.walk up names = Path.walk s.place.reverse s.behind := by
  induction names generalizing up with
  | nil => simp [steps] at h
  | cons c r ih =>
    have hrest {up' : List String} (hr : s ∈ steps up' r) :
        s.behind <:+ c :: r ∧ walk up' r = walk s.place.reverse s.behind :=
      ⟨(ih hr).1.trans (List.suffix_cons c r), (ih hr).2⟩
    rw [steps] at h
    rw [walk]
    split at h
    case isTrue hblank => rw [if_pos hblank]; exact hrest h
    case isFalse hblank =>
      rw [if_neg hblank]
      split at h
      case isTrue hup => rw [if_pos hup]; exact hrest h
      case isFalse hup =>
        rw [if_neg hup]
        cases List.mem_cons.mp h with
        | inl heq =>
          rw [heq, List.reverse_reverse]
          exact ⟨List.suffix_cons c r, rfl⟩
        | inr hlater => exact hrest hlater

namespace FileSystem

variable {fs fs' : FileSystem}

/-- Why one cannot get past a step: all but the last have to lead to directories. -/
def stepFault? (fs : FileSystem) (s : Path.Step) : Option FileFault :=
  if maxName < (String.ofList s.name).utf8ByteSize then some .nameTooLong
  else if s.behind.isEmpty then none
  else
    match fs.node? s.place with
    | some .directory => none
    | some (.file _) => some .notDirectory
    | none => if s.behind.all List.isEmpty then none else some .notFound

theorem steps_of_blank {names : List (List Char)} (h : names.all List.isEmpty = true)
    (up : List String) : Path.steps up names = [] ∧ Path.walk up names = up := by
  induction names with
  | nil => exact ⟨rfl, rfl⟩
  | cons c r ih =>
    rw [List.all_cons, Bool.and_eq_true] at h
    have hc : c = [] := List.isEmpty_iff.mp h.1
    simp [Path.steps, Path.walk, hc, ih h.2]

/-- A path is gone through if one gets past all its steps. -/
theorem follow_eq (fs : FileSystem) (up : List String) (names : List (List Char)) :
    fs.follow up names =
      match (Path.steps up names).findSome? fs.stepFault? with
      | some e => .error e
      | none => .ok () := by
  induction names generalizing up with
  | nil => rfl
  | cons c r ih =>
    rw [follow, Path.steps]
    split
    · exact ih up
    · split
      · exact ih _
      · rw [List.findSome?_cons]
        by_cases hlong : maxName < (String.ofList c).utf8ByteSize
        · simp only [stepFault?, if_pos hlong]
        · by_cases hlast : r.isEmpty
          · have hr : r = [] := List.isEmpty_iff.mp hlast
            simp [stepFault?, hlong, hr, Path.steps]
          · simp only [stepFault?, if_neg hlong, if_neg hlast]
            cases fs.node? (.ofList c :: up).reverse with
            | some n =>
              cases n with
              | directory => exact ih _
              | file b => rfl
            | none =>
              by_cases hblank : r.all List.isEmpty
              · simp only [if_pos hblank, (steps_of_blank hblank _).1, List.findSome?_nil]
              · simp only [if_neg hblank]

theorem follow_eq_ok_iff {up : List String} {names : List (List Char)} :
    fs.follow up names = .ok () ↔ ∀ s ∈ Path.steps up names, fs.stepFault? s = none := by
  rw [follow_eq, ← List.findSome?_eq_none_iff]
  cases (Path.steps up names).findSome? fs.stepFault? <;> simp

theorem stepFault?_of_follow {up : List String} {names : List (List Char)} {e : FileFault}
    (h : fs.follow up names = .error e) : ∃ s ∈ Path.steps up names, fs.stepFault? s = some e := by
  rw [follow_eq] at h
  cases hs : (Path.steps up names).findSome? fs.stepFault? with
  | none => simp [hs] at h
  | some e' =>
    simp only [hs, Except.error.injEq] at h
    rw [← h]
    exact List.exists_of_findSome?_eq_some hs

theorem stepFault?_eq_none_iff {s : Path.Step} :
    fs.stepFault? s = none ↔ (String.ofList s.name).utf8ByteSize ≤ maxName ∧
      (s.behind = [] ∨ fs.node? s.place = some .directory ∨
        fs.node? s.place = none ∧ s.behind.all List.isEmpty = true) := by
  unfold stepFault?
  by_cases hlong : maxName < (String.ofList s.name).utf8ByteSize
  · rw [if_pos hlong]
    simp [Nat.not_le.mpr hlong]
  · rw [if_neg hlong]
    have hshort := Nat.not_lt.mp hlong
    by_cases hlast : s.behind = []
    · simp [hlast, hshort]
    · cases hn : fs.node? s.place with
      | none => simp [hlast, hshort]
      | some n => cases n <;> simp [hlast, hshort]

/-- With nothing but slashes behind it, a step is the last. -/
theorem last_of_mem_steps {up : List String} {names : List (List Char)} {s : Path.Step}
    (h : s ∈ Path.steps up names) (hblank : s.behind.all List.isEmpty = true) :
    (Path.walk up names).reverse = s.place ∧ (s.behind ≠ [] → names.getLast? = some []) := by
  obtain ⟨⟨front, hfront⟩, hw⟩ := Path.walk_of_mem_steps h
  constructor
  · rw [hw, (steps_of_blank hblank _).2, List.reverse_reverse]
  · intro hne
    have hlast : s.behind.getLast hne = [] :=
      List.isEmpty_iff.mp (List.all_eq_true.mp hblank _ (List.getLast_mem hne))
    rw [← hfront, List.getLast?_append, List.getLast?_eq_some_getLast hne, hlast, Option.some_or]

/-- The way a path led is there as long as the directories on it are. Only a path with a slash at
the end cannot come to lead to a file. -/
theorem follow_kept {up : List String} {names : List (List Char)}
    (hkept : ∀ s ∈ Path.steps up names,
      fs.node? s.place = some .directory → fs'.node? s.place = some .directory)
    (hend : fs.node? (Path.walk up names).reverse = none → names.getLast? ≠ some [])
    (h : fs.follow up names = .ok ()) : fs'.follow up names = .ok () := by
  rw [follow_eq_ok_iff] at h ⊢
  intro s hs
  obtain ⟨hshort, hway⟩ := stepFault?_eq_none_iff.mp (h s hs)
  refine stepFault?_eq_none_iff.mpr ⟨hshort, ?_⟩
  rcases hway with hlast | hdir | ⟨hnone, hblank⟩
  · exact .inl hlast
  · exact .inr (.inl (hkept s hs hdir))
  · -- With nothing but slashes behind a free name, the path ends in a slash.
    by_cases hlast : s.behind = []
    · exact .inl hlast
    · obtain ⟨hplace, hslash⟩ := last_of_mem_steps hs hblank
      exact absurd (hslash hlast) (hend (by rw [hplace, hnone]))

/-- A path that can be gone through and leads to something has met no fault but missing
directories, unless a directory has taken the place of a file. -/
theorem notFound_of_follow (hfresh : ∀ q, fs'.node? q = some .directory → fs.file? q = none)
    {up : List String} {names : List (List Char)} {e : FileFault}
    (hthere : fs'.node? (Path.walk up names).reverse ≠ none) (h' : fs'.follow up names = .ok ())
    (h : fs.follow up names = .error e) : e = .notFound := by
  obtain ⟨s, hs, hfault⟩ := stepFault?_of_follow h
  obtain ⟨hshort, hway⟩ := stepFault?_eq_none_iff.mp (follow_eq_ok_iff.mp h' s hs)
  unfold stepFault? at hfault
  rw [if_neg (Nat.not_lt.mpr hshort)] at hfault
  rcases hway with hlast | hdir | ⟨hnone, hblank⟩
  · simp [hlast] at hfault
  · -- Where there is a directory now, there was no file to be in the way.
    have hfile := hfresh _ hdir
    split at hfault
    · cases hfault
    · split at hfault
      case h_1 => cases hfault
      case h_2 b hb => rw [file?_eq_some_iff.mpr hb] at hfile; cases hfile
      case h_3 =>
        split at hfault
        · cases hfault
        · exact (Option.some.inj hfault).symm
  · exact absurd (by rw [(last_of_mem_steps hs hblank).1, hnone]) hthere

/-! ### Trees -/

/-- What is there is in a directory. -/
def Tree (fs : FileSystem) : Prop := ∀ e ∈ fs.nodes, fs.node? e.1.dropLast = some .directory

instance (fs : FileSystem) : Decidable fs.Tree := inferInstanceAs (Decidable (∀ e ∈ fs.nodes, _))

theorem exists_mem_of_node? {p : Path.Place} (hp : p ≠ []) (h : fs.node? p ≠ none) :
    ∃ n, (p, n) ∈ fs.nodes := by
  obtain ⟨n, hn⟩ := Option.ne_none_iff_exists'.mp h
  rw [node?, if_neg (by simpa using hp), List.lookup_eq_some_iff] at hn
  obtain ⟨a, b, hnodes, -⟩ := hn
  exact ⟨n, by simp [hnodes]⟩

theorem Tree.parent (h : fs.Tree) {p : Path.Place} (hp : p ≠ []) (hthere : fs.node? p ≠ none) :
    fs.node? p.dropLast = some .directory := by
  obtain ⟨n, hn⟩ := exists_mem_of_node? hp hthere
  exact h _ hn

theorem Tree.above (h : fs.Tree) (p : Path.Place) :
    ∀ below : Path.Place, below ≠ [] → fs.node? (p ++ below) ≠ none →
      fs.node? p = some .directory := by
  intro below
  induction below generalizing p with
  | nil => exact fun hne => absurd rfl hne
  | cons name r ih =>
    intro _ hthere
    have hchild : fs.node? (p ++ [name]) ≠ none := by
      by_cases hr : r = []
      · rwa [hr] at hthere
      · rw [List.append_cons] at hthere
        rw [ih (p ++ [name]) hr hthere]
        exact Option.some_ne_none _
    have hp := h.parent (List.append_ne_nil_of_right_ne_nil p (List.cons_ne_nil name [])) hchild
    rwa [List.dropLast_concat] at hp

/-- A tree that the working directory is in. -/
structure Sound (fs : FileSystem) : Prop where
  tree : fs.Tree
  cwd : fs.node? fs.cwd = some .directory

theorem Tree.dropLast (h : fs.Tree) {p : Path.Place} (hp : fs.node? p = some .directory) :
    fs.node? p.dropLast = some .directory := by
  by_cases hroot : p = []
  · rw [hroot]
    rfl
  · exact h.parent hroot (by simp [hp])

theorem parent_of_follow (h : fs.Tree) {up : List String} {names : List (List Char)}
    (hup : fs.node? up.reverse = some .directory) (hfollow : fs.follow up names = .ok ()) :
    fs.node? (Path.walk up names).reverse.dropLast = some .directory := by
  induction names generalizing up with
  | nil => exact h.dropLast hup
  | cons c r ih =>
    rw [follow] at hfollow
    rw [Path.walk]
    split at hfollow
    case isTrue hblank => rw [if_pos hblank]; exact ih hup hfollow
    case isFalse hblank =>
      rw [if_neg hblank]
      split at hfollow
      case isTrue hdots =>
        rw [if_pos hdots]
        apply ih _ hfollow
        have hdrop : (up.drop 1).reverse = up.reverse.dropLast := by
          cases up <;> simp
        rw [hdrop]
        exact h.dropLast hup
      case isFalse hdots =>
        rw [if_neg hdots]
        have hlast (hr : r.all List.isEmpty = true) :
            fs.node? (Path.walk (.ofList c :: up) r).reverse.dropLast = some .directory := by
          rw [(steps_of_blank hr _).2, List.reverse_cons, List.dropLast_concat, hup]
        split at hfollow
        · cases hfollow
        · split at hfollow
          case isTrue hr => exact hlast (by simp [List.isEmpty_iff.mp hr])
          case isFalse hr =>
            split at hfollow
            case h_1 hn => exact ih hn hfollow
            case h_2 => cases hfollow
            case h_3 =>
              split at hfollow
              case isTrue hblank => exact hlast hblank
              case isFalse => cases hfollow

/-- A path leads to a place in a directory. -/
theorem Sound.parent_of_reaches (h : fs.Sound) {path : String} (hreach : fs.Reaches path) :
    fs.node? (Path.locate fs.cwd path).dropLast = some .directory := by
  apply parent_of_follow h.tree _ (reaches_iff.mp hreach).2
  unfold Path.origin
  split
  · rfl
  · rw [List.reverse_reverse]
    exact h.cwd

/-- Without a way back up behind it, a step is above the place that the path names. -/
theorem place_prefix_of_mem_steps {up : List String} {names : List (List Char)} {s : Path.Step}
    (h : s ∈ Path.steps up names) (hup : ['.', '.'] ∉ s.behind) :
    s.place <+: (Path.walk up names).reverse := by
  have hsub := Path.suffix_walk s.place.reverse hup
  rw [(Path.walk_of_mem_steps h).2]
  exact List.reverse_suffix.mp (by rwa [List.reverse_reverse])

/-- A path goes back up only from what is there. -/
def NoGap (fs : FileSystem) (path : String) : Prop :=
  ∀ s ∈ Path.steps (Path.origin fs.cwd path) (Text.splitOn '/' path.toList),
    ['.', '.'] ∈ s.behind → fs.node? s.place ≠ none

instance (fs : FileSystem) (path : String) : Decidable (fs.NoGap path) :=
  inferInstanceAs (Decidable (∀ s ∈ Path.steps _ _, _ → _))

/-- A path goes astray if it fails for something that is missing, and goes back up from what is
missing. It leads somewhere as soon as that is made. -/
def Astray (fs : FileSystem) (path : String) : Prop :=
  fs.resolve path = .error .notFound ∧ ¬ fs.NoGap path

/-- Only paths with `..` go astray. -/
theorem not_astray_of_not_goesUp (fs : FileSystem) {path : String} (h : ¬ Path.GoesUp path) :
    ¬ fs.Astray path := by
  rintro ⟨-, hgap⟩
  apply hgap
  intro s hs hup
  exact absurd ((Path.walk_of_mem_steps hs).1.mem hup) h

/-- In a tree, a path can be gone through if the file it names is there, and it goes back up only
from what is there. -/
theorem follow_of_tree (htree : fs.Tree) (hfresh : ∀ q, fs'.node? q = some .directory →
      fs.file? q = none) {up : List String} {names : List (List Char)}
    (hgap : ∀ s ∈ Path.steps up names, ['.', '.'] ∈ s.behind → fs.node? s.place ≠ none)
    {bytes bytes' : List UInt8} (hfile : fs.file? (Path.walk up names).reverse = some bytes)
    (hfile' : fs'.file? (Path.walk up names).reverse = some bytes')
    (h' : fs'.follow up names = .ok ()) : fs.follow up names = .ok () := by
  rw [file?_eq_some_iff] at hfile hfile'
  rw [follow_eq_ok_iff] at h' ⊢
  intro s hs
  obtain ⟨hshort, hway⟩ := stepFault?_eq_none_iff.mp (h' s hs)
  refine stepFault?_eq_none_iff.mpr ⟨hshort, ?_⟩
  rcases hway with hlast | hdir | ⟨hnone, hblank⟩
  · exact .inl hlast
  · refine .inr (.inl ?_)
    by_cases hup : ['.', '.'] ∈ s.behind
    · -- What is there is no file, since there is a directory now.
      have hfile := hfresh _ hdir
      have hthere := hgap s hs hup
      unfold file? at hfile
      cases hn : fs.node? s.place with
      | none => exact absurd hn hthere
      | some n =>
        cases n with
        | directory => rfl
        | file b => simp [hn] at hfile
    · -- The file is below this place, so there is a directory in any tree that has the file.
      obtain ⟨below, hbelow⟩ := place_prefix_of_mem_steps hs hup
      have hne : below ≠ [] := by
        rintro rfl
        rw [← hbelow, List.append_nil, hdir] at hfile'
        cases hfile'
      apply htree.above s.place below hne
      rw [hbelow, hfile]
      exact Option.some_ne_none _
  · rw [(last_of_mem_steps hs hblank).1, hnone] at hfile'
    cases hfile'

/-! ### What a later file system has kept -/

/-- All directories are still there, and none has taken the place of a file. -/
structure Grown (fs fs' : FileSystem) : Prop where
  cwd : fs'.cwd = fs.cwd
  kept (q : Path.Place) : fs.node? q = some .directory → fs'.node? q = some .directory
  fresh (q : Path.Place) : fs'.node? q = some .directory → fs.file? q = none

theorem Grown.origin (h : fs.Grown fs') (path : String) :
    Path.origin fs'.cwd path = Path.origin fs.cwd path := by
  rw [h.cwd]

/-- The places that a path goes through. -/
def route (fs : FileSystem) (path : String) : List Path.Place :=
  (Path.steps (Path.origin fs.cwd path) (Text.splitOn '/' path.toList)).map (·.place)

theorem Reaches.kept {path : String} (h : fs.Reaches path)
    (horigin : Path.origin fs'.cwd path = Path.origin fs.cwd path)
    (hkept : ∀ q ∈ fs.route path, fs.node? q = some .directory → fs'.node? q = some .directory)
    (hend : fs.node? (Path.locate fs.cwd path) = none → Path.endsInSlash path = false) :
    fs'.Reaches path := by
  obtain ⟨hsound, hfollow⟩ := reaches_iff.mp h
  refine reaches_iff.mpr ⟨hsound, ?_⟩
  rw [horigin]
  refine follow_kept (fun s hs => hkept _ (List.mem_map_of_mem hs)) ?_ hfollow
  intro hnone hslash
  have hpath : path.toList ≠ [] := by
    intro hnil
    have hempty : path = "" := String.toList_inj.mp hnil
    rw [hempty] at hsound
    exact absurd hsound (by decide)
  have hends := hend hnone
  simp [Path.endsInSlash, Text.getLast?_of_splitOn hpath hslash] at hends

/-- A file that can be read still can be, if it and the directories on the way to it are there. -/
theorem read_of_route {path : String} {bytes : List UInt8} (h : fs.read path = .ok bytes)
    (horigin : Path.origin fs'.cwd path = Path.origin fs.cwd path)
    (hkept : ∀ q ∈ fs.route path, fs.node? q = some .directory → fs'.node? q = some .directory)
    (hfile : fs'.file? (Path.locate fs.cwd path) = fs.file? (Path.locate fs.cwd path)) :
    fs'.read path = .ok bytes := by
  obtain ⟨hreach, hbytes⟩ := read_eq_ok_iff.mp h
  rw [read_eq_ok_iff, Path.locate_of_origin horigin, hfile]
  refine ⟨hreach.kept horigin hkept ?_, hbytes⟩
  intro hnone
  rw [file?_eq_some_iff.mp hbytes] at hnone
  cases hnone

/-- A file is read from the later file system exactly if it was read before, provided it is the same
file and the path did not go astray. -/
theorem read_kept (hgrown : fs.Grown fs') (htree : fs.Tree) {path : String}
    (hfile : fs'.file? (Path.locate fs.cwd path) = fs.file? (Path.locate fs.cwd path))
    (hway : ¬ fs.Astray path) (bytes : List UInt8) :
    fs'.read path = .ok bytes ↔ fs.read path = .ok bytes := by
  constructor
  · intro h
    obtain ⟨hreach, hbytes'⟩ := read_eq_ok_iff.mp h
    rw [hgrown.cwd] at hbytes'
    have hbytes := hfile.symm.trans hbytes'
    obtain ⟨hsound, hfollow⟩ := reaches_iff.mp hreach
    rw [hgrown.cwd] at hfollow
    refine read_eq_ok_iff.mpr ⟨reaches_iff.mpr ⟨hsound, ?_⟩, hbytes⟩
    -- A file that is read only now was there before, behind a directory that was missing.
    by_cases hgap : fs.NoGap path
    · exact follow_of_tree htree hgrown.fresh hgap hbytes hbytes' hfollow
    · cases hold : fs.follow (Path.origin fs.cwd path) (Text.splitOn '/' path.toList) with
      | ok u => rfl
      | error e =>
        have hthere : fs'.node? (Path.locate fs.cwd path) ≠ none := by
          rw [file?_eq_some_iff.mp hbytes']
          exact Option.some_ne_none _
        have he := notFound_of_follow hgrown.fresh hthere hfollow hold
        refine absurd ⟨?_, hgap⟩ hway
        rw [resolve_eq, hsound, hold, he]
  · intro h
    exact read_of_route h (hgrown.origin path) (fun q _ hq => hgrown.kept q hq) hfile

end FileSystem

end LiveTail
