import LiveTail.Prefs
/-! The places that paths name, and what the operations on files do at each place. A path with a
name is a sibling of its temporary path: both lead through the same directories, to different
places. -/
namespace LiveTail

namespace Text

/-- The last piece is empty only behind the last `c`. -/
theorem getLast?_of_splitOn {c : Char} {a : List Char} (hne : a ≠ [])
    (h : (splitOn c a).getLast? = some []) : a.getLast? = some c := by
  induction a with
  | nil => exact absurd rfl hne
  | cons d r ih =>
    by_cases hr : r = []
    · subst hr
      by_cases hd : d = c
      · simp [hd]
      · obtain ⟨p, ps, hr, hdr⟩ := splitOn_cons_of_ne hd []
        rw [hdr, ← (List.cons.inj hr).2] at h
        simp at h
    · have hlast : (d :: r).getLast? = r.getLast? := by
        cases r with
        | nil => exact absurd rfl hr
        | cons e r => rw [List.getLast?_cons_cons]
      rw [hlast]
      apply ih hr
      by_cases hd : d = c
      · rw [hd, splitOn_cons_self] at h
        obtain ⟨p, ps, hs⟩ := List.exists_cons_of_ne_nil (splitOn_ne_nil c r)
        rw [hs] at h ⊢
        rwa [List.getLast?_cons_cons] at h
      · obtain ⟨p, ps, hs, hds⟩ := splitOn_cons_of_ne hd r
        rw [hds] at h
        rw [hs]
        cases ps with
        | nil => simp at h
        | cons q ps =>
          rw [List.getLast?_cons_cons] at h ⊢
          exact h

end Text

namespace Path

/-- The last name of a path names a file: it is there, and it is no `.` or `..`. -/
def HasName (path : String) : Prop :=
  (splitLast path).2 ≠ [] ∧ (splitLast path).2 ≠ ['.'] ∧ (splitLast path).2 ≠ ['.', '.']

instance (path : String) : Decidable (HasName path) := inferInstanceAs (Decidable (_ ∧ _ ∧ _))

/-- Where a path starts, the last name first. -/
def origin (cwd : Place) (path : String) : Place := if isAbsolute path then [] else cwd.reverse

theorem locate_of_origin {cwd cwd' : Place} {path : String}
    (h : origin cwd' path = origin cwd path) : locate cwd' path = locate cwd path := by
  unfold origin at h
  rw [locate, locate, h]

/-- Without a way back up, the names of a place stay. -/
theorem suffix_walk (up : List String) {names : List (List Char)} (h : ['.', '.'] ∉ names) :
    up <:+ walk up names := by
  induction names generalizing up with
  | nil => exact List.suffix_rfl
  | cons c r ih =>
    have hr : ['.', '.'] ∉ r := fun hm => h (List.mem_cons_of_mem c hm)
    have hc : c ≠ ['.', '.'] := by
      rintro rfl
      exact h List.mem_cons_self
    rw [walk, if_neg hc]
    split
    · exact ih up hr
    · exact (List.suffix_cons _ up).trans (ih _ hr)

theorem walk_append (up : List String) (a b : List (List Char)) :
    walk up (a ++ b) = walk (walk up a) b := by
  induction a generalizing up with
  | nil => rfl
  | cons c r ih =>
    simp only [List.cons_append, walk]
    split
    · exact ih up
    · split
      · exact ih _
      · exact ih _

theorem walk_snoc_slash (up : List String) (a : List Char) :
    walk up (Text.splitOn '/' (a ++ ['/'])) = walk up (Text.splitOn '/' a) := by
  rw [Text.splitOn_append, walk_append]
  rfl

theorem walk_snoc_slash_dot (up : List String) (a : List Char) :
    walk up (Text.splitOn '/' (a ++ ['/', '.'])) = walk up (Text.splitOn '/' a) := by
  rw [Text.splitOn_append, walk_append]
  rfl

/-- What is dropped from the end of a path does not change where it leads. -/
theorem walk_dropTail (up : List String) (cs : List Char) :
    walk up (Text.splitOn '/' (dropTail cs).reverse) = walk up (Text.splitOn '/' cs.reverse) := by
  fun_induction dropTail cs with
  | case1 r h => rw [List.isEmpty_iff.mp h]
  | case2 r h ih => rw [ih, List.reverse_cons, walk_snoc_slash]
  | case3 r h => rw [List.isEmpty_iff.mp h]; rfl
  | case4 r h ih =>
    have hrev : ('.' :: '/' :: r).reverse = r.reverse ++ ['/', '.'] := by simp
    rw [ih, hrev, walk_snoc_slash_dot]
  | case5 cs => rfl

theorem head?_dropTail (cs : List Char) :
    (dropTail cs).reverse.head? = some '/' ↔ cs.reverse.head? = some '/' := by
  fun_induction dropTail cs with
  | case1 r h => rw [List.isEmpty_iff.mp h]
  | case2 r h ih =>
    obtain ⟨c, t, hr⟩ := List.exists_cons_of_ne_nil (by simpa using h : r.reverse ≠ [])
    rw [ih, List.reverse_cons, hr]
    rfl
  | case3 r h => rw [List.isEmpty_iff.mp h]; simp
  | case4 r h ih =>
    obtain ⟨c, t, hr⟩ := List.exists_cons_of_ne_nil (by simpa using h : r.reverse ≠ [])
    have hrev : ('.' :: '/' :: r).reverse = r.reverse ++ ['/', '.'] := by simp
    rw [ih, hrev, hr]
    rfl
  | case5 cs => exact Iff.rfl

/-- The text before the last name is empty or ends in a slash. -/
inductive IsFront : List Char → Prop
  | none : IsFront []
  | slash (a : List Char) : IsFront (a ++ ['/'])

theorem splitLast_append (path : String) :
    (splitLast path).1 ++ (splitLast path).2 = (dropTail path.toList.reverse).reverse := by
  simp only [splitLast]
  rw [← List.reverse_append, List.takeWhile_append_dropWhile]

theorem isFront_splitLast (path : String) : IsFront (splitLast path).1 := by
  simp only [splitLast]
  cases hd : (dropTail path.toList.reverse).dropWhile (· ≠ '/') with
  | nil => exact .none
  | cons c r =>
    have hc : c = '/' := by
      have h := List.head?_dropWhile_not (· ≠ '/') (dropTail path.toList.reverse)
      rw [hd] at h
      simpa using h
    rw [hc, List.reverse_cons]
    exact .slash r.reverse

theorem slash_not_mem_splitLast (path : String) : '/' ∉ (splitLast path).2 := by
  simp only [splitLast, List.mem_reverse]
  intro hm
  have h := List.all_takeWhile (p := (· ≠ '/')) (l := dropTail path.toList.reverse)
  simpa using List.all_eq_true.mp h '/' hm

theorem walk_front {front : List Char} (hfront : IsFront front) {name : List Char}
    (hname : '/' ∉ name) (up : List String) :
    walk up (Text.splitOn '/' (front ++ name)) =
      walk (walk up (Text.splitOn '/' front)) [name] := by
  cases hfront with
  | none => rw [List.nil_append, Text.splitOn_of_not_mem hname]; rfl
  | slash a =>
    rw [walk_snoc_slash, List.append_assoc, List.singleton_append, Text.splitOn_append, walk_append,
      Text.splitOn_of_not_mem hname]

/-- The directory that holds what a path names. -/
def directoryOf (cwd : Place) (path : String) : Place :=
  (walk (origin cwd path) (Text.splitOn '/' (splitLast path).1)).reverse

/-- A path whose names end in a name of a file leads to that name in the directory before it. -/
theorem locate_of_front (cwd : Place) (path : String) {front name : List Char}
    (hfront : IsFront front) (hslash : '/' ∉ name) (hne : name ≠ []) (hdot : name ≠ ['.'])
    (hup : name ≠ ['.', '.'])
    (hpath : walk (origin cwd path) (Text.splitOn '/' path.toList) =
      walk (origin cwd path) (Text.splitOn '/' (front ++ name))) :
    locate cwd path =
      (walk (origin cwd path) (Text.splitOn '/' front)).reverse ++ [String.ofList name] := by
  have hstart : locate cwd path = (walk (origin cwd path) (Text.splitOn '/' path.toList)).reverse :=
    rfl
  rw [hstart, hpath, walk_front hfront hslash]
  simp [walk, hne, hdot, hup]

theorem locate_eq {path : String} (h : HasName path) (cwd : Place) :
    locate cwd path = directoryOf cwd path ++ [String.ofList (splitLast path).2] := by
  apply locate_of_front cwd path (isFront_splitLast path) (slash_not_mem_splitLast path) h.1 h.2.1
    h.2.2
  rw [splitLast_append, walk_dropTail, List.reverse_reverse]

/-- A stem is the start of the name, and it is not empty if the name is not. -/
theorem stem_spec {name : List Char} (h : name ≠ []) :
    stem name ≠ [] ∧ ∃ rest, name = stem name ++ rest := by
  unfold stem
  split
  case h_1 c r heq =>
    refine ⟨by simp, '.' :: (name.reverse.takeWhile (· ≠ '.')).reverse, ?_⟩
    have hsplit := List.takeWhile_append_dropWhile (p := (· ≠ '.')) (l := name.reverse)
    rw [heq] at hsplit
    have hrev := congrArg List.reverse hsplit
    simpa using hrev.symm
  case h_2 => exact ⟨h, [], by simp⟩

/-- A name with `.json.tmp` behind it has another stem than before. -/
theorem stem_append (name : List Char) :
    stem (name ++ ".json.tmp".toList) = name ++ ".json".toList := by
  simp [stem]

end Path

namespace Preferences

theorem temporaryPath_toList {path : String} (h : Path.HasName path) :
    (temporaryPath path).toList =
      (Path.splitLast path).1 ++ (Path.stem (Path.splitLast path).2 ++ ".json.tmp".toList) := by
  obtain ⟨hne, hdot, hup⟩ := h
  simp [temporaryPath, Path.withExtension, hne, hdot, hup]

theorem isAbsolute_temporaryPath {path : String} (h : Path.HasName path) :
    Path.isAbsolute (temporaryPath path) = Path.isAbsolute path := by
  have hdrop : (Path.splitLast path).1 ++ (Path.splitLast path).2 =
      (Path.dropTail path.toList.reverse).reverse := Path.splitLast_append path
  have hpath : path.toList.head? = some '/' ↔
      ((Path.splitLast path).1 ++ (Path.splitLast path).2).head? = some '/' := by
    rw [hdrop, Path.head?_dropTail, List.reverse_reverse]
  have htemporary :
      (temporaryPath path).toList.head? = some '/' ↔ path.toList.head? = some '/' := by
    rw [temporaryPath_toList h, hpath]
    cases hf : (Path.splitLast path).1 with
    | cons c r => rfl
    | nil =>
      -- Without a front the name stands at the start, and its stem starts as it does.
      obtain ⟨hstem, rest, hrest⟩ := Path.stem_spec h.1
      obtain ⟨c, r, hs⟩ := List.exists_cons_of_ne_nil hstem
      rw [hs] at hrest
      rw [hs, hrest]
      rfl
  simp only [Path.isAbsolute, htemporary]

theorem origin_temporaryPath {path : String} (h : Path.HasName path) (cwd : Path.Place) :
    Path.origin cwd (temporaryPath path) = Path.origin cwd path := by
  simp only [Path.origin, isAbsolute_temporaryPath h]

theorem slash_not_mem_temporary {path : String} (h : Path.HasName path) :
    '/' ∉ Path.stem (Path.splitLast path).2 ++ ".json.tmp".toList := by
  obtain ⟨-, rest, hrest⟩ := Path.stem_spec h.1
  have hname := Path.slash_not_mem_splitLast path
  rw [hrest] at hname
  intro hm
  cases List.mem_append.mp hm with
  | inl hstem => exact hname (List.mem_append_left rest hstem)
  | inr hextension => exact absurd hextension (by decide)

/-- The temporary file has its place beside the file of preferences. -/
theorem locate_temporaryPath {path : String} (h : Path.HasName path) (cwd : Path.Place) :
    Path.locate cwd (temporaryPath path) = Path.directoryOf cwd path ++
      [String.ofList (Path.stem (Path.splitLast path).2 ++ ".json.tmp".toList)] := by
  have hlength : 9 ≤ (Path.stem (Path.splitLast path).2 ++ ".json.tmp".toList).length := by simp
  have hlong {name : List Char} (hn : name.length < 9) :
      Path.stem (Path.splitLast path).2 ++ ".json.tmp".toList ≠ name := by
    rintro heq
    rw [heq] at hlength
    omega
  rw [Path.locate_of_front cwd (temporaryPath path) (Path.isFront_splitLast path)
    (slash_not_mem_temporary h) (hlong (by simp)) (hlong (by simp)) (hlong (by simp))
    (by rw [temporaryPath_toList h])]
  rw [origin_temporaryPath h, Path.directoryOf]

/-- No file is its own temporary file. -/
theorem locate_temporaryPath_ne {path : String} (h : Path.HasName path) (cwd : Path.Place) :
    Path.locate cwd (temporaryPath path) ≠ Path.locate cwd path := by
  rw [locate_temporaryPath h, Path.locate_eq h]
  intro heq
  have hnames : Path.stem (Path.splitLast path).2 ++ ".json.tmp".toList = (Path.splitLast path).2 :=
    String.ofList_injective (List.cons.inj (List.append_cancel_left heq)).1
  -- The stem of such a name would be longer than itself by `.json`.
  have hstem := congrArg Path.stem hnames
  rw [Path.stem_append] at hstem
  have hlength := congrArg List.length hstem
  simp at hlength

end Preferences

end LiveTail
