import LiveTail.Endpoint
import Mathlib.Data.List.Basic
/-! The paths that a URL with a host can have. They are segments behind slashes, in which all that
has to be encoded is encoded and all that has to be resolved is resolved, so reading such a path
once more gives the same path. -/
namespace LiveTail

namespace Percent

theorem encode_of_forall {set : Char → Bool} {cs : List Char} (h : ∀ c ∈ cs, set c = false) :
    encode set cs = cs := by
  induction cs with
  | nil => rfl
  | cons c r ih =>
    have hr := ih fun d hd => h d (List.mem_cons_of_mem c hd)
    rw [encode, List.flatMap_cons, h c List.mem_cons_self]
    exact congrArg (c :: ·) hr

end Percent

namespace Url

/-- A character that stands in a segment as it is: it is not encoded and it divides no segments. -/
def IsPlain (c : Char) : Prop := Percent.pathSet c = false ∧ c ≠ '/' ∧ c ≠ '\\'

theorem plain_of_all {cs : List Char}
    (h : cs.all (fun c => !Percent.pathSet c && c != '/' && c != '\\') = true) :
    ∀ c ∈ cs, IsPlain c := by
  intro c hc
  have hone := List.all_eq_true.1 h c hc
  rw [Bool.and_eq_true, Bool.and_eq_true, bne_iff_ne, bne_iff_ne, Bool.not_eq_true'] at hone
  exact ⟨hone.1.1, hone.1.2, hone.2⟩

/-- A character that is encoded gives way to plain ones. -/
theorem plain_of_mem_encodeByte (b : UInt8) : ∀ c ∈ Percent.encodeByte b, IsPlain c := by
  have hall : (List.range 256).all (fun n => ('%' :: Text.upperHex 2 n).all
      (fun c => !Percent.pathSet c && c != '/' && c != '\\')) = true := by decide +kernel
  exact plain_of_all (List.all_eq_true.1 hall b.toNat (List.mem_range.2 b.toNat_lt))

/-- A segment as it stands in a path: its characters are plain, and it is none of those that are
resolved. -/
structure Settled (s : List Char) : Prop where
  plain : ∀ c ∈ s, IsPlain c
  single : isSingleDot s = false
  double : isDoubleDot s = false

/-- Segments, each behind a slash. -/
def rooted (segments : List (List Char)) : List Char := segments.flatMap ('/' :: ·)

@[simp] theorem rooted_cons (s : List Char) (r : List (List Char)) :
    rooted (s :: r) = '/' :: (s ++ rooted r) := rfl

theorem rooted_append (a b : List (List Char)) : rooted (a ++ b) = rooted a ++ rooted b :=
  List.flatMap_append

/-- Directories in front of a last segment, with the slashes behind them. -/
theorem slash_flatMap (dirs : List (List Char)) (last : List Char) :
    '/' :: dirs.flatMap (· ++ ['/']) ++ last = rooted (dirs ++ [last]) := by
  induction dirs with
  | nil => simp [rooted]
  | cons d r ih =>
    have hrooted : rooted (d :: r ++ [last]) = '/' :: (d ++ rooted (r ++ [last])) := rfl
    rw [hrooted, ← ih]
    simp

theorem plain_of_mem_rooted {segments : List (List Char)} (h : ∀ s ∈ segments, Settled s) :
    ∀ c ∈ rooted segments, c = '/' ∨ IsPlain c := by
  intro c hc
  obtain ⟨s, hs, hc⟩ := List.mem_flatMap.1 hc
  rcases List.mem_cons.1 hc with rfl | hc
  · exact .inl rfl
  · exact .inr ((h s hs).plain c hc)

/-! ### What is read is settled -/

theorem plain_of_mem_segments {cs s : List Char} (h : s ∈ segments .hosted cs) :
    ∀ c ∈ s, IsPlain c := by
  intro c hc
  obtain ⟨p, hp, rfl⟩ := List.mem_map.1 h
  obtain ⟨d, hd, hc⟩ := List.mem_flatMap.1 hc
  obtain ⟨hmem, hslash⟩ := Text.mem_splitOn hp hd
  -- a backslash has become a slash, and the pieces lie between the slashes
  obtain ⟨e, -, he⟩ := List.mem_map.1 hmem
  have hback : d ≠ '\\' := by
    rintro rfl
    split at he
    · cases he
    · subst he
      contradiction
  split at hc
  · obtain ⟨b, -, hc⟩ := List.mem_flatMap.1 hc
    exact plain_of_mem_encodeByte b c hc
  · rename_i hset
    obtain rfl := List.mem_singleton.1 hc
    exact ⟨Bool.eq_false_iff.2 hset, hslash, hback⟩

theorem mem_of_mem_popDirectory {dirs : List (List Char)} {d : List Char}
    (h : d ∈ popDirectory dirs) : d ∈ dirs := by
  cases dirs with
  | nil => exact h
  | cons e r =>
    simp only [popDirectory] at h
    split at h
    · exact h
    · exact List.mem_cons_of_mem e h

theorem settled_nil : Settled [] := ⟨fun _ hc => absurd hc List.not_mem_nil, rfl, rfl⟩

/-- However dot segments are resolved, what is left is a path of settled segments. -/
theorem resolveSegments_settled (dirs segments : List (List Char)) (hne : segments ≠ [])
    (hdirs : ∀ d ∈ dirs, Settled d)
    (hplain : ∀ s ∈ segments, ∀ c ∈ s, IsPlain c) :
    ∃ settled, settled ≠ [] ∧ (∀ s ∈ settled, Settled s) ∧
      resolveSegments .hosted dirs segments = rooted settled := by
  -- the directories come in reverse order, and the last segment stands behind all of them
  have ends (dirs : List (List Char)) (last : List Char) (hdirs : ∀ d ∈ dirs, Settled d)
      (hlast : Settled last) : ∃ settled, settled ≠ [] ∧ (∀ s ∈ settled, Settled s) ∧
        '/' :: dirs.reverse.flatMap (· ++ ['/']) ++ last = rooted settled := by
    refine ⟨dirs.reverse ++ [last], by simp, ?_, slash_flatMap dirs.reverse last⟩
    intro s hs
    rcases List.mem_append.1 hs with hs | hs
    · exact hdirs s (List.mem_reverse.1 hs)
    · rwa [List.mem_singleton.1 hs]
  induction segments generalizing dirs with
  | nil => exact absurd rfl hne
  | cons s r ih =>
    have hpop : ∀ d ∈ popDirectory dirs, Settled d :=
      fun d hd => hdirs d (mem_of_mem_popDirectory hd)
    have hrest : ∀ t ∈ r, ∀ c ∈ t, IsPlain c :=
      fun t ht => hplain t (List.mem_cons_of_mem s ht)
    cases r with
    | nil =>
      simp only [resolveSegments]
      split
      · simpa using ends (popDirectory dirs) [] hpop settled_nil
      · split
        · simpa using ends dirs [] hdirs settled_nil
        · rename_i hdouble hsingle
          have hs : Settled s := ⟨hplain s List.mem_cons_self, by simpa using hsingle,
            by simpa using hdouble⟩
          exact ends dirs s hdirs hs
    | cons t r =>
      simp only [resolveSegments]
      split
      · exact ih (popDirectory dirs) (by simp) hpop hrest
      · split
        · exact ih dirs (by simp) hdirs hrest
        · rename_i hdouble hsingle
          have hs : Settled s := ⟨hplain s List.mem_cons_self, by simpa using hsingle,
            by simpa using hdouble⟩
          refine ih (s :: dirs) (by simp) ?_ hrest
          intro d hd
          rcases List.mem_cons.1 hd with rfl | hd
          · exact hs
          · exact hdirs d hd

theorem readPath_settled (cs : List Char) :
    ∃ settled, settled ≠ [] ∧ (∀ s ∈ settled, Settled s) ∧
      readPath .hosted cs = rooted settled := by
  have hroot (cs : List Char) : ∃ settled, settled ≠ [] ∧ (∀ s ∈ settled, Settled s) ∧
      readRooted .hosted cs = rooted settled := by
    refine resolveSegments_settled [] (segments .hosted cs) ?_ (by simp) ?_
    · simp [segments, Text.splitOn_ne_nil]
    · intro s hs
      exact plain_of_mem_segments hs
  cases cs with
  | nil => exact ⟨[[]], by simp, by simpa using settled_nil, rfl⟩
  | cons c r =>
    simp only [readPath]
    split
    · exact hroot r
    · exact hroot (c :: r)

/-! ### What is settled is read as it is -/

theorem splitOn_rooted (s : List Char) (r : List (List Char)) (h : ∀ t ∈ s :: r, Settled t) :
    Text.splitOn '/' (s ++ rooted r) = s :: r := by
  have hslash : ∀ t ∈ s :: r, '/' ∉ t := fun t ht hm => ((h t ht).plain '/' hm).2.1 rfl
  induction r generalizing s with
  | nil => simpa [rooted] using Text.splitOn_of_not_mem (hslash s List.mem_cons_self)
  | cons t r ih =>
    have hr := ih t (fun u hu => h u (List.mem_cons_of_mem s hu))
      (fun u hu => hslash u (List.mem_cons_of_mem s hu))
    rw [rooted_cons, Text.splitOn_append, Text.splitOn_of_not_mem (hslash s List.mem_cons_self), hr]
    rfl

theorem segments_rooted (s : List Char) (r : List (List Char)) (h : ∀ t ∈ s :: r, Settled t) :
    segments .hosted (s ++ rooted r) = s :: r := by
  have hmap : (s ++ rooted r).map (fun c => if isSlash .hosted c then '/' else c) =
      s ++ rooted r := by
    refine (List.map_congr_left fun c hc => ?_).trans (List.map_id _)
    have hplain := plain_of_mem_rooted h c (List.mem_cons_of_mem '/' hc)
    by_cases hslash : c = '/'
    · simp [hslash]
    · have hback : c ≠ '\\' := (hplain.resolve_left hslash).2.2
      simp [isSlash, hslash, hback]
  have hcode : ∀ t ∈ s :: r, Percent.encode Percent.pathSet t = t := fun t ht =>
    Percent.encode_of_forall fun c hc => ((h t ht).plain c hc).1
  rw [segments, hmap, splitOn_rooted s r h]
  exact (List.map_congr_left hcode).trans (List.map_id _)

theorem resolveSegments_of_settled (dirs : List (List Char)) (s : List Char)
    (r : List (List Char)) (h : ∀ t ∈ s :: r, Settled t) :
    resolveSegments .hosted dirs (s :: r) = rooted (dirs.reverse ++ s :: r) := by
  induction r generalizing dirs s with
  | nil =>
    have hs := h s List.mem_cons_self
    simp only [resolveSegments, hs.double, hs.single, Bool.false_eq_true, if_false]
    exact slash_flatMap dirs.reverse s
  | cons t r ih =>
    have hs := h s List.mem_cons_self
    simp only [resolveSegments, hs.double, hs.single, Bool.false_eq_true, if_false]
    have hr := ih (s :: dirs) t fun u hu => h u (List.mem_cons_of_mem s hu)
    rw [List.reverse_cons, List.append_assoc] at hr
    exact hr

theorem readPath_rooted (settled : List (List Char)) (hne : settled ≠ [])
    (h : ∀ s ∈ settled, Settled s) : readPath .hosted (rooted settled) = rooted settled := by
  obtain ⟨s, r, rfl⟩ := List.exists_cons_of_ne_nil hne
  have hread : readRooted .hosted (s ++ rooted r) = rooted (s :: r) := by
    simp only [readRooted, segments_rooted s r h]
    exact resolveSegments_of_settled [] s r h
  exact hread

/-- Putting a settled path into a URL puts in that very path. -/
theorem setPath_rooted (u : Url) (hkind : schemeKind u.scheme = .hosted)
    (settled : List (List Char)) (hne : settled ≠ []) (h : ∀ s ∈ settled, Settled s) :
    u.setPath (rooted settled) = { u with path := rooted settled } := by
  have hkeep : (rooted settled).filter (fun c => !isSkipped c) = rooted settled := by
    refine List.filter_eq_self.2 fun c hc => ?_
    rcases plain_of_mem_rooted h c hc with rfl | ⟨hplain, -, -⟩
    · rfl
    · -- what is skipped in a text are controls, and these are encoded in a path
      have hskip : ∀ d, isSkipped d = true → Percent.pathSet d = true := by
        intro d hd
        simp only [isSkipped, Bool.or_eq_true, decide_eq_true_eq] at hd
        rcases hd with (rfl | rfl) | rfl <;> decide
      cases hs : isSkipped c with
      | false => rfl
      | true => rw [hskip c hs] at hplain; cases hplain
  rw [setPath, hkeep, hkind, readPath_rooted settled hne h]

end Url

/-- The path of the socket is settled if the one of the page is. -/
theorem socketPath_rooted (settled : List (List Char)) (hne : settled ≠ [])
    (h : ∀ s ∈ settled, Url.Settled s) :
    ∃ below, below ≠ [] ∧ (∀ s ∈ below, Url.Settled s) ∧
      socketPath (Url.rooted settled) = Url.rooted below := by
  obtain ⟨dirs, last, rfl⟩ := (List.eq_nil_or_concat' settled).resolve_left hne
  have hsocket : Url.Settled "socket".toList :=
    ⟨Url.plain_of_all (by decide +kernel), by decide +kernel, by decide +kernel⟩
  have hdirs : ∀ s ∈ dirs, Url.Settled s := fun s hs => h s (List.mem_append_left _ hs)
  have hlast : Url.Settled last := h last (by simp)
  rw [Url.rooted_append]
  rcases List.eq_nil_or_concat' last with rfl | ⟨init, c, rfl⟩
  · -- the path ends in a slash, behind which the new segment comes
    refine ⟨dirs ++ ["socket".toList], by simp, ?_, ?_⟩
    · intro s hs
      rcases List.mem_append.1 hs with hs | hs
      · exact hdirs s hs
      · rwa [List.mem_singleton.1 hs]
    · have hend : (Url.rooted dirs ++ Url.rooted [[]]).getLast? = some '/' := by
        simp [Url.rooted]
      rw [socketPath, if_pos hend, Url.rooted_append]
      simp [Url.rooted]
  · refine ⟨dirs ++ [init ++ [c], "socket".toList], by simp, ?_, ?_⟩
    · intro s hs
      rcases List.mem_append.1 hs with hs | hs
      · exact hdirs s hs
      · rcases List.mem_cons.1 hs with rfl | hs
        · exact hlast
        · rwa [List.mem_singleton.1 hs]
    · have hc : c ≠ '/' := (hlast.plain c (by simp)).2.1
      have hend : (Url.rooted dirs ++ Url.rooted [init ++ [c]]).getLast? ≠ some '/' := by
        simpa [Url.rooted, List.getLast?_append, List.getLast?_cons] using hc
      rw [socketPath, if_neg hend, Url.rooted_append]
      simp [Url.rooted]

end LiveTail
