/-! Lines of a text: a line ends at a line feed, and a carriage return right before it is no part
of the line. A text that ends in a line feed has no further empty line. -/
namespace LiveTail.Text

/-- Drops one carriage return from the end. -/
def dropReturn (cs : List Char) : List Char :=
  match cs.reverse with
  | '\r' :: r => r.reverse
  | _ => cs

/-- The characters up to the first `c`, and those after it if it occurs. -/
def cut (c : Char) (cs : List Char) : List Char × Option (List Char) :=
  match cs with
  | [] => ([], none)
  | d :: r =>
    if d = c then ([], some r)
    else
      let (a, b) := cut c r
      (d :: a, b)

/-- The pieces between the occurrences of `c`, in order; one piece if `c` does not occur. -/
def splitOn (c : Char) (cs : List Char) : List (List Char) :=
  cs.foldr (fun d pieces =>
    if d = c then [] :: pieces
    else match pieces with
      | [] => [[d]]
      | p :: ps => (d :: p) :: ps) [[]]

theorem splitOn_ne_nil (c : Char) (a : List Char) : splitOn c a ≠ [] := by
  cases a with
  | nil => simp [splitOn]
  | cons d r =>
    simp only [splitOn, List.foldr_cons]
    split
    · simp
    · split <;> simp

theorem splitOn_cons_self (c : Char) (r : List Char) :
    splitOn c (c :: r) = [] :: splitOn c r := by
  simp [splitOn]

theorem splitOn_cons_of_ne {c d : Char} (h : d ≠ c) (r : List Char) :
    ∃ p ps, splitOn c r = p :: ps ∧ splitOn c (d :: r) = (d :: p) :: ps := by
  cases hs : splitOn c r with
  | nil => exact absurd hs (splitOn_ne_nil c r)
  | cons p ps =>
    refine ⟨p, ps, rfl, ?_⟩
    unfold splitOn at hs ⊢
    rw [List.foldr_cons, if_neg h, hs]

theorem splitOn_append (c : Char) (a b : List Char) :
    splitOn c (a ++ c :: b) = splitOn c a ++ splitOn c b := by
  induction a with
  | nil => simp [splitOn]
  | cons d r ih =>
    -- A `c` in front gives an empty piece, another character goes to the front of the first.
    by_cases hd : d = c
    · subst hd
      rw [List.cons_append, splitOn_cons_self, splitOn_cons_self, ih, List.cons_append]
    · obtain ⟨p, ps, hr, hdr⟩ := splitOn_cons_of_ne hd r
      obtain ⟨p', ps', hr', hdr'⟩ := splitOn_cons_of_ne hd (r ++ c :: b)
      have heq : p' :: ps' = p :: (ps ++ splitOn c b) := by rw [← hr', ih, hr, List.cons_append]
      rw [List.cons_append, hdr', hdr, (List.cons.inj heq).1, (List.cons.inj heq).2,
        List.cons_append]

theorem splitOn_of_not_mem {c : Char} {a : List Char} (h : c ∉ a) : splitOn c a = [a] := by
  induction a with
  | nil => rfl
  | cons d r ih =>
    have hd : d ≠ c := by
      rintro rfl
      exact h List.mem_cons_self
    obtain ⟨p, ps, hr, hdr⟩ := splitOn_cons_of_ne hd r
    rw [ih (fun hm => h (List.mem_cons_of_mem d hm))] at hr
    rw [hdr, ← (List.cons.inj hr).1, ← (List.cons.inj hr).2]

/-- The pieces hold the characters of the text other than `c`. -/
theorem mem_splitOn {c d : Char} {a p : List Char} (h : p ∈ splitOn c a) (hd : d ∈ p) :
    d ∈ a ∧ d ≠ c := by
  induction a generalizing p with
  | nil =>
    rw [show p = [] by simpa [splitOn] using h] at hd
    cases hd
  | cons e r ih =>
    have later {q : List Char} (hq : q ∈ splitOn c r) (hdq : d ∈ q) : d ∈ e :: r ∧ d ≠ c :=
      ⟨List.mem_cons_of_mem e (ih hq hdq).1, (ih hq hdq).2⟩
    by_cases he : e = c
    · rw [he, splitOn_cons_self] at h
      rcases List.mem_cons.1 h with rfl | h
      · cases hd
      · exact later h hd
    · obtain ⟨q, ps, hr, her⟩ := splitOn_cons_of_ne he r
      rw [her] at h
      rcases List.mem_cons.1 h with rfl | h
      · rcases List.mem_cons.1 hd with rfl | hd
        · exact ⟨List.mem_cons_self, he⟩
        · exact later (hr ▸ List.mem_cons_self) hd
      · exact later (hr ▸ List.mem_cons_of_mem q h) hd

/-- All lines, without their ends. -/
def lines (cs : List Char) : List (List Char) :=
  let pieces := splitOn '\n' cs
  match pieces.reverse with
  | [] => []
  | last :: ended => ended.reverse.map dropReturn ++ (if last.isEmpty then [] else [last])

/-- The first line; a text without a line is empty, and so is its first line. -/
def firstLine (cs : List Char) : List Char :=
  match cut '\n' cs with
  | (line, some _) => dropReturn line
  | (line, none) => line

end LiveTail.Text
