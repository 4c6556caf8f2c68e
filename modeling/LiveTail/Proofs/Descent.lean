import LiveTail.Proofs.History
import Mathlib.Data.List.Nodup
/-! How rows go down the table. The numbers of the rows count down from the top and are never given
again, so a row can be told by its number; it is there until the table is cleared or until so many
rows have come above it that the cap is reached. -/
namespace LiveTail

namespace LogTable

/-- What every table keeps: the numbers count down, none of them is still to come, and there are no
more rows than the cap allows. -/
structure Sound (t : LogTable) : Prop where
  descending : t.rows.Pairwise (fun a b => b.seq < a.seq)
  below : ∀ r ∈ t.rows, r.seq < t.received
  within : ∀ n, t.cap = some n → t.rows.length ≤ n

theorem sound_empty (maxRows : Nat) : Sound (empty maxRows) :=
  ⟨List.Pairwise.nil, fun _ h => absurd h List.not_mem_nil, fun n _ => Nat.zero_le n⟩

theorem limit_sublist (cap : Option Nat) (rows : List LogRow) :
    (limit cap rows).Sublist rows := by
  cases cap with
  | none => exact List.Sublist.refl rows
  | some n => exact List.take_sublist n rows

theorem limit_of_within {cap : Option Nat} {rows : List LogRow}
    (h : ∀ n, cap = some n → rows.length ≤ n) : limit cap rows = rows := by
  cases cap with
  | none => rfl
  | some n => exact List.take_of_length_le (h n rfl)

/-- Rows that the cap has dropped before would be dropped now. -/
theorem limit_cons_limit (cap : Option Nat) (r : LogRow) (rows : List LogRow) :
    limit cap (r :: limit cap rows) = limit cap (r :: rows) := by
  cases cap with
  | none => rfl
  | some n => exact take_cons_take n r rows

theorem sound_clear (t : LogTable) : t.clear.Sound :=
  ⟨List.Pairwise.nil, fun _ h => absurd h List.not_mem_nil, fun n _ => Nat.zero_le n⟩

theorem Sound.prepend {t : LogTable} (h : t.Sound) (base : Instant) (e : LogEvent) :
    (t.prepend base e).Sound := by
  have hsub := limit_sublist t.cap (.ofEvent base t.received e :: t.rows)
  have hdescending : (LogRow.ofEvent base t.received e :: t.rows).Pairwise
      (fun a b => b.seq < a.seq) := List.pairwise_cons.2 ⟨h.below, h.descending⟩
  refine ⟨hdescending.sublist hsub, ?_, ?_⟩
  · intro r hr
    have hold : ∀ r ∈ t.rows, r.seq < t.received + 1 := fun r hr => Nat.lt_succ_of_lt (h.below r hr)
    rcases List.mem_cons.1 (hsub.subset hr) with rfl | hr
    · exact Nat.lt_succ_self t.received
    · exact hold r hr
  · intro n hn
    have hcap : t.cap = some n := hn
    change (limit t.cap _).length ≤ n
    rw [hcap]
    exact List.length_take_le n _

theorem Sound.nodup {t : LogTable} (h : t.Sound) : (t.rows.map LogRow.seq).Nodup := by
  apply List.pairwise_map.2
  exact h.descending.imp fun hlt => (Nat.ne_of_lt hlt).symm

/-- There is one row of a number at most. -/
theorem Sound.eq_of_seq {t : LogTable} (h : t.Sound) {a b : LogRow} (ha : a ∈ t.rows)
    (hb : b ∈ t.rows) (hseq : a.seq = b.seq) : a = b :=
  List.inj_on_of_nodup_map h.nodup ha hb hseq

theorem Sound.find?_eq {t : LogTable} (h : t.Sound) {r : LogRow} (hr : r ∈ t.rows) :
    t.find? r.seq = some r := by
  cases hfind : t.find? r.seq with
  | none => exact absurd (List.find?_eq_none.1 hfind r hr) (by simp)
  | some a =>
    have ha : a ∈ t.rows := List.mem_of_find?_eq_some hfind
    have hseq : a.seq = r.seq := by simpa using List.find?_some hfind
    rw [h.eq_of_seq ha hr hseq]

theorem Sound.filter_eq {t : LogTable} (h : t.Sound) {r : LogRow} (hr : r ∈ t.rows) :
    t.rows.filter (fun a => a.seq = r.seq) = [r] := by
  have hsame : t.rows.filter (fun a => a.seq = r.seq) = t.rows.filter (fun a => a = r) := by
    apply List.filter_congr
    intro a ha
    rw [decide_eq_decide]
    exact ⟨h.eq_of_seq ha hr, fun heq => congrArg LogRow.seq heq⟩
  rw [hsame, List.filter_eq, List.count_eq_one_of_mem h.nodup.of_map hr]
  rfl

end LogTable

namespace LogStream

open History

/-- What messages have done to a stream: they have put new rows on top of those that were there, or
they have cleared the table and put new rows into it. -/
structure Passed (s : LogStream) (ms : List Message) (s' : LogStream) : Prop where
  cap : s'.table.cap = s.table.cap
  received : s.table.received ≤ s'.table.received
  cleared : .clear ∈ ms → ∀ r ∈ s'.table.rows, s.table.received ≤ r.seq
  grown : .clear ∉ ms → ∃ new, new.length = (logs ms).length ∧
    (∀ r ∈ new, s.table.received ≤ r.seq) ∧
    s'.table.rows = LogTable.limit s.table.cap (new ++ s.table.rows)

theorem passed_refl (s : LogStream) (h : s.table.Sound) : Passed s [] s := by
  refine ⟨rfl, Nat.le_refl _, fun hc => absurd hc List.not_mem_nil, fun _ => ?_⟩
  exact ⟨[], rfl, fun _ hr => absurd hr List.not_mem_nil, (LogTable.limit_of_within h.within).symm⟩

theorem Passed.apply {s s' : LogStream} {ms : List Message} (h : Passed s ms s') (m : Message) :
    Passed s (ms ++ [m]) (s'.apply m).2 := by
  have hlogs : (logs (ms ++ [m])).length = (logs ms).length + m.event?.toList.length := by
    rw [logs_concat, List.length_append]
  cases m with
  | clear =>
    refine ⟨h.cap, h.received, fun _ r hr => absurd hr List.not_mem_nil, fun hc => ?_⟩
    exact absurd (List.mem_append_right ms (List.mem_singleton.2 rfl)) hc
  | log e =>
    have hclear : (Message.clear ∈ ms ++ [.log e]) ↔ .clear ∈ ms := by simp
    let row := LogRow.ofEvent s'.base s'.table.received e
    have hrow : s.table.received ≤ row.seq := h.received
    refine ⟨h.cap, Nat.le_succ_of_le h.received, ?_, ?_⟩
    · intro hc r hr
      rcases List.mem_cons.1 ((LogTable.limit_sublist _ _).subset hr) with rfl | hr
      · exact hrow
      · exact h.cleared (hclear.1 hc) r hr
    · intro hc
      obtain ⟨new, hlength, hnew, hrows⟩ := h.grown (mt hclear.2 hc)
      refine ⟨row :: new, ?_, ?_, ?_⟩
      · rw [hlogs, List.length_cons, hlength]
        rfl
      · intro r hr
        rcases List.mem_cons.1 hr with rfl | hr
        · exact hrow
        · exact hnew r hr
      · change LogTable.limit s'.table.cap (row :: s'.table.rows) = _
        rw [h.cap, hrows, LogTable.limit_cons_limit, List.cons_append]
  | baseTime t | serverError text detail =>
    refine ⟨h.cap, h.received, ?_, ?_⟩
    · intro hc
      exact h.cleared (by simpa using hc)
    · intro hc
      obtain ⟨new, hlength, hnew, hrows⟩ := h.grown (by simpa using hc)
      exact ⟨new, by rw [hlength, hlogs]; rfl, hnew, hrows⟩

theorem sound_apply {s : LogStream} (h : s.table.Sound) (m : Message) :
    (s.apply m).2.table.Sound := by
  cases m with
  | clear => exact s.table.sound_clear
  | log e => exact h.prepend s.base e
  | baseTime t | serverError text detail => exact h

theorem passed_feed (s : LogStream) (h : s.table.Sound) (texts : List String) :
    Passed s (Message.ofFrames texts) (s.feed texts) ∧ (s.feed texts).table.Sound := by
  induction texts using List.reverseRecOn with
  | nil => exact ⟨passed_refl s h, h⟩
  | append_singleton texts t ih =>
    rw [feed_concat, handleFrame]
    cases hd : Message.decode t with
    | error f => simpa [Message.ofFrames, hd, Except.toOption] using ih
    | ok m =>
      refine ⟨?_, sound_apply ih.2 m⟩
      simpa [Message.ofFrames, hd, Except.toOption] using ih.1.apply m

/-- Of the numbers that have been given a table knows no new rows. -/
theorem Passed.mem_of_lt {s s' : LogStream} {ms : List Message} (h : Passed s ms s') {r : LogRow}
    (hr : r ∈ s'.table.rows) (hlt : r.seq < s.table.received) :
    .clear ∉ ms ∧ r ∈ s.table.rows := by
  have hclear : .clear ∉ ms := by
    intro hc
    exact absurd (h.cleared hc r hr) (Nat.not_le.2 hlt)
  obtain ⟨new, -, hnew, hrows⟩ := h.grown hclear
  rw [hrows] at hr
  rcases List.mem_append.1 ((LogTable.limit_sublist _ _).subset hr) with hr | hr
  · exact absurd (hnew r hr) (Nat.not_le.2 hlt)
  · exact ⟨hclear, hr⟩

/-- A row stays exactly if the table has not been cleared and the new rows above it leave it a place
under the cap. -/
theorem Passed.mem_iff {s s' : LogStream} {ms : List Message} (h : Passed s ms s')
    (hs : s.table.Sound) {i : Nat} {r : LogRow} (hr : s.table.rows[i]? = some r) :
    r ∈ s'.table.rows ↔
      .clear ∉ ms ∧ ∀ n, s.table.cap = some n → i + (logs ms).length < n := by
  have hmem : r ∈ s.table.rows := List.mem_of_getElem? hr
  have hlt : r.seq < s.table.received := hs.below r hmem
  constructor
  · intro hr'
    have hclear := (h.mem_of_lt hr' hlt).1
    obtain ⟨new, hlength, hnew, hrows⟩ := h.grown hclear
    refine ⟨hclear, fun n hn => ?_⟩
    rw [hrows, hn, LogTable.limit] at hr'
    obtain ⟨j, hj⟩ := List.mem_iff_getElem?.1 hr'
    have hjn : j < n := by
      by_contra hge
      rw [List.getElem?_take_eq_none (Nat.not_lt.1 hge)] at hj
      cases hj
    rw [List.getElem?_take_of_lt hjn] at hj
    -- the row is not among the new ones, so it has its old place behind them
    have hold : new.length ≤ j := by
      by_contra hnewj
      rw [List.getElem?_append_left (Nat.not_le.1 hnewj)] at hj
      exact absurd (hnew r (List.mem_of_getElem? hj)) (Nat.not_le.2 hlt)
    rw [List.getElem?_append_right hold] at hj
    have hplace : j - new.length = i := by
      have hi : i < s.table.rows.length := (List.getElem?_eq_some_iff.1 hr).1
      exact ((List.getElem?_inj hi hs.nodup.of_map).1 (hr.trans hj.symm)).symm
    omega
  · rintro ⟨hclear, hcap⟩
    obtain ⟨new, hlength, -, hrows⟩ := h.grown hclear
    have hplace : (new ++ s.table.rows)[i + new.length]? = some r := by
      rw [List.getElem?_append_right (Nat.le_add_left _ _), Nat.add_sub_cancel]
      exact hr
    rw [hrows]
    cases hc : s.table.cap with
    | none => exact List.mem_of_getElem? hplace
    | some n =>
      have hn : i + new.length < n := hlength ▸ hcap n hc
      rw [LogTable.limit]
      exact List.mem_of_getElem? ((List.getElem?_take_of_lt hn).trans hplace)

end LogStream

end LiveTail
