import LiveTail.Proofs.Batch
import Mathlib.Data.List.Basic
import Mathlib.Data.List.Induction
/-! The log table as a view of the history of its stream: which rows it shows, with which offsets
and arrival numbers, read off the messages that came in. -/
namespace LiveTail

theorem take_cons_take {α : Type} (n : Nat) (a : α) (l : List α) :
    (a :: l.take n).take n = (a :: l).take n := by
  cases n with
  | zero => rfl
  | succ n =>
    rw [List.take_succ_cons, List.take_succ_cons, List.take_take, Nat.min_eq_left (Nat.le_succ n)]

namespace Message

/-- The messages among frames, in order. -/
def ofFrames (texts : List String) : List Message :=
  texts.filterMap (fun t => (decode t).toOption)

def baseTime? : Message → Option Instant
  | .baseTime t => some t
  | _ => none

def event? : Message → Option LogEvent
  | .log e => some e
  | _ => none

/-- Whether a frame takes effect on a stream: it is a message, and not the report of an error. -/
def takesEffect (text : String) : Bool :=
  match decode text with
  | .error _ | .ok (.serverError _ _) => false
  | .ok _ => true

end Message

namespace History

variable (base : Instant)

/-- The base time after messages: the last one that they set. -/
def baseAfter (ms : List Message) : Instant := (ms.filterMap Message.baseTime?).getLast?.getD base

def logs (ms : List Message) : List LogEvent := ms.filterMap Message.event?

/-- The row of the message at a place, if it reports an event. What came before it fixes the base
time and the arrival number. -/
def row? (ms : List Message) (i : Nat) : Option LogRow :=
  (ms[i]?.bind Message.event?).map
    (LogRow.ofEvent (baseAfter base (ms.take i)) (logs (ms.take i)).length)

/-- The places after the last message that clears the table. -/
def sinceClear (ms : List Message) : List Nat :=
  (List.range ms.length).filter (fun i => .clear ∉ ms.drop i)

/-- The rows of the events since the table was cleared, the newest first. -/
def rows (ms : List Message) : List LogRow := ((sinceClear ms).filterMap (row? base ms)).reverse

/-- The first `maxRows` rows, or all of them for 0. -/
def cut (maxRows : Nat) (rows : List LogRow) : List LogRow :=
  if maxRows = 0 then rows else rows.take maxRows

@[simp] theorem logs_concat (ms : List Message) (m : Message) :
    logs (ms ++ [m]) = logs ms ++ m.event?.toList := by
  cases h : m.event? <;> simp [logs, h]

theorem baseAfter_concat (ms : List Message) (m : Message) :
    baseAfter base (ms ++ [m]) = m.baseTime?.getD (baseAfter base ms) := by
  cases h : m.baseTime? <;> simp [baseAfter, h]

theorem row?_concat_of_lt (ms : List Message) (m : Message) {i : Nat} (h : i < ms.length) :
    row? base (ms ++ [m]) i = row? base ms i := by
  rw [row?, row?, List.getElem?_append_left h, List.take_append_of_le_length (Nat.le_of_lt h)]

theorem row?_concat_length (ms : List Message) (m : Message) :
    row? base (ms ++ [m]) ms.length =
      m.event?.map (LogRow.ofEvent (baseAfter base ms) (logs ms).length) := by
  simp [row?]

theorem sinceClear_concat (ms : List Message) (m : Message) :
    sinceClear (ms ++ [m]) = if m = .clear then [] else sinceClear ms ++ [ms.length] := by
  -- a place before the end sees the new message behind it
  have hdrop : ∀ i ∈ List.range ms.length, (ms ++ [m]).drop i = ms.drop i ++ [m] := by
    intro i hi
    exact List.drop_append_of_le_length (Nat.le_of_lt (List.mem_range.1 hi))
  have hold : (List.range ms.length).filter (fun i => .clear ∉ (ms ++ [m]).drop i) =
      (List.range ms.length).filter (fun i => .clear ∉ ms.drop i ++ [m]) := by
    apply List.filter_congr
    intro i hi
    rw [hdrop i hi]
  rw [sinceClear, List.length_append, List.length_singleton, List.range_succ, List.filter_append,
    hold]
  by_cases hm : m = .clear
  · simp [hm]
  · have hne : ¬ Message.clear = m := fun h => hm h.symm
    simp [sinceClear, hm, hne]

/-- A message that clears the table leaves no row, and an event puts its row on top. -/
theorem rows_concat (ms : List Message) (m : Message) :
    rows base (ms ++ [m]) = if m = .clear then [] else
      (m.event?.map (LogRow.ofEvent (baseAfter base ms) (logs ms).length)).toList ++
        rows base ms := by
  rw [rows, sinceClear_concat]
  split
  · rfl
  · have hold : (sinceClear ms).filterMap (row? base (ms ++ [m])) =
        (sinceClear ms).filterMap (row? base ms) := by
      apply List.filterMap_congr
      intro i hi
      have hlt : i < ms.length := List.mem_range.1 (List.mem_filter.1 hi).1
      exact row?_concat_of_lt base ms m hlt
    rw [List.filterMap_append, hold, List.reverse_append, ← rows]
    cases h : m.event? <;> simp [row?_concat_length, h]

theorem cut_cons_cut (maxRows : Nat) (r : LogRow) (rs : List LogRow) :
    cut maxRows (r :: cut maxRows rs) = cut maxRows (r :: rs) := by
  unfold cut
  split
  · rfl
  · exact take_cons_take maxRows r rs

end History

theorem LogTable.limit_empty (maxRows : Nat) (rows : List LogRow) :
    limit (empty maxRows).cap rows = History.cut maxRows rows := by
  by_cases h : maxRows = 0 <;> simp [limit, empty, History.cut, h]

namespace LogStream

open History

/-- What ties a stream to the messages it has applied. -/
structure Tells (base : Instant) (maxRows : Nat) (ms : List Message) (s : LogStream) : Prop where
  rows : s.table.rows = cut maxRows (rows base ms)
  cap : s.table.cap = (LogTable.empty maxRows).cap
  base : s.base = baseAfter base ms
  received : s.table.received = (logs ms).length

theorem tells_empty (base : Instant) (maxRows : Nat) : Tells base maxRows [] (empty base maxRows) :=
  ⟨by simp [empty, LogTable.empty, cut, History.rows, sinceClear], rfl, rfl, rfl⟩

theorem Tells.apply {base : Instant} {maxRows : Nat} {ms : List Message} {s : LogStream}
    (h : Tells base maxRows ms s) (m : Message) : Tells base maxRows (ms ++ [m]) (s.apply m).2 := by
  have hbase := baseAfter_concat base ms m
  have hrows := rows_concat base ms m
  have hlogs : (logs (ms ++ [m])).length = (logs ms).length + m.event?.toList.length := by
    rw [logs_concat, List.length_append]
  cases m with
  | clear =>
    refine ⟨?_, h.cap, h.base.trans hbase.symm, h.received.trans hlogs.symm⟩
    rw [hrows]
    simp [LogStream.apply, LogTable.clear, cut]
  | log e =>
    refine ⟨?_, h.cap, h.base.trans hbase.symm, ?_⟩
    · -- rows that the cap has dropped before would be dropped now
      rw [hrows]
      simp only [LogStream.apply, LogTable.prepend, h.cap, LogTable.limit_empty, h.rows, h.base,
        h.received]
      exact cut_cons_cut maxRows _ _
    · rw [hlogs]
      exact congrArg (· + 1) h.received
  | baseTime t => exact ⟨hrows ▸ h.rows, h.cap, hbase.symm, h.received.trans hlogs.symm⟩
  | serverError text detail =>
    exact ⟨hrows ▸ h.rows, h.cap, h.base.trans hbase.symm, h.received.trans hlogs.symm⟩

@[simp] theorem feed_concat (s : LogStream) (texts : List String) (t : String) :
    s.feed (texts ++ [t]) = ((s.feed texts).handleFrame t).2 := by
  simp [feed]

theorem tells_feed (base : Instant) (maxRows : Nat) (texts : List String) :
    Tells base maxRows (Message.ofFrames texts) ((empty base maxRows).feed texts) := by
  induction texts using List.reverseRecOn with
  | nil => exact tells_empty base maxRows
  | append_singleton texts t ih =>
    rw [feed_concat, handleFrame]
    cases hd : Message.decode t with
    | error f => simpa [Message.ofFrames, hd, Except.toOption] using ih
    | ok m => simpa [Message.ofFrames, hd, Except.toOption] using ih.apply m

theorem handleFrame_of_not_takesEffect (s : LogStream) (t : String)
    (h : Message.takesEffect t = false) : (s.handleFrame t).2 = s := by
  unfold Message.takesEffect at h
  rw [handleFrame]
  cases hd : Message.decode t with
  | error f => rfl
  | ok m =>
    rw [hd] at h
    cases m with
    | serverError text detail => rfl
    | _ => cases h

theorem feed_filter (s : LogStream) (texts : List String) :
    s.feed (texts.filter Message.takesEffect) = s.feed texts := by
  induction texts using List.reverseRecOn with
  | nil => rfl
  | append_singleton texts t ih =>
    rw [List.filter_append, feed_concat]
    cases ht : Message.takesEffect t with
    | true => simp [ht, ih]
    | false => simpa [ht, handleFrame_of_not_takesEffect _ t ht] using ih

end LogStream

/-- Whatever frames come in: the table shows the rows of the events since it was last cleared, the
newest first and as many as the cap allows, each with the offset from the base time of its moment
and the number of events before it. A frame that clears the table tells how many rows there were,
and frames that take no effect can be left out. -/
theorem table_history (base : Instant) (maxRows : Nat) (texts : List String) :
    let s := (LogStream.empty base maxRows).feed texts
    let ms := Message.ofFrames texts
    s.table.rows = History.cut maxRows (History.rows base ms) ∧
      s.base = History.baseAfter base ms ∧
      s.table.received = (History.logs ms).length ∧
      (∀ t, Message.decode t = .ok .clear → (s.handleFrame t).1 =
        .ok (.cleared (History.cut maxRows (History.rows base ms)).length)) ∧
      ∀ other, other.filter Message.takesEffect = texts.filter Message.takesEffect →
        (LogStream.empty base maxRows).feed other = s := by
  intro s ms
  have h : LogStream.Tells base maxRows ms s := LogStream.tells_feed base maxRows texts
  refine ⟨h.rows, h.base, h.received, ?_, ?_⟩
  · intro t ht
    rw [LogStream.handleFrame, ht, ← h.rows]
    rfl
  · intro other hother
    rw [← LogStream.feed_filter _ other, hother, LogStream.feed_filter]

/-- A cap of two rows; the table is cleared, the base time is set, and a frame without effect comes
in between. -/
theorem table_history_of_seven_frames :
    let clear := "\x7b\"type\":\"clear\"\x7d"
    let before := ["\x7b\"type\":\"log\",\"log\":\x7b\"time\":60000\x7d\x7d", clear]
    let after := ["\x7b\"type\":\"log\",\"log\":\x7b\"time\":60000\x7d\x7d",
      "\x7b\"type\":\"basetime\",\"basetime\":30000\x7d",
      "\x7b\"type\":\"log\",\"log\":\x7b\"time\":33000\x7d\x7d",
      "\x7b\"type\":\"log\",\"log\":\x7b\"time\":34000\x7d\x7d"]
    ∃ s, s = (LogStream.empty .epoch 2).feed (before ++ "?" :: after) ∧
      s.table.rows.map (fun r => (r.seq, r.offset)) = [(3, 4), (2, 3)] ∧ s.table.received = 4 ∧
      Message.decode clear = .ok .clear ∧ (s.handleFrame clear).1 = .ok (.cleared 2) ∧
      Message.takesEffect "?" = false ∧
      (LogStream.empty .epoch 2).feed (before ++ after) = s := by
  intro clear before after
  have hnone : Message.takesEffect "?" = false := by decide +kernel
  have hclear : Message.decode clear = .ok .clear := by decide +kernel
  have hshown :
      (History.cut 2 (History.rows .epoch (Message.ofFrames (before ++ "?" :: after)))).map
        (fun r => (r.seq, r.offset)) = [(3, 4), (2, 3)] := by decide +kernel
  have hcount : (History.logs (Message.ofFrames (before ++ "?" :: after))).length = 4 := by
    decide +kernel
  obtain ⟨hrows, -, hreceived, hcleared, hsame⟩ :=
    table_history .epoch 2 (before ++ "?" :: after)
  have hlength := congrArg List.length hshown
  rw [List.length_map] at hlength
  refine ⟨_, rfl, ?_, hreceived.trans hcount, hclear, ?_, hnone, ?_⟩
  · rw [hrows, hshown]
  · exact (hcleared clear hclear).trans (by rw [hlength]; rfl)
  · apply hsame
    have hskip : ("?" :: after).filter Message.takesEffect =
        after.filter Message.takesEffect := List.filter_cons_of_neg (by simp [hnone])
    rw [List.filter_append, List.filter_append, hskip]

end LiveTail
