import LiveTail.Proofs.Cuts
import LiveTail.Proofs.Descent
import LiveTail.Screen.State
/-! The selected row. A click selects the row that it hits, and from then on the selection is that
very row or nothing, whatever comes in: it ends when the table is cleared or when the row falls off
the bottom, and its number never comes to stand for another row. -/
namespace LiveTail

theorem Message.any_isClear_iff (texts : List String) :
    texts.any Message.isClear = true ↔ .clear ∈ Message.ofFrames texts := by
  have hone (t : String) : Message.isClear t = true ↔ decode t = .ok .clear := by
    unfold Message.isClear
    split
    · rename_i h
      simp [h]
    · rename_i h
      simpa using h
  rw [List.any_eq_true, ofFrames, List.mem_filterMap]
  refine exists_congr fun t => and_congr_right fun _ => ?_
  rw [hone]
  cases decode t <;> simp [Except.toOption]

theorem LogTable.isSome_find?_iff (t : LogTable) (seq : Nat) :
    (t.find? seq).isSome = true ↔ ∃ r ∈ t.rows, r.seq = seq := by
  simp [find?, List.find?_isSome]

/-- The messages that the next pump finds. -/
def Session.incoming (s : Session) (budget : Option Nat) : List Message :=
  Message.ofFrames (frames (s.connection.drain budget).1)

namespace Screen

def table (s : Screen) : LogTable := s.session.stream.table

/-- A pump feeds the stream with the frames that it takes, and tells whether one of them cleared
the table. -/
theorem session_pump (s : Screen) (budget : Option Nat) :
    (s.pump budget).2.session.stream =
        s.session.stream.feed (frames (s.session.connection.drain budget).1) ∧
      ((s.pump budget).1.cleared = true ↔ .clear ∈ s.session.incoming budget) := by
  let drained : Session :=
    { s.session with connection := (s.session.connection.drain budget).2 }
  have hsession : (s.pump budget).2.session =
      (drained.handleEvents (s.session.connection.drain budget).1).2 := by
    simp only [pump, apply_ite Screen.session, ite_self]
    rfl
  have htally := drained.handleEvents_tally (s.session.connection.drain budget).1
  have hcleared : (s.pump budget).1.cleared =
      (frames (s.session.connection.drain budget).1).any Message.isClear :=
    congrArg Tally.cleared htally
  refine ⟨?_, ?_⟩
  · rw [hsession, Session.handleEvents_session]
  · rw [hcleared, Message.any_isClear_iff, Session.incoming]

theorem selected_pump (s : Screen) (budget : Option Nat) : (s.pump budget).2.selected =
    (if (s.pump budget).1.cleared then none else s.selected).filter
      (fun seq => ((s.pump budget).2.table.find? seq).isSome) := by
  simp only [pump, table, apply_ite Screen.session, apply_ite Screen.selected, ite_self]

theorem submit_stream (s : Screen) :
    s.submit.session.stream = s.session.stream ∧ s.submit.selected = s.selected := by
  unfold submit
  rcases s.session.submit_cases s.input with ⟨-, h⟩ | ⟨f, h⟩
  · rw [h]
    exact ⟨rfl, rfl⟩
  · rw [h]
    exact ⟨rfl, rfl⟩

end Screen

/-- What can happen to a window: its user clicks on the row at a place, types, submits, connects or
disconnects; events are taken from the worker; a hook is handed out; or the workers go on. -/
inductive Gesture where
  | click (place : Nat)
  | type (text : String)
  | submit
  | reconnect
  | disconnect
  | pump (budget : Option Nat)
  | takeHook
  | stir (stir : Stir)
  deriving DecidableEq, Repr

/-- A window, and the row that was clicked last as it stood at that moment. -/
structure Sitting where
  screen : Screen
  clicked : Option LogRow

namespace Sitting

/-- Changes the connection. -/
def change (v : Sitting) (f : Connection → Connection) : Sitting :=
  { v with screen := { v.screen with
      session := { v.screen.session with connection := f v.screen.session.connection } } }

/-- The window after a gesture; where there is no row a click does nothing. -/
def act (v : Sitting) : Gesture → Sitting
  | .click place =>
    match v.screen.table.rows[place]? with
    | some r => ⟨v.screen.toggleRow r.seq, some r⟩
    | none => v
  | .type text => { v with screen := { v.screen with input := text } }
  | .submit => { v with screen := v.screen.submit }
  | .reconnect => { v with screen := v.screen.reconnect }
  | .disconnect => { v with screen := v.screen.disconnect }
  | .pump budget => { v with screen := (v.screen.pump budget).2 }
  | .takeHook => v.change (fun c => c.hook.2)
  | .stir a => v.change (·.stir a)

def run (v : Sitting) (gestures : List Gesture) : Sitting := gestures.foldl act v

@[simp] theorem run_concat (v : Sitting) (gestures : List Gesture) (g : Gesture) :
    v.run (gestures ++ [g]) = (v.run gestures).act g := by
  simp [run]

/-- A window that opens on a session whose stream has been fed some frames. -/
def start (session : Session) (base : Instant) (maxRows : Nat) (texts : List String)
    (endpoint pageUrl : String) : Sitting :=
  ⟨.new { session with stream := (LogStream.empty base maxRows).feed texts } endpoint pageUrl, none⟩

/-- What a sitting keeps: its table is sound, and the selected row is the one that was clicked and
is still there. -/
structure Steady (maxRows : Nat) (v : Sitting) : Prop where
  table : v.screen.table.Sound
  cap : v.screen.table.cap = (LogTable.empty maxRows).cap
  kept : ∀ seq, v.screen.selected = some seq →
    ∃ r, v.clicked = some r ∧ r.seq = seq ∧ r ∈ v.screen.table.rows

theorem steady_start (session : Session) (base : Instant) (maxRows : Nat) (texts : List String)
    (endpoint pageUrl : String) :
    Steady maxRows (start session base maxRows texts endpoint pageUrl) := by
  obtain ⟨hpassed, hsound⟩ :=
    LogStream.passed_feed (.empty base maxRows) (LogTable.sound_empty maxRows) texts
  exact ⟨hsound, hpassed.cap, fun seq hseq => by cases hseq⟩

/-- What leaves the stream and the selection alone keeps the sitting as it is. -/
theorem Steady.of_same {maxRows : Nat} {v v' : Sitting} (h : Steady maxRows v)
    (hstream : v'.screen.session.stream = v.screen.session.stream)
    (hselected : v'.screen.selected = v.screen.selected) (hclicked : v'.clicked = v.clicked) :
    Steady maxRows v' := by
  have htable : v'.screen.table = v.screen.table := congrArg LogStream.table hstream
  constructor
  · rw [htable]
    exact h.table
  · rw [htable]
    exact h.cap
  · rw [htable, hselected, hclicked]
    exact h.kept

theorem Steady.click {maxRows : Nat} {v : Sitting} (h : Steady maxRows v) (place : Nat) :
    Steady maxRows (v.act (.click place)) := by
  simp only [act]
  split
  · rename_i r hr
    have hmem : r ∈ v.screen.table.rows := List.mem_of_getElem? hr
    refine ⟨h.table, h.cap, ?_⟩
    intro seq hseq
    simp only [Screen.toggleRow] at hseq
    split at hseq
    · cases hseq
    · exact ⟨r, rfl, Option.some.inj hseq, hmem⟩
  · exact h

/-- A pump takes the stream on to the messages that come in. -/
theorem Steady.passed {maxRows : Nat} {v : Sitting} (h : Steady maxRows v) (budget : Option Nat) :
    LogStream.Passed v.screen.session.stream (v.screen.session.incoming budget)
      (v.screen.pump budget).2.session.stream ∧ (v.screen.pump budget).2.table.Sound := by
  have hstream := (v.screen.session_pump budget).1
  have hpassed := LogStream.passed_feed v.screen.session.stream h.table
    (frames (v.screen.session.connection.drain budget).1)
  rw [← hstream] at hpassed
  exact hpassed

/-- If a row of the number of an old one is there after a pump, it is the old one, and the table has
not been cleared. -/
theorem Steady.eq_of_seq {maxRows : Nat} {v : Sitting} (h : Steady maxRows v)
    (budget : Option Nat) {r a : LogRow} (hr : r ∈ v.screen.table.rows)
    (ha : a ∈ (v.screen.pump budget).2.table.rows) (hseq : a.seq = r.seq) :
    a = r ∧ .clear ∉ v.screen.session.incoming budget := by
  have hlt : a.seq < v.screen.table.received := by
    rw [hseq]
    exact h.table.below r hr
  obtain ⟨hclear, hold⟩ := (h.passed budget).1.mem_of_lt ha hlt
  exact ⟨h.table.eq_of_seq hold hr hseq, hclear⟩

/-- After a pump the selection is what it was if its row is still there, and nothing if it is not;
whether the table was cleared makes no difference beyond that. -/
theorem Steady.selected_pump_iff {maxRows : Nat} {v : Sitting} (h : Steady maxRows v)
    (budget : Option Nat) (seq : Nat) : (v.screen.pump budget).2.selected = some seq ↔
      v.screen.selected = some seq ∧ ∃ a ∈ (v.screen.pump budget).2.table.rows, a.seq = seq := by
  rw [Screen.selected_pump, Option.filter_eq_some_iff, LogTable.isSome_find?_iff]
  refine and_congr_left ?_
  rintro ⟨a, ha, hseq⟩
  constructor
  · intro hselected
    split at hselected
    · cases hselected
    · exact hselected
  · intro hselected
    obtain ⟨r, -, hr, hmem⟩ := h.kept seq hselected
    have hclear := (h.eq_of_seq budget hmem ha (hseq.trans hr.symm)).2
    rw [if_neg (mt (v.screen.session_pump budget).2.1 hclear)]
    exact hselected

theorem Steady.pump {maxRows : Nat} {v : Sitting} (h : Steady maxRows v) (budget : Option Nat) :
    Steady maxRows (v.act (.pump budget)) := by
  obtain ⟨hpassed, hsound⟩ := h.passed budget
  refine ⟨hsound, hpassed.cap.trans h.cap, ?_⟩
  intro seq hseq
  obtain ⟨hselected, a, ha, haseq⟩ := (h.selected_pump_iff budget seq).1 hseq
  obtain ⟨r, hclicked, hr, hmem⟩ := h.kept seq hselected
  have har := (h.eq_of_seq budget hmem ha (haseq.trans hr.symm)).1
  exact ⟨r, hclicked, hr, har ▸ ha⟩

theorem Steady.act {maxRows : Nat} {v : Sitting} (h : Steady maxRows v) (g : Gesture) :
    Steady maxRows (v.act g) := by
  cases g with
  | click place => exact h.click place
  | pump budget => exact h.pump budget
  | submit =>
    obtain ⟨hstream, hselected⟩ := v.screen.submit_stream
    exact h.of_same hstream hselected rfl
  | type | reconnect | disconnect | takeHook | stir => exact h.of_same rfl rfl rfl

theorem steady_run (session : Session) (base : Instant) (maxRows : Nat) (texts : List String)
    (endpoint pageUrl : String) (gestures : List Gesture) :
    Steady maxRows ((start session base maxRows texts endpoint pageUrl).run gestures) := by
  induction gestures using List.reverseRecOn with
  | nil => exact steady_start session base maxRows texts endpoint pageUrl
  | append_singleton gestures g ih =>
    rw [run_concat]
    exact ih.act g

end Sitting

/-- Whatever is done to a window and whatever comes in: as long as a number is selected, there is
exactly one row of that number, and it is the row that was clicked, unchanged. A pump keeps the
selection exactly if a row of that number is still in the table, and a row is still there exactly if
no message cleared the table and the new rows above it leave it a place under the cap. So if a pump
tells that the table was cleared, a search for the selected row finds nothing. -/
theorem selection_keeps_row (session : Session) (base : Instant) (maxRows : Nat)
    (texts : List String) (endpoint pageUrl : String) (gestures : List Gesture) (v : Sitting)
    (hv : v = (Sitting.start session base maxRows texts endpoint pageUrl).run gestures) :
    (∀ seq, v.screen.selected = some seq → ∃ r, v.clicked = some r ∧
      v.screen.table.rows.filter (fun a => a.seq = seq) = [r] ∧
      v.screen.selectedRow? = some r) ∧
    ∀ budget,
      let ms := v.screen.session.incoming budget
      let after := (v.screen.pump budget).2
      (∀ seq, after.selected = some seq ↔
        v.screen.selected = some seq ∧ ∃ a ∈ after.table.rows, a.seq = seq) ∧
      (∀ i r, v.screen.table.rows[i]? = some r → ((∃ a ∈ after.table.rows, a.seq = r.seq) ↔
        .clear ∉ ms ∧ (maxRows ≠ 0 → i + (History.logs ms).length < maxRows))) ∧
      ((v.screen.pump budget).1.cleared = true → ∀ seq, v.screen.selected = some seq →
        after.table.find? seq = none) := by
  have h : v.Steady maxRows :=
    hv ▸ Sitting.steady_run session base maxRows texts endpoint pageUrl gestures
  refine ⟨?_, ?_⟩
  · intro seq hseq
    obtain ⟨r, hclicked, rfl, hmem⟩ := h.kept seq hseq
    refine ⟨r, hclicked, h.table.filter_eq hmem, ?_⟩
    rw [Screen.selectedRow?, hseq]
    exact h.table.find?_eq hmem
  · intro budget ms after
    refine ⟨h.selected_pump_iff budget, ?_, ?_⟩
    · intro i r hr
      have hmem : r ∈ v.screen.table.rows := List.mem_of_getElem? hr
      have hstays : (∃ a ∈ after.table.rows, a.seq = r.seq) ↔ r ∈ after.table.rows := by
        constructor
        · rintro ⟨a, ha, hseq⟩
          exact (h.eq_of_seq budget hmem ha hseq).1 ▸ ha
        · intro hr'
          exact ⟨r, hr', rfl⟩
      have hcap : (∀ n, v.screen.table.cap = some n → i + (History.logs ms).length < n) ↔
          (maxRows ≠ 0 → i + (History.logs ms).length < maxRows) := by
        rw [h.cap]
        by_cases hzero : maxRows = 0 <;> simp [LogTable.empty, hzero]
      rw [hstays, ← hcap]
      exact (h.passed budget).1.mem_iff h.table hr
    · intro hcleared seq hseq
      obtain ⟨r, -, rfl, hmem⟩ := h.kept seq hseq
      have hclear := (v.screen.session_pump budget).2.1 hcleared
      apply Option.not_isSome_iff_eq_none.1
      rw [LogTable.isSome_find?_iff]
      rintro ⟨a, ha, haseq⟩
      exact (h.eq_of_seq budget hmem ha haseq).2 hclear

/-- With two rows at most, a new row leaves the selected one the last place, and the next one takes
that from it. -/
theorem selection_keeps_row_of_two :
    let log := "\x7b\"type\":\"log\",\"log\":\x7b\"time\":0\x7d\x7d"
    let session := (Session.new (.new .disabled) .epoch 2).connect
    let step (r : Reply) : Gesture := .stir (.step 0 r)
    let opened := [step .done, step .opened, step .done]
    let received := [step .nothing, step (.text log), step .done]
    let v := (Sitting.start session .epoch 2 [log, log] "" "").run
      (.click 0 :: opened ++ received ++ .pump none :: received)
    v.screen.selected = some 1 ∧
      (∃ r, v.clicked = some r ∧ v.screen.table.rows.filter (fun a => a.seq = 1) = [r] ∧
        v.screen.selectedRow? = some r) ∧
      (v.screen.pump none).2.selected = none := by
  intro log session step opened received v
  obtain ⟨hkept, hpump⟩ := selection_keeps_row session .epoch 2 [log, log] "" "" _ v rfl
  obtain ⟨hiff, hstays, -⟩ := hpump none
  have hselected : v.screen.selected = some 1 := by decide +kernel
  have hplace : v.screen.table.rows[1]?.map LogRow.seq = some 1 := by decide +kernel
  have hlogs : (History.logs (v.screen.session.incoming none)).length = 1 := by decide +kernel
  refine ⟨hselected, hkept 1 hselected, ?_⟩
  apply Option.eq_none_iff_forall_ne_some.2
  intro seq hseq
  obtain ⟨hold, hrow⟩ := (hiff seq).1 hseq
  obtain ⟨r, hr, hone⟩ := Option.map_eq_some_iff.1 hplace
  have hnumber : seq = r.seq := by
    rw [hone]
    exact Option.some.inj (hold.symm.trans hselected)
  have hroom : 1 + (History.logs (v.screen.session.incoming none)).length < 2 :=
    ((hstays 1 r hr).1 (hnumber ▸ hrow)).2 (by decide)
  rw [hlogs] at hroom
  exact absurd hroom (by decide)

end LiveTail
