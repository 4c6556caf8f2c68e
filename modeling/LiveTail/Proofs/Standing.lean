import LiveTail.Proofs.Delivery
import LiveTail.Proofs.Grammar
import LiveTail.Proofs.Isolation
/-! The state that a session shows, and where its worker stands. The state is what the events
that were handled come to; once none is left in the queue, it tells what the worker has said about
its present attempt. -/
namespace LiveTail

/-- What a worker has said when a state is the right one. It is on its way to a socket if it has
said nothing, or announced an attempt and not yet how it went; it has one if it said that it opened
and brought nothing but frames since; and it has none after a fault or an end. -/
def ConnectionState.SaidBy : ConnectionState → List Event → Prop
  | .connecting, said => said = [] ∨ ∃ earlier n, said = earlier ++ [.connecting n]
  | .connected, said =>
    ∃ earlier, ∃ texts : List String, said = earlier ++ .opened :: texts.map .frame
  | .disconnected, said =>
    ∃ earlier e, said = earlier ++ [e] ∧ ((∃ m, e = .error m) ∨ ∃ r, e = .closed r)

theorem ConnectionState.foldl_after_frames (s : ConnectionState) (texts : List String) :
    (texts.map Event.frame).foldl after s = s := by
  induction texts with
  | nil => rfl
  | cons t r ih => exact ih

theorem ConnectionState.SaidBy.foldl_after {s : ConnectionState} {said : List Event}
    (h : s.SaidBy said) : said.foldl after .connecting = s := by
  cases s with
  | connecting =>
    rcases h with rfl | ⟨earlier, n, rfl⟩
    · rfl
    · rw [List.foldl_concat]
      rfl
  | connected =>
    obtain ⟨earlier, texts, rfl⟩ := h
    rw [List.foldl_append, List.foldl_cons, foldl_after_frames]
    rfl
  | disconnected =>
    obtain ⟨earlier, e, rfl, ⟨m, rfl⟩ | ⟨r, rfl⟩⟩ := h
    all_goals
      rw [List.foldl_concat]
      rfl

/-- The last word of an attempt is how it ended. Before that only a fault tells of the end. -/
theorem Attempt.events_concat (a : Attempt) (k : Nat) (earlier : List Event) :
    ∃ before, a.events k = before ++ [.closed a.reason] ∧
      (if a.reason = .failed then ConnectionState.disconnected else .connected).SaidBy
        (earlier ++ before) := by
  cases a with
  | refused m =>
    exact ⟨[.connecting k, .error m], rfl, earlier ++ [.connecting k], .error m, by simp,
      .inl ⟨m, rfl⟩⟩
  | opened texts ending =>
    have hopen : ConnectionState.connected.SaidBy
        (earlier ++ .connecting k :: .opened :: texts.map .frame) :=
      ⟨earlier ++ [.connecting k], texts, by simp⟩
    cases ending with
    | here | remote => exact ⟨.connecting k :: .opened :: texts.map .frame, rfl, hopen⟩
    | failed m =>
      refine ⟨.connecting k :: .opened :: texts.map .frame ++ [.error m], ?_, ?_⟩
      · simp [events, Ending.events, reason, Ending.reason]
      · exact ⟨_, .error m, (List.append_assoc _ _ _).symm, .inl ⟨m, rfl⟩⟩

theorem saidBy_numbered (earlier : List Attempt) (last : Attempt) :
    ConnectionState.disconnected.SaidBy (Attempt.numbered 1 (earlier ++ [last])) := by
  obtain ⟨before, hlast, -⟩ := last.events_concat (Attempt.number earlier) []
  rw [Attempt.numbered_concat, hlast, ← List.append_assoc]
  exact ⟨_, _, rfl, .inr ⟨last.reason, rfl⟩⟩

theorem saidBy_of_unended {said : List Event} {earlier : List Attempt} {last : Attempt}
    (h : said ++ [.closed last.reason] = Attempt.numbered 1 (earlier ++ [last])) :
    (if last.reason = .failed then ConnectionState.disconnected else .connected).SaidBy said := by
  obtain ⟨before, hlast, hsaid⟩ :=
    last.events_concat (Attempt.number earlier) (Attempt.numbered 1 earlier)
  rw [Attempt.numbered_concat, hlast, ← List.append_assoc] at h
  rw [List.append_cancel_right h]
  exact hsaid

namespace Worker

/-- Where a worker stands as far as it has told. Before its first word it counts as on its way; a
fault is told before the socket is closed, and any other end after that. -/
def standing (w : Worker) (said : List Event) : ConnectionState :=
  match w.phase with
  | .announcing => if said = [] then .connecting else .disconnected
  | .connecting | .opening | .refused _ => .connecting
  | .polling | .sending _ | .receiving | .forwarding _ | .breaking _ => .connected
  | .hangingUp r | .ended r => if r = .failed then .disconnected else .connected
  | .waiting | .stopping | .gone => .disconnected

end Worker

/-- A worker that is heard has said what fits where it stands. -/
theorem Stage.saidBy {said : List Event} {w : Worker} (h : Stage true said w) :
    (w.standing said).SaidBy said := by
  obtain ⟨p, phase, n, b⟩ := w
  cases phase with
  | announcing =>
    obtain ⟨earlier, -, rfl, -⟩ := h
    rcases List.eq_nil_or_concat earlier with rfl | ⟨before, last, rfl⟩
    · exact .inl rfl
    · have hover := saidBy_numbered before last
      have hne : Attempt.numbered 1 (before ++ [last]) ≠ [] := by
        obtain ⟨init, e, he, -⟩ := hover
        simp [he]
      simpa [Worker.standing, hne] using hover
  | connecting | refused | opening =>
    obtain ⟨earlier, -, rfl, -⟩ := h
    exact .inr ⟨_, _, rfl⟩
  | polling | sending | receiving | forwarding | breaking =>
    obtain ⟨earlier, texts, -, rfl, -⟩ := h
    exact ⟨Attempt.numbered 1 earlier ++ [.connecting (Attempt.number earlier)], texts, by simp⟩
  | hangingUp r | ended r =>
    obtain ⟨earlier, last, -, rfl, hs, -⟩ := h
    exact saidBy_of_unended hs
  | waiting | stopping =>
    obtain ⟨earlier, last, -, rfl, -⟩ := h
    exact saidBy_numbered earlier last
  | gone =>
    cases h.2 rfl with
    | ended earlier last ha => exact saidBy_numbered earlier last
    | stopped earlier last ha hl => exact ⟨_, _, rfl, .inr ⟨_, rfl⟩⟩

namespace Scene

/-- The state is what those events of the attached worker come to that have been handled: all that
it posted but the batch and the queue. -/
def Abreast (c : Scene) : Prop :=
  ∀ l, c.session.connection.current = some l → ∃ handled,
    Tape.posted (c.tape l.serial) = handled ++ (c.batch.getD [] ++ l.events) ∧
      c.session.state = handled.foldl ConnectionState.after .connecting

theorem Abreast.act {c : Scene} (h : c.Abreast) (hc : c.Sound) (a : Act) : (c.act a).Abreast := by
  intro l' hl'
  rcases c.attached_act_cases a l' hl' with
    ⟨hb, rfl, rfl⟩ | ⟨hr, hk, l, hl, hs, hx | ⟨⟨o, rfl⟩, x, hx⟩⟩
  · -- a new worker has posted nothing
    obtain ⟨hnone, ht⟩ := hc.fresh _ (Nat.le_refl c.session.connection.started)
    have htape : (c.act .connect).tape c.session.connection.started = [] :=
      (c.tape_act .connect _ hnone).trans ht
    have hb' := (c.batch_act .connect (by simp) (by simp)).trans hb
    refine ⟨[], ?_, ?_⟩
    · simp [Link.start, htape, hb', Tape.posted]
    · simp [Scene.act, call, hb, Session.connect, Session.state, Connection.connect]
  · obtain ⟨handled, hposted, hstate⟩ := h l hl
    have hk' := (c.attached_act a hr).1.trans hk
    have hahead := hx.ahead hr
    have htape : (c.act a).tape l'.serial = c.tape l'.serial := hx.tape
    have hworker : l'.worker = l.worker := hx.worker
    simp only [ahead, share, hk, hk', if_true, hworker, ← List.append_assoc] at hahead
    have hrest := List.append_cancel_right hahead
    rw [List.append_assoc] at hrest
    -- what the act handles goes from the rest to what has been handled
    refine ⟨handled ++ c.handled l'.serial a, ?_, ?_⟩
    · rw [htape, ← hs, hposted, hs, List.append_assoc, hrest]
    · rw [c.state_act l'.serial a hk hr, hstate, List.foldl_append]
  · obtain ⟨handled, hposted, hstate⟩ := h l hl
    have htape : (c.act (.step l'.serial o)).tape l'.serial = c.tape l'.serial ++ [x] := hx.tape
    have hevents : l'.events = l.events ++ x.posted?.toList := hx.events
    refine ⟨handled, ?_, hstate⟩
    rw [htape, Tape.posted_concat, hevents, ← hs, hposted]
    simp only [List.append_assoc]
    rfl

theorem abreast_run (policy : ReconnectPolicy) (base : Instant) (maxRows : Nat) (acts : List Act) :
    ((start policy base maxRows).run acts).Abreast := by
  apply kept_run
  · intro l hl
    cases hl
  · intro c hc h a
    exact h.act hc a

theorem stage_attached (policy : ReconnectPolicy) (base : Instant) (maxRows : Nat)
    (acts : List Act) (c : Scene) (hc : c = (start policy base maxRows).run acts) (l : Link)
    (hl : c.session.connection.current = some l) :
    Stage true (Tape.posted (c.tape l.serial)) l.worker := by
  obtain ⟨moves, hm⟩ := exists_moves policy base maxRows acts c hc _ _ (c.line?_attached l hl)
  have hspoken := spoken_run l.serial policy moves
  have hheard := (hc ▸ sound_run policy base maxRows acts).heard l hl
  rw [← hm] at hspoken
  rw [hspoken.all hheard, ← hheard]
  exact hspoken.stage

end Scene

/-- Whenever the session is between two calls and the attached worker has no event left in the
queue, the state is the one that fits what the worker has said, and so where it stands. Without a
worker the session is disconnected. -/
theorem state_agrees_with_worker (policy : ReconnectPolicy) (base : Instant) (maxRows : Nat)
    (acts : List Act) (c : Scene) (hc : c = (Scene.start policy base maxRows).run acts)
    (hb : c.batch = none) :
    (∀ l, c.session.connection.current = some l → l.events = [] →
      (∀ s, c.session.state = s ↔ s.SaidBy (Tape.posted (c.tape l.serial))) ∧
      c.session.state = l.worker.standing (Tape.posted (c.tape l.serial))) ∧
    (c.session.connection.current = none → c.session.state = .disconnected) := by
  constructor
  · intro l hl hempty
    have hsaid := (Scene.stage_attached policy base maxRows acts c hc l hl).saidBy
    obtain ⟨handled, hposted, hstate⟩ :=
      (hc ▸ Scene.abreast_run policy base maxRows acts : c.Abreast) l hl
    rw [hb, hempty, Option.getD_none, List.append_nil, List.append_nil] at hposted
    rw [← hposted] at hstate
    -- what the worker has said leaves no choice, for each state asks for another last word
    have hstand := hstate.trans hsaid.foldl_after
    refine ⟨fun s => ⟨?_, ?_⟩, hstand⟩
    · rintro rfl
      rw [hstand]
      exact hsaid
    · intro h
      exact hstate.trans h.foldl_after
  · intro hn
    exact ((hc ▸ Scene.grounded_run policy base maxRows acts : c.Grounded).detached hn).1

/-- The socket has failed and that is known, but the worker has still to close it. -/
theorem state_agrees_after_fault :
    let policy := ReconnectPolicy.withBackoff (.ofMillis 500) (.ofMillis 500)
    let acts : List Act := [.connect, .step 0 .done, .step 0 .opened, .step 0 .done, .drain none,
      .handle, .step 0 .nothing, .step 0 (.failed "reset"), .step 0 .done, .drain none, .handle]
    let c := (Scene.start policy .epoch 10).run acts
    c.batch = none ∧ ∃ l, c.session.connection.current = some l ∧ l.events = [] ∧
      l.worker.phase = .hangingUp .failed ∧ c.session.state = .disconnected ∧
      ConnectionState.disconnected.SaidBy (Tape.posted (c.tape l.serial)) := by
  intro policy acts c
  have hb : c.batch = none := by decide +kernel
  obtain ⟨l, hl⟩ := Option.isSome_iff_exists.1
    (show c.session.connection.current.isSome = true by decide +kernel)
  have hat : c.session.connection.current.map (fun l => (l.events, l.worker.phase)) =
      some ([], .hangingUp .failed) := by decide +kernel
  rw [hl, Option.map_some, Option.some_inj, Prod.mk.injEq] at hat
  obtain ⟨hsaid, hstand⟩ :=
    (state_agrees_with_worker policy .epoch 10 acts c rfl hb).1 l hl hat.1
  have hstate : c.session.state = .disconnected := by
    rw [hstand, Worker.standing, hat.2]
    rfl
  exact ⟨hb, l, hl, hat.1, hat.2, hstate, (hsaid _).1 hstate⟩

end LiveTail
