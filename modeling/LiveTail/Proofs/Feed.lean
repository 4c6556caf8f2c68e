import LiveTail.Proofs.Ahead
/-! What the log stream of a session has been fed. If no worker was ever let go, these are the texts
that the sockets delivered, in their order and each of them once, up to those still ahead of the
session. -/
namespace LiveTail

/-- A text that came in is news of a frame, and there is no other news of frames. -/
theorem Exchange.frames_news (x : Exchange) : frames x.news?.toList = x.received?.toList := by
  obtain ⟨call, reply⟩ := x
  cases call with
  | post e => cases e <;> cases reply <;> rfl
  | _ => cases reply <;> rfl

theorem Worker.frames_unposted (w : Worker) (h : ∀ t, w.phase ≠ .forwarding t) :
    frames w.unposted = [] := by
  obtain ⟨p, phase, n, b⟩ := w
  cases phase with
  | forwarding t => exact absurd rfl (h t)
  | _ => rfl

theorem LogStream.feed_append (s : LogStream) (a b : List String) :
    s.feed (a ++ b) = (s.feed a).feed b := List.foldl_append

namespace Scene

def outcome (c : Scene) : Act → List Event
  | .handle => c.batch.getD []
  | _ => []

theorem handled_attached (c : Scene) (k : Nat) (a : Act) (hk : c.attached = some k) :
    c.handled k a = c.outcome a := by
  cases a <;> simp [handled, outcome, share, hk]

/-- An act feeds the stream with the frames of the events that it handles, and with nothing else. -/
theorem stream_act (c : Scene) (a : Act) :
    (c.act a).session.stream = c.session.stream.feed (frames (c.outcome a)) ∧
      (c.act a).session.protocolErrors =
        c.session.protocolErrors + (frames (c.outcome a)).countP Message.isRejected := by
  cases a with
  | submit q =>
    rcases c.session.submit_cases q with ⟨-, h⟩ | ⟨f, h⟩ <;>
      cases hb : c.batch <;>
      simp [act, call, hb, h, outcome, LogStream.feed]
  | handle =>
    cases hb : c.batch with
    | none => simp [act, hb, outcome, LogStream.feed]
    | some events => simp [act, hb, outcome, Session.handleEvents_session]
  | drain budget => cases hb : c.batch <;> simp [act, hb, outcome, LogStream.feed, change]
  | fire | dropHook | step => exact ⟨rfl, rfl⟩
  | _ =>
    simp only [act, call]
    split <;> exact ⟨rfl, rfl⟩

/-- The stream has been fed all texts that a worker's sockets delivered but those still ahead. -/
def Fed (base : Instant) (maxRows : Nat) (c : Scene) (l : Line) : Prop :=
  ∃ fed, Tape.received l.tape = fed ++ frames (c.ahead l.link.serial l) ∧
    c.session.stream = (LogStream.empty base maxRows).feed fed ∧
    c.session.protocolErrors = fed.countP Message.isRejected

/-- A session that never had a worker has been fed nothing. -/
structure Unfed (base : Instant) (maxRows : Nat) (c : Scene) : Prop where
  batch : c.batch.getD [] = []
  stream : c.session.stream = .empty base maxRows
  errors : c.session.protocolErrors = 0

theorem Fed.quiet {base : Instant} {maxRows : Nat} {c : Scene} {a : Act} {l l' : Line}
    (h : Fed base maxRows c l) (hx : c.Quiet l'.link.serial a l l')
    (hs : l.link.serial = l'.link.serial) (hk : c.attached = some l'.link.serial)
    (hr : ¬ c.reattaches a) : Fed base maxRows (c.act a) l' := by
  obtain ⟨fed, hrec, hstream, herrors⟩ := h
  obtain ⟨hstream', herrors'⟩ := c.stream_act a
  have hahead := hx.ahead hr
  rw [c.handled_attached _ a hk] at hahead
  refine ⟨fed ++ frames (c.outcome a), ?_, ?_, ?_⟩
  · rw [hx.tape, hrec, hs, ← hahead, frames_append, List.append_assoc]
  · rw [hstream', hstream, LogStream.feed_append]
  · rw [herrors', herrors, List.countP_append]

theorem Fed.advance {base : Instant} {maxRows : Nat} {c : Scene} {l l' : Line} {x : Exchange}
    (h : Fed base maxRows c l) (hx : l.Advance x l') (hh : l.link.heard = true) (o : Reply) :
    Fed base maxRows (c.act (.step l'.link.serial o)) l' := by
  obtain ⟨fed, hrec, hstream, herrors⟩ := h
  refine ⟨fed, ?_, hstream, herrors⟩
  rw [(c.ahead_advance l'.link.serial o l l' x hx).2 hh, frames_append, x.frames_news, hx.tape,
    Tape.received_concat, hrec, hx.serial, List.append_assoc]

theorem former_act (c : Scene) (a : Act) (h : (c.act a).session.connection.former = []) :
    c.session.connection.former = [] ∧
      (c.reattaches a → c.session.connection.current = none) := by
  by_cases hr : c.reattaches a
  · have hf : (c.session.connection.current.map Link.detach).toList ++
        c.session.connection.former = [] := by
      rcases hr with ⟨hb, rfl | rfl⟩
      · rwa [← (c.act_connect hb).2.2]
      · rwa [← (c.act_close hb).2.2]
    obtain ⟨hn, hf⟩ := List.append_eq_nil_iff.1 hf
    exact ⟨hf, fun _ => by simpa using hn⟩
  · have hlen := (c.attached_act a hr).2.2
    rw [h, List.length_nil] at hlen
    exact ⟨List.eq_nil_of_length_eq_zero hlen.symm, fun hr' => absurd hr' hr⟩

theorem Unfed.act {base : Instant} {maxRows : Nat} {c : Scene} (h : Unfed base maxRows c) (a : Act)
    (hc : c.session.connection.current = none) : Unfed base maxRows (c.act a) := by
  obtain ⟨hbatch, hstream, herrors⟩ := h
  have hout : c.outcome a = [] := by
    cases a <;> first | exact hbatch | rfl
  obtain ⟨hstream', herrors'⟩ := c.stream_act a
  refine ⟨?_, ?_, ?_⟩
  · by_cases hh : a = .handle
    · subst hh
      simp only [Scene.act]
      split
      · rfl
      · exact hbatch
    · by_cases hd : ∃ b, a = .drain b
      · obtain ⟨b, rfl⟩ := hd
        simp only [Scene.act]
        split
        · exact hbatch
        · simp [Connection.drain, hc]
      · rw [c.batch_act a (fun b hb => hd ⟨b, hb⟩) hh, hbatch]
  · rw [hstream', hstream, hout]
    rfl
  · rw [herrors', herrors, hout]
    rfl

/-- The state of the stream as long as no worker was let go. -/
def Following (base : Instant) (maxRows : Nat) (c : Scene) : Prop :=
  match c.session.connection.current with
  | some l => Fed base maxRows c ⟨l, c.tape l.serial⟩
  | none => Unfed base maxRows c

theorem following_act {base : Instant} {maxRows : Nat} {c : Scene} (hs : c.Sound)
    (h : Following base maxRows c) (a : Act)
    (hr : c.reattaches a → c.session.connection.current = none) :
    Following base maxRows (c.act a) := by
  cases hc' : (c.act a).session.connection.current with
  | some l' =>
    rcases c.attached_act_cases a l' hc' with
      ⟨hb, rfl, rfl⟩ | ⟨hre, hk, l, hl, hserial, hx | ⟨⟨o, rfl⟩, x, hx⟩⟩
    · -- the first worker, which has not said anything yet
      have hc := hr ⟨hb, .inl rfl⟩
      simp only [Following, hc] at h
      have hunfed := h.act .connect hc
      obtain ⟨hl, ht⟩ := hs.fresh _ (Nat.le_refl c.session.connection.started)
      simp only [Following, hc']
      refine ⟨[], ?_, hunfed.stream, hunfed.errors⟩
      simp [Link.start, Worker.start, ahead, share, hunfed.batch, Worker.unposted,
        c.tape_act _ _ hl, ht, Tape.received]
    · simp only [Following, hl, hserial] at h
      simp only [Following, hc']
      exact h.quiet hx hserial hk hre
    · simp only [Following, hl, hserial] at h
      simp only [Following, hc']
      exact h.advance hx (hs.heard l hl) o
  | none =>
    have hc : c.session.connection.current = none := by
      by_cases hre : c.reattaches a
      · exact hr hre
      · have hat := (c.attached_act a hre).1
        simp only [attached, hc', Option.map_none] at hat
        exact Option.map_eq_none_iff.1 hat.symm
    simp only [Following, hc] at h
    simpa only [Following, hc'] using h.act a hc

theorem following_run (policy : ReconnectPolicy) (base : Instant) (maxRows : Nat) (acts : List Act)
    (h : ((start policy base maxRows).run acts).session.connection.former = []) :
    Following base maxRows ((start policy base maxRows).run acts) := by
  induction acts using List.reverseRecOn with
  | nil => exact ⟨rfl, rfl, rfl⟩
  | append_singleton acts a ih =>
    rw [run_concat] at h ⊢
    obtain ⟨hf, hr⟩ := former_act _ a h
    exact following_act (sound_run policy base maxRows acts) (ih hf) a hr

end Scene

/-- If no worker was ever let go, then between two calls of the session its stream is what a new one
becomes by a prefix of the texts that the sockets delivered, in order and each of them once, and it
has counted those that are no message, apart from those without a type. The prefix is everything
once no event is queued and the worker holds no text that it has still to post. -/
theorem stream_fed_in_order (policy : ReconnectPolicy) (base : Instant) (maxRows : Nat)
    (acts : List Act) (c : Scene) (hc : c = (Scene.start policy base maxRows).run acts)
    (hformer : c.session.connection.former = []) (hb : c.batch = none) (l : Link)
    (hl : c.session.connection.current = some l) :
    ∃ fed, fed <+: Tape.received (c.tape l.serial) ∧
      c.session.stream = (LogStream.empty base maxRows).feed fed ∧
      c.session.protocolErrors = fed.countP Message.isRejected ∧
      (l.events = [] → (∀ t, l.worker.phase ≠ .forwarding t) →
        fed = Tape.received (c.tape l.serial)) := by
  subst hc
  have h := Scene.following_run policy base maxRows acts hformer
  simp only [Scene.Following, hl] at h
  obtain ⟨fed, hrec, hstream, herrors⟩ := h
  refine ⟨fed, ⟨_, hrec.symm⟩, hstream, herrors, ?_⟩
  intro he hp
  have hnone := l.worker.frames_unposted hp
  simp only [Scene.ahead, Scene.share, hb, he, Option.getD_none, ite_self, List.nil_append, hnone,
    List.append_nil] at hrec
  exact hrec.symm

/-- One frame that is no message and one without a type, with a pump in between. -/
theorem stream_fed_of_two :
    let acts : List Act := [.connect, .step 0 .done, .step 0 .opened, .step 0 .done,
      .step 0 .nothing, .step 0 (.text "?"), .step 0 .done, .drain (some 3), .handle,
      .step 0 .nothing, .step 0 (.text "\x7b\x7d"), .step 0 .done, .drain none, .handle]
    let c := (Scene.start .disabled .epoch 10).run acts
    c.session.connection.former = [] ∧ c.batch = none ∧
      ∃ l, c.session.connection.current = some l ∧ l.events = [] ∧
        (∀ t, l.worker.phase ≠ .forwarding t) ∧
        Tape.received (c.tape l.serial) = ["?", "\x7b\x7d"] ∧
        c.session.stream =
          (LogStream.empty .epoch 10).feed (Tape.received (c.tape l.serial)) ∧
        c.session.protocolErrors = 1 := by
  intro acts c
  have hf : c.session.connection.former = [] := by decide +kernel
  have hb : c.batch = none := by decide +kernel
  obtain ⟨l, hl⟩ := Option.isSome_iff_exists.1
    (show c.session.connection.current.isSome = true by decide +kernel)
  have hq : c.session.connection.current.map (fun l => (l.events, l.worker.phase, l.serial)) =
      some ([], .polling, 0) := by decide +kernel
  rw [hl, Option.map_some, Option.some_inj, Prod.mk.injEq, Prod.mk.injEq] at hq
  obtain ⟨he, hp, hs⟩ := hq
  have hphase : ∀ t, l.worker.phase ≠ .forwarding t := by simp [hp]
  have hrec : Tape.received (c.tape 0) = ["?", "\x7b\x7d"] := by decide +kernel
  have herr : c.session.protocolErrors = 1 := by decide +kernel
  obtain ⟨fed, -, hstream, -, hall⟩ :=
    stream_fed_in_order .disabled .epoch 10 acts c rfl hf hb l hl
  rw [hall he hphase] at hstream
  exact ⟨hf, hb, l, hl, he, hphase, by rw [hs, hrec], hstream, herr⟩

end LiveTail
