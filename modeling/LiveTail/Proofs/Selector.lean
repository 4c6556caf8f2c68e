import LiveTail.Proofs.Ahead
/-! Which selector a socket has got. Once the session has handled all events of its worker and the
worker has no command left, the last text that its socket was given is the selector that is being
followed, however the calls of the session and the steps of the worker went. -/
namespace LiveTail

/-- Whether the worker goes to and fro between its socket and its queues. -/
def Worker.pumps (w : Worker) : Bool :=
  match w.phase with
  | .polling | .sending _ | .receiving | .forwarding _ | .breaking _ | .hangingUp _ => true
  | _ => false

theorem Worker.pumps_cases (w : Worker) (h : w.pumps = true) :
    w.holds = true ∧ lastTransition w.unposted = none := by
  obtain ⟨p, phase, n, b⟩ := w
  cases phase <;> first | exact ⟨rfl, rfl⟩ | cases h

theorem lastTransition_of_ne (e : Option Event) (ho : e ≠ some .opened)
    (hc : ∀ r, e ≠ some (.closed r)) : lastTransition e.toList = none := by
  cases e with
  | none => rfl
  | some e =>
    cases e with
    | opened => exact absurd rfl ho
    | closed r => exact absurd rfl (hc r)
    | _ => rfl

namespace Scene

/-- What ties a socket to the selector that is being followed. Unless there is news of a socket that
opened, the selector is the last of the texts that the socket was or will be given. -/
structure Synced (c : Scene) (l : Line) : Prop where
  live : l.link.worker.holds = true → ∃ s older, Tape.sockets l.tape = s :: older ∧
    (l.link.worker.talks = true → s.failed = none) ∧
    (c.session.lastQuery = none → s.given = []) ∧
    ∀ q, c.session.lastQuery = some q →
      lastTransition (c.ahead l.link.serial l) ≠ some .opened →
      (s.given ++ l.queued).getLast? = some (selectorFrame q)
  silent : c.session.lastQuery = none → l.queued = []

theorem synced_start (c : Scene) (serial : Nat) (policy : ReconnectPolicy) (t : Tape) :
    c.Synced ⟨.start serial policy, t⟩ :=
  ⟨fun h => absurd h (by simp [Link.start, Worker.start, Worker.holds]), fun _ => rfl⟩

/-- An exchange of the worker keeps a socket in step. -/
theorem Synced.advance {c : Scene} {l l' : Line} {x : Exchange} (h : c.Synced l)
    (hx : l.Advance x l') (hh : l.link.heard = true) (o : Reply) :
    (c.act (.step l'.link.serial o)).Synced l' := by
  have hq : (c.act (.step l'.link.serial o)).session.lastQuery = c.session.lastQuery := rfl
  have ha := (c.ahead_advance l'.link.serial o l l' x hx).2 hh
  have hsub := hx.queued_sublist
  constructor
  · intro hw
    rw [hq, ha, hx.sockets]
    -- a socket that has just opened waits for its selector, and an older one gets what was queued
    rcases hx.turn.holds_cases hw with rfl | ⟨hold, hne, hno, hnc⟩
    · exact ⟨{}, Tape.sockets l.tape, rfl, fun _ => rfl, fun _ => rfl,
        fun q _ hn => absurd (by simp [lastTransition, Exchange.news?, Session.isTransition]) hn⟩
    · obtain ⟨s, older, hs, hfail, hnone, hlast⟩ := h.live hold
      obtain ⟨s', hs', -, hgiven, hfailed⟩ := Tape.turnSockets_cons s older x hne
      have hg : s'.given = s.given ++ x.given?.toList := by
        refine hgiven ?_
        cases ht : l.link.worker.talks with
        | true => exact .inl (hfail ht)
        | false => exact .inr (hx.turn.given_of_not_talks ht)
      refine ⟨s', older, by rw [hs, hs'], ?_, ?_, ?_⟩
      · intro ht
        rcases hx.turn.talks_cases ht with rfl | ⟨hold', hok⟩
        · exact absurd rfl hne
        · rw [hfailed hok, hfail hold']
      · intro hn
        rw [h.silent hn] at hsub
        have hnil := List.append_eq_nil_iff.1 (List.sublist_nil.1 hsub)
        rw [hg, hnone hn, hnil.1]
        rfl
      · intro q hsome hn
        have hnews := lastTransition_of_ne x.news? hno hnc
        rw [lastTransition_append, hnews, Option.none_or, hx.serial] at hn
        rw [hg, List.append_assoc, hx.queued_eq hw]
        exact hlast q hsome hn
  · intro hn
    rw [h.silent hn] at hsub
    exact (List.append_eq_nil_iff.1 (List.sublist_nil.1 hsub)).2

theorem lastQuery_act (c : Scene) (a : Act) (hs : ∀ q, a ≠ .submit q) (hq : ∀ q, a ≠ .queue q) :
    (c.act a).session.lastQuery = c.session.lastQuery := by
  cases a with
  | submit q => exact absurd rfl (hs q)
  | queue q => exact absurd rfl (hq q)
  | drain budget =>
    simp only [act]
    split <;> rfl
  | handle =>
    simp only [act]
    split
    · simp only [Session.handleEvents_session]
    · rfl
  | fire | dropHook | step => rfl
  | _ =>
    simp only [act, call]
    split <;> rfl

theorem act_submit (c : Scene) (q : String) : c.act (.submit q) = c ∨
    (c.act (.submit q)).session.lastQuery = some q ∧ c.offered (.submit q) = some q := by
  obtain ⟨session, batch, tape⟩ := c
  cases batch with
  | some events => exact .inl rfl
  | none =>
    rcases session.submit_cases q with ⟨hs, h⟩ | ⟨f, h⟩
    · exact .inr (by simp [act, call, offered, h, hs, Session.state])
    · exact .inl (by simp [act, call, h])

/-- What is followed changes only by a new selector of the user, which is given at once. Otherwise
the selector is given after news of a socket. -/
theorem followed_act (c : Scene) (k : Nat) (a : Act) (hk : c.attached = some k)
    (hq : ∀ q, a ≠ .queue q) (hc : c.act a ≠ c) :
    (c.act a).session.lastQuery = c.session.lastQuery ∧
      c.offered a =
        (if lastTransition (c.handled k a) = some .opened then c.session.lastQuery else none) ∨
    ∃ q, (c.act a).session.lastQuery = some q ∧ c.offered a = some q := by
  by_cases hsub : ∃ q, a = .submit q
  · obtain ⟨q, rfl⟩ := hsub
    exact .inr ⟨q, (c.act_submit q).resolve_left hc⟩
  · have hns : ∀ q, a ≠ .submit q := fun q hq => hsub ⟨q, hq⟩
    exact .inl ⟨c.lastQuery_act a hns hq, c.offered_eq k a hk hns⟩

/-- An act of the session keeps a socket in step: a selector goes behind all other texts, and it is
the one that is being followed from then on. -/
theorem Synced.quiet {c : Scene} {a : Act} {l l' : Line} (h : c.Synced l)
    (hx : c.Quiet l'.link.serial a l l') (hs : l.link.serial = l'.link.serial)
    (hk : c.attached = some l'.link.serial) (hr : ¬ c.reattaches a) (hq : ∀ q, a ≠ .queue q)
    (hc : c.act a ≠ c) : (c.act a).Synced l' := by
  have hcases := c.followed_act l'.link.serial a hk hq hc
  have hahead := hx.ahead hr
  have hqueued := hx.queued
  constructor
  · intro hw
    rw [hx.worker] at hw
    obtain ⟨s, older, hsock, hfail, hnone, hlast⟩ := h.live hw
    simp only [hk, l.link.worker.isGone_of_holds hw, and_self, if_true] at hqueued
    refine ⟨s, older, by rw [hx.tape, hsock], by rwa [hx.worker], ?_, ?_⟩
    · rcases hcases with ⟨he, -⟩ | ⟨q, he, -⟩
      · rwa [he]
      · simp [he]
    · intro q hsome hn
      rcases hcases with ⟨he, ho⟩ | ⟨p, he, ho⟩
      · rw [he] at hsome
        by_cases ht : lastTransition (c.handled l'.link.serial a) = some .opened
        · rw [hqueued, ho, if_pos ht, hsome]
          simp
        · -- nothing is given, and neither the handled events nor the others tell of a socket
          rw [hqueued, ho, if_neg ht]
          refine (congrArg _ (by simp)).trans (hlast q hsome ?_)
          rw [hs, ← hahead, lastTransition_append]
          intro hor
          rcases Option.or_eq_some_iff.1 hor with hor | ⟨-, hor⟩
          · exact hn hor
          · exact ht hor
      · rw [he] at hsome
        cases hsome
        rw [hqueued, ho]
        simp
  · intro hnone
    rcases hcases with ⟨he, ho⟩ | ⟨q, he, -⟩
    · rw [he] at hnone
      rw [hqueued, ho, hnone, h.silent hnone]
      simp
    · rw [he] at hnone
      cases hnone

/-- Whatever the worker and the session do, the socket of the attached worker stays in step.
Selectors are only remembered for later as long as there is no worker. -/
theorem synced_act {c : Scene} (hs : c.Sound) (a : Act)
    (hq : ∀ q, a = .queue q → c.session.connection.current = none)
    (h : ∀ l, c.session.connection.current = some l → c.Synced ⟨l, c.tape l.serial⟩) (l' : Link)
    (h' : (c.act a).session.connection.current = some l') :
    (c.act a).Synced ⟨l', (c.act a).tape l'.serial⟩ := by
  rcases c.attached_act_cases a l' h' with
    ⟨-, -, rfl⟩ | ⟨hr, hk, l, hl, hserial, hx | ⟨⟨o, rfl⟩, x, hx⟩⟩
  · exact synced_start _ _ _ _
  · by_cases hc : c.act a = c
    · rw [hc] at h' ⊢
      exact h l' h'
    · have hsync := h l hl
      rw [hserial] at hsync
      refine hsync.quiet hx hserial hk hr ?_ hc
      intro q ha
      rw [hq q ha] at hl
      cases hl
  · have hsync := h l hl
    rw [hserial] at hsync
    exact hsync.advance hx (hs.heard l hl) o

theorem current_of_no_connect (c : Scene) (acts : List Act) (h : .connect ∉ acts)
    (hc : c.session.connection.current = none) :
    (c.run acts).session.connection.current = none := by
  induction acts using List.reverseRecOn with
  | nil => exact hc
  | append_singleton acts a ih =>
    obtain ⟨hacts, ha⟩ := not_or.1 (List.mem_append.not.1 h)
    rw [run_concat]
    by_cases hr : (c.run acts).reattaches a
    · rcases hr with ⟨hb, rfl | rfl⟩
      · simp at ha
      · exact (act_close _ hb).1
    · have hat := ((c.run acts).attached_act a hr).1
      simp only [attached, ih hacts, Option.map_none, Option.map_eq_none_iff] at hat
      exact hat

theorem synced_run (policy : ReconnectPolicy) (base : Instant) (maxRows : Nat) (acts : List Act)
    (h : acts.Pairwise fun a b => a = .connect → ∀ q, b ≠ .queue q) (l : Link)
    (hl : ((start policy base maxRows).run acts).session.connection.current = some l) :
    ((start policy base maxRows).run acts).Synced
      ⟨l, ((start policy base maxRows).run acts).tape l.serial⟩ := by
  induction acts using List.reverseRecOn generalizing l with
  | nil => cases hl
  | append_singleton acts a ih =>
    rw [run_concat] at hl ⊢
    obtain ⟨hacts, -, hlast⟩ := List.pairwise_append.1 h
    refine synced_act (sound_run policy base maxRows acts) a ?_ (ih hacts) l hl
    rintro q rfl
    refine current_of_no_connect _ acts ?_ rfl
    intro hm
    exact hlast _ hm _ List.mem_cons_self rfl q rfl

end Scene

/-- In every run in which selectors are remembered for later only before the first connect: once all
events of the attached worker are handled, and it pumps its socket and has no command left, the last
text that its socket was given is the selector that is being followed. If none is followed, the
socket was given nothing. Unless the socket has failed, it took all that it was given. -/
theorem selector_in_step (policy : ReconnectPolicy) (base : Instant) (maxRows : Nat)
    (acts : List Act) (h : acts.Pairwise fun a b => a = .connect → ∀ q, b ≠ .queue q)
    (c : Scene) (hc : c = (Scene.start policy base maxRows).run acts) (hb : c.batch = none)
    (l : Link) (hl : c.session.connection.current = some l) (he : l.events = [])
    (hp : l.worker.pumps = true) (hin : l.worker.inHand = []) (hcom : l.commands = []) :
    ∃ s older, Tape.sockets (c.tape l.serial) = s :: older ∧
      (l.worker.talks = true → s.given = s.sent) ∧
      match c.session.lastQuery with
      | some q => s.given.getLast? = some (selectorFrame q)
      | none => s.given = [] := by
  subst hc
  obtain ⟨hw, hu⟩ := l.worker.pumps_cases hp
  have hsync := Scene.synced_run policy base maxRows acts h l hl
  obtain ⟨s, older, hs, hfail, hnone, hlast⟩ := hsync.live hw
  refine ⟨s, older, hs, ?_, ?_⟩
  · intro ht
    simp [Socket.given, hfail ht]
  · split
    · rename_i q hq
      have hqueued (t : Tape) : Line.queued ⟨l, t⟩ = [] := by
        simp only [Line.queued, hin, hcom, texts_nil, List.nil_append]
      have hsent := hlast q hq (by simp [Scene.ahead, Scene.share, hb, he, hu])
      rwa [hqueued, List.append_nil] at hsent
    · rename_i hq
      exact hnone hq

/-- One selector is queued before the first connect, and another is submitted on the open socket. -/
theorem selector_in_step_of_submit :
    let acts : List Act := [.queue "a", .connect, .step 0 .done, .step 0 .opened, .step 0 .done,
      .drain none, .handle, .step 0 .nothing, .step 0 .done, .submit "b", .step 0 .nothing,
      .step 0 .done]
    let c := (Scene.start .disabled .epoch 10).run acts
    (acts.Pairwise fun a b => a = .connect → ∀ q, b ≠ .queue q) ∧ c.batch = none ∧
      ∃ l, c.session.connection.current = some l ∧ l.events = [] ∧ l.worker.pumps = true ∧
        l.worker.inHand = [] ∧ l.commands = [] ∧
        ∃ s older, Tape.sockets (c.tape l.serial) = s :: older ∧
          s.given.getLast? = some (selectorFrame "b") := by
  intro acts c
  have h : acts.Pairwise fun a b => a = .connect → ∀ q, b ≠ .queue q := by
    simp [acts]
  refine ⟨h, rfl, _, rfl, rfl, rfl, rfl, rfl, ?_⟩
  obtain ⟨s, older, hs, -, hlast⟩ :=
    selector_in_step .disabled .epoch 10 acts h c rfl rfl _ rfl rfl rfl rfl rfl
  exact ⟨s, older, hs, hlast⟩

end LiveTail
