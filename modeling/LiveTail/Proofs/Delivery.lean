import LiveTail.Proofs.Reads
/-! For which socket a selector is written that the session has sent. The worker may be ahead of
what the session knows; as long as it takes notice of its commands before it opens another socket,
a selector is for the sockets that were open when it was sent. -/
namespace LiveTail

/-- Whether the worker is on its way to another socket. -/
def Worker.dials (w : Worker) : Bool :=
  match w.phase with
  | .announcing | .connecting => true
  | _ => false

theorem Worker.Turn.dials_cases {w w' : Worker} {x : Exchange} (h : w.Turn x w')
    (hw : w'.dials = true ∨ x = ⟨.connect, .opened⟩) :
    w.dials = true ∨ w.phase = .waiting ∧ x.reply = .elapsed := by
  cases h <;> simp [dials] at hw ⊢

/-- A worker that does not reconnect never waits. -/
theorem Worker.Turn.phase_ne_waiting {w w' : Worker} {x : Exchange} (h : w.Turn x w')
    (hp : w.policy.enabled = false) (hw : w.phase ≠ .waiting) : w'.phase ≠ .waiting := by
  cases h with
  | paused p n b r on again => exact absurd on (Bool.eq_false_iff.1 hp)
  | dropped => exact absurd rfl hw
  | _ => simp

theorem Worker.Turn.dials_of_connected {w w' : Worker} {x : Exchange} (h : w.Turn x w')
    (hx : x = ⟨.connect, .opened⟩) : w'.dials = false := by
  cases h <;> first | rfl | cases hx

namespace Line

/-- A worker that does not reconnect is on its way to a socket only before it opens the first. -/
theorem single_socket (serial : Nat) (policy : ReconnectPolicy) (hp : policy.enabled = false)
    (moves : List Move) (l : Line) (hl : l = (start serial policy).run moves) :
    l.link.worker.phase ≠ .waiting ∧ (l.link.worker.dials = true → Tape.opened l.tape = 0) := by
  let P (l : Line) : Prop := l.link.worker.policy.enabled = false ∧
    l.link.worker.phase ≠ .waiting ∧ (l.link.worker.dials = true → Tape.opened l.tape = 0)
  have hstart : P (start serial policy) := by
    refine ⟨hp, ?_, fun _ => rfl⟩
    simp [start, Link.start, Worker.start]
  have hquiet : ∀ l m, (∀ o, m ≠ .step o) → P l → P (l.move m) := by
    intro l m hm h
    obtain ⟨hw, ht⟩ := l.move_quiet m hm
    simpa only [P, hw, ht] using h
  have hstep : ∀ l l' x, l.Advance x l' → P l → P l' := by
    rintro l l' x hx ⟨hpol, hwait, hopen⟩
    refine ⟨hx.turn.policy_eq ▸ hpol, hx.turn.phase_ne_waiting hpol hwait, ?_⟩
    intro hd
    -- it was on its way before, for only a wait would bring it there again
    have hne : x ≠ ⟨.connect, .opened⟩ := by
      intro he
      rw [hx.turn.dials_of_connected he] at hd
      cases hd
    have hold := (hx.turn.dials_cases (.inl hd)).resolve_right (fun h => hwait h.1)
    rw [hx.tape, Tape.opened_concat, if_neg hne, hopen hold]
  subst hl
  exact (run_induction _ hstart hquiet hstep moves).2

/-- The command in a place is read for none but the first so many sockets. As long as it is unread
it waits in the queue, and no socket is on its way. -/
structure Bound (command : Command) (place last : Nat) (l : Line) : Prop where
  read : ∀ r, (Tape.reads l.tape)[place]? = some r → r.1 = command ∧ ∀ n, r.2 = some n → n ≤ last
  unread : (Tape.reads l.tape).length ≤ place → l.link.worker.isGone = false →
    l.link.commands[place - (Tape.reads l.tape).length]? = some command ∧
      Tape.opened l.tape ≤ last ∧ l.link.worker.dials = false

theorem Bound.quiet {command : Command} {place last : Nat} {l : Line}
    (h : Bound command place last l) (m : Move) (hm : ∀ o, m ≠ .step o) :
    Bound command place last (l.move m) := by
  obtain ⟨hw, ht⟩ := l.move_quiet m hm
  obtain ⟨more, hc⟩ := l.commands_move m hm
  refine ⟨by rw [ht]; exact h.read, ?_⟩
  rw [ht, hw, hc]
  intro hle hg
  obtain ⟨hcom, hlast, hd⟩ := h.unread hle hg
  obtain ⟨hlt, -⟩ := List.getElem?_eq_some_iff.1 hcom
  exact ⟨by rw [List.getElem?_append_left hlt, hcom], hlast, hd⟩

/-- While a command waits, no wait is over, so no exchange brings another socket nearer. -/
theorem Advance.opened_eq {l l' : Line} {x : Exchange} (hx : l.Advance x l')
    (heed : x.reply = .elapsed → l.link.commands = []) (hc : l.link.commands ≠ [])
    (hd : l.link.worker.dials = false) :
    l'.link.worker.dials = false ∧ Tape.opened l'.tape = Tape.opened l.tape := by
  have hstay : ¬ (l'.link.worker.dials = true ∨ x = ⟨.connect, .opened⟩) := by
    intro hnew
    rcases hx.turn.dials_cases hnew with hold | ⟨-, he⟩
    · rw [hd] at hold
      cases hold
    · exact hc (heed he)
  constructor
  · simpa using fun h => hstay (.inl h)
  · rw [hx.tape, Tape.opened_concat, if_neg fun h => hstay (.inr h), Nat.add_zero]

theorem Bound.advance {command : Command} {place last : Nat} {l l' : Line} {x : Exchange}
    (h : Bound command place last l) (hx : l.Advance x l')
    (heed : x.reply = .elapsed → l.link.commands = []) : Bound command place last l' := by
  have hreads : Tape.reads l'.tape =
      Tape.reads l.tape ++ (x.read? (Tape.opened l.tape)).toList := by
    rw [hx.tape, Tape.reads_concat]
  rcases Nat.lt_or_ge place (Tape.reads l.tape).length with hlt | hge
  · -- it has been read, and what has been read stays
    refine ⟨by rw [hreads, List.getElem?_append_left hlt]; exact h.read, ?_⟩
    intro hle
    rw [hreads, List.length_append] at hle
    omega
  · obtain ⟨hcom, hlast, hd⟩ := h.unread hge hx.turn.isGone_eq_false
    have hne : l.link.commands ≠ [] := by
      intro hnil
      rw [hnil] at hcom
      cases hcom
    obtain ⟨hd', hopened⟩ := hx.opened_eq heed hne hd
    obtain ⟨rest, hc, hc'⟩ := hx.commands
    rw [hc] at hcom
    rcases x.read?_eq (Tape.opened l.tape) with ⟨hr, ht⟩ | ⟨first, r, hr, ht, hfor⟩
    · -- nothing is read
      rw [hr, Option.toList_none, List.append_nil] at hreads
      refine ⟨by rw [hreads]; exact h.read, ?_⟩
      intro _ hg
      rw [ht, Option.toList_none, List.nil_append] at hcom
      rw [hc', hg, if_neg Bool.false_ne_true, hreads, hopened]
      exact ⟨hcom, hlast, hd'⟩
    · -- the first of the queue is read, for the socket that is open
      rw [hr, Option.toList_some] at hreads
      rw [ht, Option.toList_some, List.singleton_append] at hcom
      have hlen : (Tape.reads l'.tape).length = (Tape.reads l.tape).length + 1 := by
        rw [hreads, List.length_append, List.length_singleton]
      constructor
      · intro s hs
        have hplace : place = (Tape.reads l.tape).length := by
          obtain ⟨hlt, -⟩ := List.getElem?_eq_some_iff.1 hs
          omega
        rw [hplace, Nat.sub_self, List.getElem?_cons_zero] at hcom
        rw [hreads, hplace, List.getElem?_concat_length] at hs
        cases hs
        refine ⟨Option.some.inj hcom, ?_⟩
        intro n hn
        rw [hfor n hn]
        exact hlast
      · intro hle hg
        have hnext : place - (Tape.reads l.tape).length =
            place - (Tape.reads l'.tape).length + 1 := by omega
        rw [hnext, List.getElem?_cons_succ] at hcom
        rw [hc', hg, if_neg Bool.false_ne_true, hopened]
        exact ⟨hcom, hlast, hd'⟩

end Line

namespace Scene

/-- The selector that an act of the session sends, if the connection takes it. A selector that the
session remembers is sent when the state is up to date with the socket that opened. -/
def accepted (c : Scene) (a : Act) : Option String :=
  (c.offered a).filter fun q =>
    (({ c.session.connection with state := .connected } : Connection).sendQuery q).1.isOk

theorem offered_of_accepted (c : Scene) (a : Act) (q : String) (h : c.accepted a = some q)
    (l : Link) (hl : c.session.connection.current = some l) :
    c.offered a = some q ∧ l.worker.isGone = false := by
  obtain ⟨ho, hq⟩ := Option.filter_eq_some_iff.1 h
  refine ⟨ho, ?_⟩
  cases hg : l.worker.isGone with
  | false => rfl
  | true => simp [Connection.sendQuery, hl, hg, Except.isOk, Except.toBool] at hq

theorem moves_offered (c : Scene) (a : Act) (q : String) (k : Nat) (h : c.offered a = some q) :
    c.moves k a =
      if c.attached = some k then [.give (.send (selectorFrame q))] else [] := by
  cases a with
  | submit | handle => simp [moves, h]
  | _ => cases h

theorem state_act (c : Scene) (k : Nat) (a : Act) (hk : c.attached = some k)
    (hr : ¬ c.reattaches a) :
    (c.act a).session.state = (c.handled k a).foldl ConnectionState.after c.session.state := by
  cases a with
  | connect | close =>
    cases hb : c.batch with
    | none => simp [reattaches, hb] at hr
    | some events => simp [act, call, hb, handled]
  | submit q =>
    simp only [act, call]
    split
    · rfl
    · simp only [Session.state, Session.submit_connection]
      split <;> rfl
  | handle =>
    cases hb : c.batch with
    | none => simp [act, hb, handled, share]
    | some events =>
      simp only [act, hb, handled, share, hk, if_true, Option.getD_some, Session.state,
        Session.handleEvents_session]
      split <;> cases c.session.lastQuery <;> rfl
  | queue q =>
    simp only [act, call]
    split <;> rfl
  | takeHook =>
    simp only [act, call]
    split
    · rfl
    · cases hc : c.session.connection.current <;> simp [Session.state, Connection.hook, hc, handled]
  | drain budget =>
    simp only [act]
    cases hc : c.session.connection.current <;> split <;>
      simp [change, Session.state, Connection.drain, hc, handled]
  | fire | dropHook | step => rfl

end Scene

theorem ConnectionState.opened_of_after (s : ConnectionState) (events : List Event)
    (h : events.foldl ConnectionState.after s = .connected) :
    s = .connected ∨ .opened ∈ events := by
  induction events generalizing s with
  | nil => exact .inl h
  | cons e r ih =>
    rcases ih _ h with hs | hr
    · cases e with
      | opened => exact .inr List.mem_cons_self
      | frame => exact .inl hs
      | _ => cases hs
    · exact .inr (List.mem_cons_of_mem _ hr)

namespace Scene

/-- A session that is connected, or that has still to learn of an open socket, has a worker that has
opened one. -/
def Informed (c : Scene) : Prop :=
  ∀ l, c.session.connection.current = some l →
    c.session.state = .connected ∨ .opened ∈ c.ahead l.serial ⟨l, c.tape l.serial⟩ →
    0 < Tape.opened (c.tape l.serial)

theorem Informed.act {c : Scene} (h : c.Informed) (hc : c.Sound) (a : Act) :
    (c.act a).Informed := by
  intro l' hl' hnews
  rcases c.attached_act_cases a l' hl' with
    ⟨hb, rfl, rfl⟩ | ⟨hr, hk, l, hl, hs, hx | ⟨⟨o, rfl⟩, x, hx⟩⟩
  · -- of a new worker there is no news
    have hb' := (c.batch_act .connect (by simp) (by simp)).trans hb
    exfalso
    rcases hnews with hstate | hopened
    · simp [Scene.act, call, hb, Session.connect, Session.state, Connection.connect] at hstate
    · simp [ahead, share, hb', Link.start, Worker.start, Worker.unposted] at hopened
  · have hold := h l hl
    have hahead := hx.ahead hr
    have htape : (c.act a).tape l'.serial = c.tape l'.serial := hx.tape
    rw [hs] at hold
    rw [htape]
    apply hold
    rw [← hahead, List.mem_append]
    rcases hnews with hstate | hopened
    · rw [c.state_act _ a hk hr] at hstate
      rcases ConnectionState.opened_of_after _ _ hstate with hstate | hopened
      · exact .inl hstate
      · exact .inr (.inl hopened)
    · exact .inr (.inr hopened)
  · have hold := h l hl
    have hahead := (c.ahead_advance l'.serial o _ _ x hx).2 (hc.heard l hl)
    have htape : (c.act (.step l'.serial o)).tape l'.serial = c.tape l'.serial ++ [x] := hx.tape
    rw [hs] at hold
    rw [hahead, List.mem_append] at hnews
    rw [htape, Tape.opened_concat]
    by_cases hopen : x = ⟨.connect, .opened⟩
    · rw [if_pos hopen]
      exact Nat.succ_pos _
    · rw [if_neg hopen, Nat.add_zero]
      apply hold
      rcases hnews with hstate | hnews | hnews
      · exact .inl hstate
      · exact .inr hnews
      · exact absurd (x.eq_of_news_opened (Option.mem_toList.1 hnews)) hopen

theorem informed_run (policy : ReconnectPolicy) (base : Instant) (maxRows : Nat)
    (acts : List Act) : ((start policy base maxRows).run acts).Informed := by
  apply kept_run
  · intro l hl
    cases hl
  · intro c hc h a
    exact h.act hc a

theorem Informed.opened_of_offered {c : Scene} (h : c.Informed) (a : Act) (q : String)
    (hq : c.offered a = some q) (l : Link) (hl : c.session.connection.current = some l) :
    0 < Tape.opened (c.tape l.serial) := by
  apply h l hl
  cases a with
  | submit s =>
    simp only [offered, Option.ite_none_right_eq_some] at hq
    exact .inl hq.1.2
  | handle =>
    simp only [offered, Option.ite_none_right_eq_some] at hq
    obtain ⟨events, hb, hlast⟩ := Option.bind_eq_some_iff.1 hq.1
    have hmem := List.mem_of_getLast? hlast
    have hat : c.attached = some l.serial := by rw [attached, hl, Option.map_some]
    refine .inr (List.mem_append_left _ ?_)
    simpa [share, hat, hb] using (List.mem_filter.1 hmem).1
  | _ => cases hq

/-- The moment a selector is accepted it is the last in the queue of the attached worker, and no
other worker gets it. -/
theorem line?_of_accepted (c : Scene) (a : Act) (q : String) (hq : c.accepted a = some q) (l : Link)
    (hl : c.session.connection.current = some l) :
    (c.act a).line? l.serial =
        some ⟨{ l with commands := l.commands ++ [.send (selectorFrame q)] }, c.tape l.serial⟩ ∧
      ∀ k, k ≠ l.serial → (c.act a).line? k = c.line? k := by
  obtain ⟨ho, hg⟩ := c.offered_of_accepted a q hq l hl
  have hat : c.attached = some l.serial := by rw [attached, hl, Option.map_some]
  have hnew : c.batch = none → a = .connect → ∀ k, k ≠ c.session.connection.started := by
    rintro - rfl
    cases ho
  constructor
  · rw [c.line?_act a _ (fun hb ha => hnew hb ha _), c.line?_attached l hl,
      c.moves_offered a q _ ho, if_pos hat]
    simp [Line.run, Line.move, Link.give, hg]
  · intro k hk
    have hne : c.attached ≠ some k := by
      rw [hat]
      exact fun h => hk (Option.some.inj h).symm
    rw [c.line?_act a _ (fun hb ha => hnew hb ha _), c.moves_offered a q _ ho, if_neg hne]
    simp [Line.run]

/-- Without reconnection there are no waits. -/
theorem heeds_of_disabled (policy : ReconnectPolicy) (hp : policy.enabled = false) (base : Instant)
    (maxRows : Nat) (acts : List Act) (k : Nat) (a : Act) :
    ((start policy base maxRows).run acts).Heeds k a := by
  intro _ l hl hwait
  obtain ⟨moves, hm⟩ := exists_moves policy base maxRows acts _ rfl k l hl
  exact absurd hwait (Line.single_socket k policy hp moves l hm).1

theorem bound_of_accepted (policy : ReconnectPolicy) (base : Instant) (maxRows : Nat)
    (before rest : List Act) (a : Act) (q : String) (c : Scene)
    (hc : c = (start policy base maxRows).run before) (hq : c.accepted a = some q) (l : Link)
    (hl : c.session.connection.current = some l)
    (hdial : policy.enabled = true → l.worker.dials = false)
    (hheed : policy.enabled = true → Scene.Throughout (Scene.Heeds l.serial) (c.act a) rest) :
    ∃ m, ((c.act a).run rest).line? l.serial = some m ∧
      Line.Bound (.send (selectorFrame q))
        ((Tape.reads (c.tape l.serial)).length + l.commands.length)
        (Tape.opened (c.tape l.serial)) m := by
  obtain ⟨ho, hg⟩ := c.offered_of_accepted a q hq l hl
  have hlt := (hc ▸ sound_run policy base maxRows before).lt_started (c.line?_attached l hl)
  have hdial' : l.worker.dials = false := by
    cases hp : policy.enabled with
    | true => exact hdial hp
    | false =>
      -- the session knows of a socket, and there is no other
      have hpos := (hc ▸ informed_run policy base maxRows before).opened_of_offered a q ho l hl
      obtain ⟨moves, hm⟩ :=
        exists_moves policy base maxRows before c hc _ _ (c.line?_attached l hl)
      have hone := (Line.single_socket _ policy hp moves _ hm).2
      by_contra hd
      rw [hone (by simpa using hd)] at hpos
      exact absurd hpos (Nat.lt_irrefl 0)
  have hheed' : Throughout (Heeds l.serial) (c.act a) rest := by
    cases hp : policy.enabled with
    | true => exact hheed hp
    | false =>
      intro earlier b later _
      have hrun : (c.act a).run earlier =
          (start policy base maxRows).run (before ++ a :: earlier) := by
        rw [run_append, run_cons, hc]
      rw [hrun]
      exact heeds_of_disabled policy hp base maxRows _ _ b
  have hbound : Line.Bound (.send (selectorFrame q))
      ((Tape.reads (c.tape l.serial)).length + l.commands.length) (Tape.opened (c.tape l.serial))
      ⟨{ l with commands := l.commands ++ [.send (selectorFrame q)] }, c.tape l.serial⟩ := by
    constructor
    · intro r hr
      rw [List.getElem?_eq_none (Nat.le_add_right _ _)] at hr
      cases hr
    · intro _ _
      refine ⟨?_, Nat.le_refl _, hdial'⟩
      rw [Nat.add_sub_cancel_left, List.getElem?_concat_length]
  exact line_run_induction (Q := Heeds l.serial)
    (fun l m hm h => h.quiet m hm)
    (fun d l o x hline hheed hx h => h.advance hx (hheed.commands_eq_nil hline hx))
    (c.act a) (Nat.lt_of_lt_of_le hlt (c.started_act a).1) rest hheed' _
    (c.line?_of_accepted a q hq l hl).1 hbound

end Scene

/-- A selector that is accepted goes behind all that the attached worker has still to read, and to
no other worker. What a socket is given is what was read for it, and the selector is read for no
socket that was not open when it was accepted. If the worker reconnects, this takes that it was not
on its way to another socket at that moment, and that no wait of it is over later while there are
commands to be read. -/
theorem selector_for_open_socket (policy : ReconnectPolicy) (base : Instant) (maxRows : Nat)
    (before rest : List Act) (a : Act) (q : String) (c d : Scene)
    (hc : c = (Scene.start policy base maxRows).run before) (hq : c.accepted a = some q)
    (hd : d = (c.act a).run rest) (l : Link) (hl : c.session.connection.current = some l)
    (hdial : policy.enabled = true → l.worker.dials = false)
    (hheed : policy.enabled = true → Scene.Throughout (Scene.Heeds l.serial) (c.act a) rest) :
    (c.act a).line? l.serial =
        some ⟨{ l with commands := l.commands ++ [.send (selectorFrame q)] }, c.tape l.serial⟩ ∧
      (∀ k, k ≠ l.serial → (c.act a).line? k = c.line? k) ∧
      ∃ m, d.line? l.serial = some m ∧
        Tape.writes m.tape ++ m.link.worker.inHand.map (·, Tape.opened m.tape) =
          (Tape.reads m.tape).filterMap writing? ∧
        ∀ r, (Tape.reads m.tape)[
            (Tape.reads (c.tape l.serial)).length + l.commands.length]? = some r →
          r.1 = .send (selectorFrame q) ∧
            ∀ n, r.2 = some n → n ≤ Tape.opened (c.tape l.serial) := by
  obtain ⟨hline, hother⟩ := c.line?_of_accepted a q hq l hl
  obtain ⟨m, hm, hbound⟩ :=
    Scene.bound_of_accepted policy base maxRows before rest a q c hc hq l hl hdial hheed
  rw [← hd] at hm
  have hrun : d = (Scene.start policy base maxRows).run (before ++ a :: rest) := by
    rw [Scene.run_append, Scene.run_cons, ← hc, hd]
  obtain ⟨moves, hmoves⟩ := Scene.exists_moves policy base maxRows _ d hrun _ m hm
  exact ⟨hline, hother, m, hm, Line.writes_eq _ policy moves m hmoves,
    hbound.read⟩

/-- A selector is read on the first socket, with a second one later in the run. -/
theorem selector_for_open_socket_of_two :
    let policy := ReconnectPolicy.withBackoff (.ofMillis 500) (.ofMillis 500)
    let before : List Act := [.connect, .step 0 .done, .step 0 .opened, .step 0 .done, .drain none,
      .handle, .step 0 .nothing]
    let rest : List Act := [.step 0 .nothing, .step 0 .nothing, .step 0 .done, .step 0 .nothing,
      .step 0 .ended, .step 0 .done, .step 0 .elapsed, .step 0 .done, .step 0 .opened,
      .step 0 .done, .step 0 .nothing]
    let c := (Scene.start policy .epoch 10).run before
    let d := (c.act (.submit "a")).run rest
    c.accepted (.submit "a") = some "a" ∧ Tape.opened (c.tape 0) = 1 ∧ Tape.opened (d.tape 0) = 2 ∧
      ∃ l m, c.session.connection.current = some l ∧ l.worker.dials = false ∧
        Scene.Throughout (Scene.Heeds l.serial) (c.act (.submit "a")) rest ∧
        d.line? l.serial = some m ∧
        Tape.reads m.tape = [(.send (selectorFrame "a"), some 1)] ∧
        Tape.writes m.tape ++ m.link.worker.inHand.map (·, Tape.opened m.tape) =
          (Tape.reads m.tape).filterMap writing? := by
  intro policy before rest c d
  have hq : c.accepted (.submit "a") = some "a" := by decide +kernel
  obtain ⟨l, hl⟩ := Option.isSome_iff_exists.1
    (show c.session.connection.current.isSome = true by decide +kernel)
  have hserial : c.session.connection.current.map (·.serial) = some 0 := by decide +kernel
  have hdial : c.session.connection.current.map (·.worker.dials) = some false := by decide +kernel
  have hheed : Scene.Throughout (Scene.Heeds 0) (c.act (.submit "a")) rest := by decide +kernel
  have hreads : (d.line? 0).map (fun m => Tape.reads m.tape) =
      some [(.send (selectorFrame "a"), some 1)] := by decide +kernel
  simp only [hl, Option.map_some, Option.some.injEq] at hserial hdial
  rw [← hserial] at hheed hreads
  obtain ⟨-, -, m, hm, hwrites, -⟩ := selector_for_open_socket policy .epoch 10 before rest
    (.submit "a") "a" c d rfl hq rfl l hl (fun _ => hdial) (fun _ => hheed)
  rw [hm, Option.map_some, Option.some_inj] at hreads
  exact ⟨hq, by decide +kernel, by decide +kernel, l, m, hl, hdial, hheed, hm, hreads, hwrites⟩

/-- The session may take a socket for open that is gone already. What it sends while its worker is
on its way to the next socket is written to that one. -/
theorem selector_for_later_socket :
    ¬ ∀ (policy : ReconnectPolicy) (base : Instant) (maxRows : Nat) (before rest : List Act)
      (a : Act) (q : String) (l : Link) (r : Command × Option Nat) (n : Nat),
      ((Scene.start policy base maxRows).run before).accepted a = some q →
      ((Scene.start policy base maxRows).run before).session.connection.current = some l →
      (Tape.reads (((Scene.start policy base maxRows).run (before ++ a :: rest)).tape l.serial))[
        (Tape.reads (((Scene.start policy base maxRows).run before).tape l.serial)).length +
          l.commands.length]? = some r →
      r.2 = some n →
      n ≤ Tape.opened (((Scene.start policy base maxRows).run before).tape l.serial) := by
  intro h
  let policy := ReconnectPolicy.withBackoff (.ofMillis 500) (.ofMillis 500)
  let before : List Act := [.connect, .step 0 .done, .step 0 .opened, .step 0 .done, .drain none,
    .handle, .step 0 .nothing, .step 0 .ended, .step 0 .done, .step 0 .elapsed, .step 0 .done]
  let rest : List Act := [.step 0 .opened, .step 0 .done, .step 0 .nothing, .step 0 .done]
  obtain ⟨l, hl⟩ := Option.isSome_iff_exists.1
    (show ((Scene.start policy .epoch 10).run before).session.connection.current.isSome = true by
      decide +kernel)
  have hplace : ((Scene.start policy .epoch 10).run before).session.connection.current.map
      (fun l => (l.serial, l.commands.length)) = some (0, 0) := by decide +kernel
  rw [hl, Option.map_some, Option.some_inj, Prod.mk.injEq] at hplace
  have hle := h policy .epoch 10 before rest (.submit "a") "a" l
    (.send (selectorFrame "a"), some 2) 2 (by decide +kernel) hl
    (by rw [hplace.1, hplace.2]; decide +kernel) rfl
  rw [hplace.1] at hle
  revert hle
  decide +kernel

end LiveTail
