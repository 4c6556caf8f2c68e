import LiveTail.Proofs.Attempts
import LiveTail.Proofs.Erasure
/-! What becomes of a worker that the session has let go, and of the session without it. -/
namespace LiveTail

namespace Scene

/-- What the session has taken out and not handled, and what is queued, was posted last by the
attached worker. Without a worker there is nothing to handle, and the state says so. -/
structure Grounded (c : Scene) : Prop where
  posted : ∀ l, c.session.connection.current = some l →
    c.batch.getD [] ++ l.events <:+ Tape.posted (c.tape l.serial)
  detached : c.session.connection.current = none →
    c.session.state = .disconnected ∧ c.batch.getD [] = []

theorem Grounded.act_posted {c : Scene} (h : c.Grounded) (a : Act) (l' : Link)
    (hl' : (c.act a).session.connection.current = some l') :
    (c.act a).batch.getD [] ++ l'.events <:+ Tape.posted ((c.act a).tape l'.serial) := by
  rcases c.attached_act_cases a l' hl' with
    ⟨hb, rfl, rfl⟩ | ⟨hr, hk, l, hl, hs, hx | ⟨⟨o, rfl⟩, x, hx⟩⟩
  · have hb' := (c.batch_act .connect (by simp) (by simp)).trans hb
    rw [hb']
    exact List.nil_suffix
  · have hp := h.posted l hl
    have hk' := (c.attached_act a hr).1.trans hk
    have hahead := hx.ahead hr
    have htape : (c.act a).tape l'.serial = c.tape l'.serial := hx.tape
    have hworker : l'.worker = l.worker := hx.worker
    -- the worker posts nothing, so the rest of what it had posted is the rest of what lay ahead
    simp only [ahead, share, hk, hk', if_true, hworker, ← List.append_assoc] at hahead
    have hrest := List.append_cancel_right hahead
    rw [List.append_assoc] at hrest
    rw [hs] at hp
    rw [htape]
    exact List.IsSuffix.trans ⟨_, hrest⟩ hp
  · obtain ⟨p, hp⟩ := h.posted l hl
    have htape : (c.act (.step l'.serial o)).tape l'.serial = c.tape l'.serial ++ [x] := hx.tape
    have hevents : l'.events = l.events ++ x.posted?.toList := hx.events
    rw [hs] at hp
    rw [htape, Tape.posted_concat, hevents, ← hp]
    exact ⟨p, by simp only [List.append_assoc]; rfl⟩

theorem Grounded.act_detached {c : Scene} (h : c.Grounded) (a : Act)
    (hn : (c.act a).session.connection.current = none) :
    (c.act a).session.state = .disconnected ∧ (c.act a).batch.getD [] = [] := by
  by_cases hr : c.reattaches a
  · rcases hr with ⟨hb, rfl | rfl⟩
    · rw [(c.act_connect hb).1] at hn
      cases hn
    · have hb' := (c.batch_act .close (by simp) (by simp)).trans hb
      exact ⟨by simp [act, call, hb, Session.close, Session.state, Connection.close], by simp [hb']⟩
  · have hc : c.session.connection.current = none := by
      have hat := (c.attached_act a hr).1
      simp only [attached, hn, Option.map_none] at hat
      exact Option.map_eq_none_iff.1 hat.symm
    obtain ⟨hs, hb⟩ := h.detached hc
    cases a with
    | connect | close =>
      cases hbatch : c.batch with
      | none => simp [reattaches, hbatch] at hr
      | some events =>
        simp only [act, call, hbatch, Option.isSome_some, if_true]
        exact ⟨hs, by simpa [hbatch] using hb⟩
    | submit q =>
      -- a session that is not connected takes no selector
      have hsame : (c.session.submit q).2 = c.session := by
        rcases c.session.submit_cases q with ⟨hcon, -⟩ | ⟨f, hf⟩
        · rw [show c.session.connection.state = .disconnected from hs] at hcon
          cases hcon
        · rw [hf]
      simp only [act, call, hsame, ite_self]
      exact ⟨hs, hb⟩
    | queue q =>
      simp only [act, call]
      split <;> exact ⟨hs, hb⟩
    | takeHook =>
      simp only [act, call, Connection.hook, hc]
      split <;> exact ⟨hs, hb⟩
    | drain budget =>
      cases hbatch : c.batch with
      | some events =>
        simp only [act, hbatch]
        exact ⟨hs, by simpa [hbatch] using hb⟩
      | none =>
        simp only [act, hbatch, change, Connection.drain, hc]
        exact ⟨hs, rfl⟩
    | handle =>
      cases hbatch : c.batch with
      | none =>
        simp only [act, hbatch]
        exact ⟨hs, rfl⟩
      | some events =>
        obtain rfl : events = [] := by simpa [hbatch] using hb
        simp only [act, hbatch]
        exact ⟨hs, rfl⟩
    | fire | dropHook | step => exact ⟨hs, hb⟩

theorem grounded_run (policy : ReconnectPolicy) (base : Instant) (maxRows : Nat)
    (acts : List Act) : ((start policy base maxRows).run acts).Grounded := by
  apply kept_run
  · exact ⟨fun l hl => (nomatch hl), fun _ => ⟨rfl, rfl⟩⟩
  · intro c _ h a
    exact ⟨h.act_posted a, h.act_detached a⟩

/-- The session is dropped: its worker is let go, and nobody can ask for the state any more. -/
def drop (c : Scene) : Scene :=
  c.call (fun s => { s with connection := s.connection.detach })

def inState (c : Scene) (s : ConnectionState) : Scene := c.change (fun n => { n with state := s })

theorem drop_eq (c : Scene) : c.drop = (c.act .close).inState c.session.state := by
  obtain ⟨⟨⟨policy, state, current, former, started⟩, stream, query, errors, e, e'⟩, batch, t⟩ := c
  cases batch <;> cases current <;> rfl

theorem inState_act (c : Scene) (s : ConnectionState) (a : Act) (ha : a.worker?.isSome = true) :
    (c.inState s).act a = (c.act a).inState s := by
  cases a <;> first | rfl | cases ha

/-- To its workers it is the same whether a session is dropped or closed. -/
theorem tape_drop (c : Scene) (acts : List Act) (h : ∀ a ∈ acts, a.worker?.isSome = true) :
    (c.drop.run acts).tape = ((c.act .close).run acts).tape := by
  have hrun : ∀ (d : Scene) (s : ConnectionState), (d.inState s).run acts =
      (d.run acts).inState s := by
    intro d s
    induction acts generalizing d with
    | nil => rfl
    | cons a r ih =>
      have ha := h a List.mem_cons_self
      refine Eq.trans ?_ (ih (fun b hb => h b (List.mem_cons_of_mem _ hb)) (d.act a))
      exact congrArg (·.run r) (d.inState_act s a ha)
  rw [drop_eq, hrun]
  rfl

theorem hook_lt (policy : ReconnectPolicy) (base : Instant) (maxRows : Nat)
    (earlier later : List Act) (h : ShutdownHook)
    (hh : ((start policy base maxRows).run earlier).session.connection.hook.1 = some h) :
    h.serial < ((start policy base maxRows).run (earlier ++ later)).session.connection.started := by
  have hsound := sound_run policy base maxRows earlier
  rw [run_append]
  generalize (start policy base maxRows).run earlier = c at hh hsound
  refine Nat.lt_of_lt_of_le ?_ (c.started_run later)
  cases hc : c.session.connection.current with
  | none => simp [Connection.hook, hc] at hh
  | some l =>
    obtain rfl : ⟨l.serial⟩ = h := by simpa [Connection.hook, hc] using hh
    exact hsound.serial_lt l (by simp [hc])

/-- A worker that the session lets go has no call of the connector left but one that it has
announced. -/
theorem former_line (policy : ReconnectPolicy) (base : Instant) (maxRows : Nat)
    (before rest : List Act) (a : Act) (c : Scene)
    (hc : c = (start policy base maxRows).run before) (ha : c.reattaches a) (k : Nat)
    (hk : k < c.session.connection.started) :
    ∃ l l', c.line? k = some l ∧ ((c.act a).run rest).line? k = some l' ∧
      Tape.posted l'.tape = Tape.posted l.tape ∧
      Tape.attempts l'.tape + l'.link.worker.calling = Tape.announced l.tape ∧
      Tape.attempts l'.tape ≤ Tape.attempts l.tape + 1 := by
  obtain ⟨-, hlines⟩ := line_run policy base maxRows before c hc
  have hheard := heardIfAttached_run policy base maxRows (before ++ [a])
  have hsound := sound_run policy base maxRows before
  have hline' := (line_run policy base maxRows (before ++ a :: rest) _ rfl).2 k
  rw [run_concat, ← hc] at hheard
  rw [← hc] at hsound
  rw [run_append, ← hc, run_cons] at hline'
  have hne : c.batch = none → a = .connect → k ≠ c.session.connection.started :=
    fun _ _ => Nat.ne_of_lt hk
  obtain ⟨moves, hl⟩ := hlines k hk
  obtain ⟨l₁, hl₁⟩ : ∃ l₁, (c.act a).line? k = some l₁ := by
    rw [c.line?_act a k hne, hl]
    exact ⟨_, rfl⟩
  have htape : l₁.tape = ((Line.start k policy).run moves).tape := by
    obtain ⟨l, hl', hx | ⟨⟨o, rfl⟩, -⟩⟩ := c.line_act_cases a k l₁ hne hl₁
    · rw [hl] at hl'
      rw [hx.tape, ← Option.some.inj hl']
    · rcases ha with ⟨-, h | h⟩ <;> cases h
  have hunheard : l₁.link.heard = false := by
    by_contra hh
    have hat := hheard k l₁ hl₁ (by simpa using hh)
    obtain ⟨m, hm, rfl⟩ := Option.map_eq_some_iff.1 hat
    have hge := (hsound.since_reattached a ha).1.attached m hm
    omega
  have hk₁ := Nat.lt_of_lt_of_le hk (c.started_act a).1
  obtain ⟨l', hl', hposted⟩ := (c.act a).posted_of_unheard k hk₁ l₁ hl₁ hunheard rest
  obtain ⟨moves', hm'⟩ := hline' (Nat.lt_of_lt_of_le hk₁ ((c.act a).started_run rest))
  -- both the worker of then and the worker of now keep to what they have announced
  have heq := Line.announced_eq k policy moves
  have heq' := Line.announced_eq k policy moves'
  rw [hl'] at hm'
  rw [← Option.some.inj hm', Tape.announced, hposted, htape, ← Tape.announced] at heq'
  have hone : ((Line.start k policy).run moves).link.worker.calling ≤ 1 := by
    rw [Worker.calling]
    split <;> omega
  exact ⟨_, l', hl, hl', by rw [hposted, htape], heq'.symm, by omega⟩

end Scene

/-- When the session is told to connect or to close, all its workers so far become workers of the
past. The scene goes on as one that has no such workers and in which nobody acts on them; their
hooks are among what can be left out. What the session handles from then on was posted by a later
worker, and without a worker it is disconnected. A worker of the past posts nothing more, and it
calls the connector no more often than it had announced. To be dropped is to be closed. -/
theorem former_workers_isolated (policy : ReconnectPolicy) (base : Instant) (maxRows : Nat)
    (before rest : List Act) (a : Act) (ha : a = .connect ∨ a = .close) (c d : Scene)
    (hc : c = (Scene.start policy base maxRows).run before) (hb : c.batch = none)
    (hd : d = (c.act a).run rest) :
    let n := c.session.connection.started
    d.since n = (c.act a).alone.run (rest.filter (Act.isSince n)) ∧
      (∀ earlier, earlier <+: before → ∀ h,
        ((Scene.start policy base maxRows).run earlier).session.connection.hook.1 = some h →
        (Act.fire h).isSince n = false) ∧
      (∀ l, d.session.connection.current = some l →
        n ≤ l.serial ∧ d.batch.getD [] ++ l.events <:+ Tape.posted (d.tape l.serial)) ∧
      (∀ e, e = c ∨ e = d → e.session.connection.current = none →
        e.session.state = .disconnected ∧ e.batch.getD [] = []) ∧
      (∀ k < n, ∃ l l', c.line? k = some l ∧ d.line? k = some l' ∧
        Tape.posted l'.tape = Tape.posted l.tape ∧
        Tape.attempts l'.tape + l'.link.worker.calling = Tape.announced l.tape ∧
        Tape.attempts l'.tape ≤ Tape.attempts l.tape + 1) ∧
      ((∀ x ∈ rest, x.worker?.isSome = true) →
        (c.drop.run rest).tape = ((c.act .close).run rest).tape) := by
  subst hc hd
  have hr : ((Scene.start policy base maxRows).run before).reattaches a := ⟨hb, ha⟩
  obtain ⟨hbeyond, halone⟩ :=
    (Scene.sound_run policy base maxRows before).since_reattached a hr
  have hgrounded := Scene.grounded_run policy base maxRows (before ++ a :: rest)
  rw [Scene.run_append, Scene.run_cons] at hgrounded
  refine ⟨?_, ?_, ?_, ?_, ?_, Scene.tape_drop _ rest⟩
  · rw [Scene.since_run hbeyond, halone]
  · rintro earlier ⟨later, rfl⟩ h hh
    have hlt := Scene.hook_lt policy base maxRows earlier later h hh
    simpa [Act.isSince, Act.worker?] using hlt
  · intro l hl
    exact ⟨(hbeyond.run rest).attached l hl, hgrounded.posted l hl⟩
  · rintro e (rfl | rfl)
    · exact (Scene.grounded_run policy base maxRows before).detached
    · exact hgrounded.detached
  · intro k hk
    exact Scene.former_line policy base maxRows before rest a _ rfl hr k hk

/-- The old worker has a frame that nobody has taken and a selector that it has not read, and its
hook is fired when the session has a new worker. -/
theorem former_workers_isolated_of_two :
    let policy := ReconnectPolicy.withBackoff (.ofMillis 500) (.ofMillis 500)
    let before : List Act := [.connect, .step 0 .done, .step 0 .opened, .step 0 .done, .takeHook,
      .drain none, .handle, .step 0 .nothing, .step 0 (.text "?"), .step 0 .done, .submit "a"]
    let later : List Act := [.step 1 .done, .step 1 .opened, .step 1 .done, .drain none, .handle,
      .step 1 .nothing]
    let rest : List Act := .fire ⟨0⟩ :: .step 0 .nothing :: .step 0 .done :: later
    let c := (Scene.start policy .epoch 10).run before
    let d := (c.act .connect).run rest
    c.batch = none ∧ d.since 1 = (c.act .connect).alone.run later ∧
      (∃ l, d.session.connection.current = some l ∧ 1 ≤ l.serial) ∧
      ∃ l l', c.line? 0 = some l ∧ d.line? 0 = some l' ∧
        Tape.posted l'.tape = Tape.posted l.tape ∧
        Tape.attempts l'.tape ≤ Tape.attempts l.tape + 1 := by
  intro policy before later rest c d
  have hb : c.batch = none := by decide +kernel
  have hstarted : c.session.connection.started = 1 := by decide +kernel
  obtain ⟨hsince, -, hcur, -, hformer, -⟩ :=
    former_workers_isolated policy .epoch 10 before rest .connect (.inl rfl) c d rfl hb rfl
  rw [hstarted] at hsince hcur hformer
  obtain ⟨l, hl⟩ := Option.isSome_iff_exists.1
    (show d.session.connection.current.isSome = true by decide +kernel)
  obtain ⟨m, m', hm, hm', hposted, -, hattempts⟩ := hformer 0 Nat.zero_lt_one
  exact ⟨hb, hsince, ⟨l, hl, (hcur l hl).1⟩, m, m', hm, hm', hposted, hattempts⟩

end LiveTail
