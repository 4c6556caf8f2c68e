import LiveTail.Proofs.Standing
import LiveTail.Screen.State
/-! What becomes of a selector that is submitted. Either it is one more command of the attached
worker and is remembered, or it is refused, and then all is as before. It can be refused in a state
that says the socket is open, for the state lags behind: a worker may have ended without the session
knowing, as long as its last events are still in the queue. -/
namespace LiveTail

theorem Session.submit_eq_ok_iff (s : Session) (q : String) : (s.submit q).1 = .ok () ↔
    s.state = .connected ∧ ∃ l, s.connection.current = some l ∧ l.worker.isGone = false := by
  have hsending := s.connection.sending q
  rw [s.submit_result]
  generalize (s.connection.sendQuery q).1 = r, (s.connection.sendQuery q).2 = c at hsending
  constructor
  · rintro rfl
    cases hsending with
    | sent hs hc hl => exact ⟨hs, _, hc, hl⟩
  · rintro ⟨hs, l, hc, hl⟩
    cases hsending with
    | notOpen h => exact absurd hs h
    | alone _ hnone =>
      rw [hc] at hnone
      cases hnone
    | late _ hsome hgone =>
      rw [hc] at hsome
      cases hsome
      rw [hl] at hgone
      cases hgone
    | sent => rfl

/-- A selector that is refused leaves the session as it was. -/
theorem Session.submit_refused (s : Session) (q : String) (f : ConnectionFault)
    (h : (s.submit q).1 = .error f) : (s.submit q).2 = s := by
  rcases s.submit_cases q with ⟨-, hsent⟩ | ⟨g, hrefused⟩
  · rw [hsent] at h
    cases h
  · rw [hrefused]

namespace Scene

/-- Between two calls a submission does to a scene what it does to the session. -/
theorem act_submit_session (c : Scene) (q : String) (hb : c.batch = none) :
    c.act (.submit q) = { c with session := (c.session.submit q).2 } := by
  simp only [act, call, hb, Option.isSome_none, Bool.false_eq_true, if_false]

/-- A session that is open has not handled all that its worker posted, if the worker has ended. -/
theorem events_ne_nil_of_gone (policy : ReconnectPolicy) (base : Instant) (maxRows : Nat)
    (acts : List Act) (c : Scene) (hc : c = (start policy base maxRows).run acts)
    (hb : c.batch = none) (hs : c.session.state = .connected) (l : Link)
    (hl : c.session.connection.current = some l) (hgone : l.worker.isGone = true) :
    l.events ≠ [] := by
  intro hempty
  have hsaid := (stage_attached policy base maxRows acts c hc l hl).saidBy
  obtain ⟨handled, hposted, hstate⟩ :=
    (hc ▸ abreast_run policy base maxRows acts : c.Abreast) l hl
  rw [hb, hempty, Option.getD_none, List.append_nil, List.append_nil] at hposted
  have hphase : l.worker.phase = .gone := by simpa [Worker.isGone] using hgone
  -- what the worker said last was that the socket is gone, and that has been handled
  rw [Worker.standing, hphase] at hsaid
  rw [← hposted, hsaid.foldl_after] at hstate
  rw [hs] at hstate
  cases hstate

end Scene

theorem Screen.submit_ok (w : Screen) (h : (w.session.submit w.input).1 = .ok ()) :
    w.submit = { w with
      session := (w.session.submit w.input).2
      status :=
        if w.input.isEmpty then "Following all events." else "Query sent: " ++ w.input } := by
  rw [submit]
  generalize w.session.submit w.input = r at h
  obtain ⟨result, s⟩ := r
  cases h
  rfl

/-- The window tells that a selector was refused, and leaves the rest as it is. -/
theorem Screen.submit_error (w : Screen) {f : ConnectionFault}
    (h : (w.session.submit w.input).1 = .error f) :
    w.submit = { w with status := "Query not sent: " ++ w.session.state.label } := by
  have hsame := w.session.submit_refused w.input f h
  rw [submit]
  generalize w.session.submit w.input = r at h hsame
  obtain ⟨result, s⟩ := r
  cases h
  cases hsame
  rfl

/-- In whatever state a session is, between two calls: a selector goes through exactly if the state
is open and the attached worker still takes commands. Then it is the last command of that worker and
the selector that is remembered, the error of the backend is taken back, and nothing else is
different, neither in the session nor with any worker. It is refused because the state is another
one, or because no worker is left that takes it. Then the session that the call leaves is the one
from before, with its table, its errors, the selector it remembers and the queues of its workers,
and so is the scene. The window tells in the status line how it went, and leaves the rest as it is.
In a run a worker is attached whenever the state is open, so it has ended then, and the session has
still to learn of that from the queue. -/
theorem selector_refused_or_sent (c : Scene) (hb : c.batch = none) (q : String) :
    ((c.session.submit q).1 = .ok () ↔ c.session.state = .connected ∧
      ∃ l, c.session.connection.current = some l ∧ l.worker.isGone = false) ∧
    ((c.session.submit q).1 = .ok () →
      c.act (.submit q) = { c with session := (c.session.submit q).2 } ∧
      ∃ l, c.session.connection.current = some l ∧ (c.session.submit q).2 = { c.session with
        connection := { c.session.connection with
          current := some { l with commands := l.commands ++ [.send (selectorFrame q)] } }
        lastQuery := some q
        serverError := none }) ∧
    (∀ f, (c.session.submit q).1 = .error f →
      (c.session.submit q).2 = c.session ∧ c.act (.submit q) = c ∧
      f = if c.session.state = .connected then .workerGone
        else .notConnected c.session.state.label) ∧
    (∀ w : Screen, w.session = c.session → w.input = q →
      ((c.session.submit q).1 = .ok () → w.submit = { w with
        session := (c.session.submit q).2
        status := if q.isEmpty then "Following all events." else "Query sent: " ++ q }) ∧
      ∀ f, (c.session.submit q).1 = .error f →
        w.submit = { w with status := "Query not sent: " ++ c.session.state.label }) ∧
    ∀ policy base maxRows acts, c = (Scene.start policy base maxRows).run acts →
      (c.session.submit q).1 = .error .workerGone →
        ∃ l, c.session.connection.current = some l ∧ l.worker.isGone = true ∧ l.events ≠ [] := by
  have hact := c.act_submit_session q hb
  have hok := c.session.submit_eq_ok_iff q
  have hresult := c.session.submit_result q
  have hsending := c.session.connection.sending q
  generalize (c.session.connection.sendQuery q).1 = r,
    (c.session.connection.sendQuery q).2 = n at hresult hsending
  refine ⟨hok, ?_, ?_, ?_, ?_⟩
  · intro hsent
    obtain ⟨-, l, hl, htakes⟩ := hok.1 hsent
    refine ⟨hact, l, hl, ?_⟩
    rcases c.session.submit_cases q with ⟨-, h⟩ | ⟨f, h⟩
    · rw [h, c.session.connection.offer_of_takes l q hl htakes]
    · rw [h] at hsent
      cases hsent
  · intro f hf
    have hsame := c.session.submit_refused q f hf
    refine ⟨hsame, ?_, ?_⟩
    · rw [hact, hsame]
    · rw [← hresult, hf] at hsending
      cases hsending with
      | notOpen h => exact (if_neg h).symm
      | alone h => exact (if_pos h).symm
      | late h => exact (if_pos h).symm
  · rintro w hw rfl
    rw [← hw]
    exact ⟨w.submit_ok, fun f hf => w.submit_error hf⟩
  · intro policy base maxRows acts hc hf
    rw [← hresult, hf] at hsending
    cases hsending with
    | alone h hnone =>
      -- without a worker the session is disconnected
      have hstate := ((hc ▸ Scene.grounded_run policy base maxRows acts : c.Grounded).detached
        hnone).1
      rw [Session.state, h] at hstate
      cases hstate
    | late h hl hgone =>
      have hevents := Scene.events_ne_nil_of_gone policy base maxRows acts c hc hb h _ hl hgone
      exact ⟨_, hl, hgone, hevents⟩

/-- Before the socket opens, while it is open, and when the backend has closed it unnoticed. -/
theorem selector_refused_or_sent_of_three :
    let opening : List Act := [.connect, .step 0 .done, .step 0 .opened, .step 0 .done]
    let opened : List Act := opening ++ [.drain none, .handle]
    let lost : List Act := opened ++ [.step 0 .nothing, .step 0 .ended, .step 0 .done]
    let c (acts : List Act) := (Scene.start .disabled .epoch 10).run acts
    (c opening).session.submit "a" = (.error (.notConnected "connecting"), (c opening).session) ∧
      (c opening).act (.submit "a") = c opening ∧
      ((c opened).session.submit "a").1 = .ok () ∧
      (c lost).session.submit "a" = (.error .workerGone, (c lost).session) ∧
      (c lost).act (.submit "a") = c lost ∧
      ∃ l, (c lost).session.connection.current = some l ∧ l.events ≠ [] := by
  intro opening opened lost c
  have hspec (acts : List Act) (hb : (c acts).batch = none) :=
    selector_refused_or_sent (c acts) hb "a"
  have hwaits : ((c opening).session.submit "a").1 = .error (.notConnected "connecting") := by
    decide +kernel
  have hgone : ((c lost).session.submit "a").1 = .error .workerGone := by decide +kernel
  obtain ⟨-, -, hrefused, -⟩ := hspec opening (by decide +kernel)
  obtain ⟨hsent, -⟩ := hspec opened (by decide +kernel)
  obtain ⟨-, -, hrefused', -, hlate⟩ := hspec lost (by decide +kernel)
  obtain ⟨l, hl⟩ := Option.isSome_iff_exists.1
    (show (c opened).session.connection.current.isSome = true by decide +kernel)
  have htakes : (c opened).session.connection.current.map (·.worker.isGone) = some false := by
    decide +kernel
  rw [hl, Option.map_some, Option.some_inj] at htakes
  have hsend := hsent.2 ⟨by decide +kernel, l, hl, htakes⟩
  obtain ⟨hsame, hact, -⟩ := hrefused _ hwaits
  obtain ⟨hsame', hact', -⟩ := hrefused' _ hgone
  obtain ⟨m, hm, -, hevents⟩ := hlate .disabled .epoch 10 lost rfl hgone
  exact ⟨Prod.ext hwaits hsame, hact, hsend, Prod.ext hgone hsame', hact', m, hm, hevents⟩

end LiveTail
