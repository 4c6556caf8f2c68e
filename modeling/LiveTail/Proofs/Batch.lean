import LiveTail.Session
/-! What one batch of events does to a session, field by field. The main lemma is about the
connection: a batch brings the state up to date and gives at most one command, the selector for a
socket that was opened in the batch and neither replaced nor closed in it. -/
namespace LiveTail

def Event.frame? : Event → Option String
  | .frame text => some text
  | _ => none

def frames (events : List Event) : List String := events.filterMap Event.frame?

/-- The last one of the events that open or close a socket. -/
def lastTransition (events : List Event) : Option Event :=
  (events.filter Session.isTransition).getLast?

@[simp] theorem frames_nil : frames [] = [] := rfl

@[simp] theorem frames_append (a b : List Event) : frames (a ++ b) = frames a ++ frames b :=
  List.filterMap_append

@[simp] theorem lastTransition_nil : lastTransition [] = none := rfl

@[simp] theorem lastTransition_append (a b : List Event) :
    lastTransition (a ++ b) = (lastTransition b).or (lastTransition a) := by
  simp [lastTransition, List.getLast?_append]

theorem lastTransition_cons (e : Event) (r : List Event) : lastTransition (e :: r) =
    (lastTransition r).or (if Session.isTransition e then some e else none) := by
  rw [← List.singleton_append, lastTransition_append]
  cases e <;> rfl

theorem lastTransition_eq_none_iff (events : List Event) :
    lastTransition events = none ↔ events.any Session.isTransition = false := by
  simp [lastTransition]

/-- The stream after frames, one after the other. -/
def LogStream.feed (s : LogStream) (texts : List String) : LogStream :=
  texts.foldl (fun s t => (s.handleFrame t).2) s

/-- Whether a frame counts as a protocol error: it is no message, and not for want of a type. -/
def Message.isRejected (text : String) : Bool :=
  match decode text with
  | .error .missingType => false
  | .error _ => true
  | .ok _ => false

/-- The text of the last error that the backend reported, after one more frame. -/
def Message.serverErrorAfter (old : Option String) (text : String) : Option String :=
  match decode text with
  | .ok (.serverError text detail) => some (Session.errorText text detail)
  | _ => old

/-- The reason for the last failure of a socket, after one more event. -/
def Event.transportErrorAfter (old : Option String) : Event → Option String
  | .opened => none
  | .error message => some message
  | _ => old

namespace Connection

/-- Gives the command for a selector, if there is one. -/
def offer (c : Connection) (selector : Option String) : Connection :=
  match selector with
  | some q => c.give (.send (selectorFrame q))
  | none => c

theorem give_of_gone (c : Connection) (l : Link) (command : Command) (h : c.current = some l)
    (hg : l.worker.isGone = true) : c.give command = c := by
  obtain ⟨policy, state, current, former, started⟩ := c
  cases h
  simp [give, Link.give, hg]

theorem offer_of_takes (c : Connection) (l : Link) (q : String) (h : c.current = some l)
    (hl : l.worker.isGone = false) : c.offer (some q) = { c with
      current := some { l with commands := l.commands ++ [.send (selectorFrame q)] } } := by
  simp [offer, give, Link.give, h, hl]

/-- What becomes of a selector, with the reason why: the result, and the connection after it. -/
inductive Sending (c : Connection) (q : String) : Except ConnectionFault Unit → Connection → Prop
  | notOpen (h : c.state ≠ .connected) : Sending c q (.error (.notConnected c.state.label)) c
  | alone (h : c.state = .connected) (hc : c.current = none) :
      Sending c q (.error .workerGone) c
  | late {l : Link} (h : c.state = .connected) (hc : c.current = some l)
      (hl : l.worker.isGone = true) : Sending c q (.error .workerGone) c
  | sent {l : Link} (h : c.state = .connected) (hc : c.current = some l)
      (hl : l.worker.isGone = false) : Sending c q (.ok ()) (c.offer (some q))

theorem sending (c : Connection) (q : String) :
    c.Sending q (c.sendQuery q).1 (c.sendQuery q).2 := by
  rw [sendQuery]
  by_cases hs : c.state = .connected
  · rw [if_neg (fun hclosed => hclosed hs)]
    cases hc : c.current with
    | none => exact .alone hs hc
    | some l =>
      cases hl : l.worker.isGone with
      | true =>
        -- the command was given, but it is lost
        simp only [hl, if_true, c.give_of_gone l _ hc hl]
        exact .late hs hc hl
      | false =>
        simp only [hl, Bool.false_eq_true, if_false]
        exact .sent hs hc hl
  · rw [if_pos hs]
    exact .notOpen hs

/-- A selector is offered to the worker only if the connection is open. -/
theorem sendQuery_connection (c : Connection) (q : String) :
    (c.sendQuery q).2 = c.offer (if c.state = .connected then some q else none) := by
  obtain ⟨policy, state, current, former, started⟩ := c
  by_cases hs : state = .connected
  · cases current with
    | none => simp [sendQuery, offer, give, hs]
    | some l => simp [sendQuery, offer, hs]
  · simp [sendQuery, offer, hs]

end Connection

namespace Session

theorem resend_eq (s : Session) (h : s.connection.state = .connected) :
    s.resend = { s with connection := s.connection.offer s.lastQuery } := by
  obtain ⟨c, stream, lastQuery, errors, serverError, transportError⟩ := s
  cases lastQuery with
  | none => rfl
  | some q =>
    have hstate : c.state = .connected := h
    simp only [resend, c.sendQuery_connection, hstate, if_true]

theorem handleFrame_session (b : Batch) (text : String) : (handleFrame b text).session =
    { b.session with
      stream := b.session.stream.feed [text]
      protocolErrors := b.session.protocolErrors + [text].countP Message.isRejected
      serverError := Message.serverErrorAfter b.session.serverError text } := by
  cases hd : Message.decode text with
  | error f =>
    cases f <;> simp [handleFrame, LogStream.handleFrame, LogStream.feed, Message.isRejected,
      Message.serverErrorAfter, hd]
  | ok m =>
    cases m <;> simp [handleFrame, LogStream.handleFrame, LogStream.feed, LogStream.apply,
      Message.isRejected, Message.serverErrorAfter, hd]

/-- What one event does: the state follows it, a socket that it opened is offered the last selector
if it is current, and a frame goes to the stream. -/
theorem handleOne_session (b : Batch) (e : Event) (current : Bool) :
    (handleOne b e current).session =
      { connection := (b.session.connection.apply e).offer
          (if e = .opened ∧ current = true then b.session.lastQuery else none)
        stream := b.session.stream.feed e.frame?.toList
        lastQuery := b.session.lastQuery
        protocolErrors := b.session.protocolErrors + e.frame?.toList.countP Message.isRejected
        serverError := e.frame?.toList.foldl Message.serverErrorAfter b.session.serverError
        transportError := e.transportErrorAfter b.session.transportError } := by
  cases e with
  | opened =>
    cases current with
    | false => rfl
    | true =>
      simp only [handleOne, dispatch, if_true]
      rw [resend_eq _ rfl]
      rfl
  | frame text =>
    simp only [handleOne, dispatch, handleFrame_session, Event.frame?]
    rfl
  | _ => rfl

/-- What a batch does. Of the sockets that were opened in it only the last one can be offered the
selector, and only if it was not closed in it. -/
theorem handleAll_session (b : Batch) (events : List Event) :
    (handleAll b events).session =
      { connection := ({ b.session.connection with
            state := events.foldl ConnectionState.after b.session.connection.state } :
            Connection).offer
          (if lastTransition events = some .opened then b.session.lastQuery else none)
        stream := b.session.stream.feed (frames events)
        lastQuery := b.session.lastQuery
        protocolErrors := b.session.protocolErrors + (frames events).countP Message.isRejected
        serverError := (frames events).foldl Message.serverErrorAfter b.session.serverError
        transportError := events.foldl Event.transportErrorAfter b.session.transportError } := by
  induction events generalizing b with
  | nil => rfl
  | cons e r ih =>
    have hf : frames (e :: r) = e.frame?.toList ++ frames r := by
      cases e <;> rfl
    simp only [handleAll, ih, handleOne_session, hf, LogStream.feed, List.foldl_append,
      List.countP_append, List.foldl_cons, Nat.add_assoc]
    congr 1
    -- the event counts as current only if no later one opens or closes a socket
    cases hr : r.any isTransition with
    | true =>
      obtain ⟨t, ht⟩ := Option.ne_none_iff_exists'.1
        (mt (lastTransition_eq_none_iff r).1 (by simp [hr]))
      simp only [lastTransition_cons, ht, Option.some_or, Bool.not_true, Bool.and_false,
        Bool.false_eq_true, and_false, if_false]
      rfl
    | false =>
      have hn := (lastTransition_eq_none_iff r).2 hr
      simp only [lastTransition_cons, hn, Option.none_or, Bool.not_false, Bool.and_true,
        reduceCtorEq, if_false]
      cases e with
      | opened => cases b.session.lastQuery <;> rfl
      | _ => rfl

theorem handleEvents_session (s : Session) (events : List Event) :
    (s.handleEvents events).2 =
      { connection := ({ s.connection with
            state := events.foldl ConnectionState.after s.connection.state } : Connection).offer
          (if lastTransition events = some .opened then s.lastQuery else none)
        stream := s.stream.feed (frames events)
        lastQuery := s.lastQuery
        protocolErrors := s.protocolErrors + (frames events).countP Message.isRejected
        serverError := (frames events).foldl Message.serverErrorAfter s.serverError
        transportError := events.foldl Event.transportErrorAfter s.transportError } :=
  handleAll_session _ events

theorem submit_result (s : Session) (q : String) :
    (s.submit q).1 = (s.connection.sendQuery q).1 := by
  rw [submit]
  split
  case h_1 f c h => rw [h]
  case h_2 c h => rw [h]

theorem submit_connection (s : Session) (q : String) : (s.submit q).2.connection =
    s.connection.offer (if s.connection.state = .connected then some q else none) := by
  rw [← Connection.sendQuery_connection, submit]
  split
  case h_1 f c h => rw [h]
  case h_2 c h => rw [h]

/-- A selector goes out as one command and is remembered, or it is refused and the session is as it
was. -/
theorem submit_cases (s : Session) (q : String) :
    (s.connection.state = .connected ∧ s.submit q = (.ok (), { s with
      connection := s.connection.offer (some q), lastQuery := some q, serverError := none })) ∨
    ∃ f, s.submit q = (.error f, s) := by
  have hsending := s.connection.sending q
  rw [submit]
  generalize s.connection.sendQuery q = r at hsending
  obtain ⟨result, c⟩ := r
  cases hsending with
  | notOpen | alone | late => exact .inr ⟨_, rfl⟩
  | sent hs => exact .inl ⟨hs, rfl⟩

end Session

end LiveTail
