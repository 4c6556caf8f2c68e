import LiveTail.Connection.Link
/-! The turns of a worker: each exchange of a call and its reply, with what the worker is before and
after it. Every reply that fits the call of a worker makes one of these turns, and any other reply
leaves the worker as it is. -/
namespace LiveTail

/-- A call of a worker and the reply to it. -/
structure Exchange where
  call : Call
  reply : Reply
  deriving DecidableEq, Repr

namespace Exchange

def posted? : Exchange → Option Event
  | ⟨.post e, .done⟩ => some e
  | _ => none

def received? : Exchange → Option String
  | ⟨.receive, .text t⟩ => some t
  | _ => none

def taken? : Exchange → Option Command
  | ⟨.poll, .command c⟩ | ⟨.wait _, .command c⟩ => some c
  | _ => none

/-- The text that the socket has been given to send. -/
def given? : Exchange → Option String
  | ⟨.send t, .done⟩ | ⟨.send t, .failed _⟩ => some t
  | _ => none

/-- The event that the exchange gives rise to. An open socket and a text that came in are posted
only by a later exchange. -/
def news? : Exchange → Option Event
  | ⟨.connect, .opened⟩ => some .opened
  | ⟨.receive, .text t⟩ => some (.frame t)
  | ⟨.post (.connecting n), .done⟩ => some (.connecting n)
  | ⟨.post (.error m), .done⟩ => some (.error m)
  | ⟨.post (.closed r), .done⟩ => some (.closed r)
  | _ => none

theorem eq_of_news_opened (x : Exchange) (h : x.news? = some .opened) :
    x = ⟨.connect, .opened⟩ := by
  unfold news? at h
  split at h <;> first | rfl | cases h

end Exchange

def Command.text? : Command → Option String
  | .send t => some t
  | .close => none

def texts (commands : List Command) : List String := commands.filterMap Command.text?

@[simp] theorem texts_nil : texts [] = [] := rfl

@[simp] theorem texts_append (a b : List Command) : texts (a ++ b) = texts a ++ texts b :=
  List.filterMap_append

/-- Whether a reply is one to the call. -/
def Call.takes : Call → Reply → Bool
  | .post _, .done | .post _, .lost => true
  | .connect, .opened | .connect, .failed _ => true
  | .poll, .command _ | .poll, .nothing | .poll, .abandoned => true
  | .send _, .done | .send _, .failed _ => true
  | .receive, .text _ | .receive, .nothing | .receive, .ended | .receive, .failed _ => true
  | .close, .done => true
  | .wait _, .command _ | .wait _, .abandoned | .wait _, .elapsed => true
  | _, _ => false

namespace Worker

/-- The turns of a worker by the phase it is in. A post that nobody hears ends the worker, unless it
holds a socket that it has to close first. -/
inductive Turn : Worker → Exchange → Worker → Prop where
  -- an attempt, up to the news of how it went
  | announced (p n b) : Turn ⟨p, .announcing, n, b⟩
      ⟨.post (.connecting (n + 1)), .done⟩ ⟨p, .connecting, n + 1, b⟩
  | opened (p n b) : Turn ⟨p, .connecting, n, b⟩ ⟨.connect, .opened⟩ ⟨p, .opening, 0, p.initial⟩
  | refused (p n b m) : Turn ⟨p, .connecting, n, b⟩ ⟨.connect, .failed m⟩ ⟨p, .refused m, n, b⟩
  | entered (p n b) : Turn ⟨p, .opening, n, b⟩ ⟨.post .opened, .done⟩ ⟨p, .polling, n, b⟩
  | excused (p n b m) :
      Turn ⟨p, .refused m, n, b⟩ ⟨.post (.error m), .done⟩ ⟨p, .ended .failed, n, b⟩
  -- a socket and the two queues
  | picked (p n b t) : Turn ⟨p, .polling, n, b⟩ ⟨.poll, .command (.send t)⟩ ⟨p, .sending t, n, b⟩
  | toldToClose (p n b) :
      Turn ⟨p, .polling, n, b⟩ ⟨.poll, .command .close⟩ ⟨p, .hangingUp .here, n, b⟩
  | leftAlone (p n b) : Turn ⟨p, .polling, n, b⟩ ⟨.poll, .abandoned⟩ ⟨p, .hangingUp .here, n, b⟩
  | polled (p n b) : Turn ⟨p, .polling, n, b⟩ ⟨.poll, .nothing⟩ ⟨p, .receiving, n, b⟩
  | sent (p n b t) : Turn ⟨p, .sending t, n, b⟩ ⟨.send t, .done⟩ ⟨p, .polling, n, b⟩
  | unsent (p n b t m) : Turn ⟨p, .sending t, n, b⟩ ⟨.send t, .failed m⟩ ⟨p, .breaking m, n, b⟩
  | received (p n b f) : Turn ⟨p, .receiving, n, b⟩ ⟨.receive, .text f⟩ ⟨p, .forwarding f, n, b⟩
  | idled (p n b) : Turn ⟨p, .receiving, n, b⟩ ⟨.receive, .nothing⟩ ⟨p, .polling, n, b⟩
  | closedBeyond (p n b) : Turn ⟨p, .receiving, n, b⟩ ⟨.receive, .ended⟩ ⟨p, .ended .remote, n, b⟩
  | broke (p n b m) : Turn ⟨p, .receiving, n, b⟩ ⟨.receive, .failed m⟩ ⟨p, .breaking m, n, b⟩
  | forwarded (p n b f) :
      Turn ⟨p, .forwarding f, n, b⟩ ⟨.post (.frame f), .done⟩ ⟨p, .polling, n, b⟩
  | unheardFrame (p n b f) :
      Turn ⟨p, .forwarding f, n, b⟩ ⟨.post (.frame f), .lost⟩ ⟨p, .hangingUp .here, n, b⟩
  | complained (p n b m) :
      Turn ⟨p, .breaking m, n, b⟩ ⟨.post (.error m), .done⟩ ⟨p, .hangingUp .failed, n, b⟩
  | unheardError (p n b m) :
      Turn ⟨p, .breaking m, n, b⟩ ⟨.post (.error m), .lost⟩ ⟨p, .hangingUp .failed, n, b⟩
  | hungUp (p n b r) : Turn ⟨p, .hangingUp r, n, b⟩ ⟨.close, .done⟩ ⟨p, .ended r, n, b⟩
  -- the end of a connection, and the wait for the next attempt
  | paused (p : ReconnectPolicy) (n b r) (on : p.enabled = true) (again : r ≠ .here) :
      Turn ⟨p, .ended r, n, b⟩ ⟨.post (.closed r), .done⟩ ⟨p, .waiting, n, b⟩
  | finished (p : ReconnectPolicy) (n b r) (last : p.enabled = true → r = .here) :
      Turn ⟨p, .ended r, n, b⟩ ⟨.post (.closed r), .done⟩ ⟨p, .gone, n, b⟩
  | elapsed (p n b) :
      Turn ⟨p, .waiting, n, b⟩ ⟨.wait b, .elapsed⟩ ⟨p, .announcing, n, p.next b⟩
  | dropped (p n b t) : Turn ⟨p, .waiting, n, b⟩ ⟨.wait b, .command (.send t)⟩ ⟨p, .waiting, n, b⟩
  | toldToStop (p n b) :
      Turn ⟨p, .waiting, n, b⟩ ⟨.wait b, .command .close⟩ ⟨p, .stopping, n, b⟩
  | leftWaiting (p n b) : Turn ⟨p, .waiting, n, b⟩ ⟨.wait b, .abandoned⟩ ⟨p, .stopping, n, b⟩
  | stopped (p n b) : Turn ⟨p, .stopping, n, b⟩ ⟨.post (.closed .here), .done⟩ ⟨p, .gone, n, b⟩
  -- posts that nobody hears and that end the worker
  | unheardAttempt (p n b) :
      Turn ⟨p, .announcing, n, b⟩ ⟨.post (.connecting (n + 1)), .lost⟩ ⟨p, .gone, n, b⟩
  | unheardOpen (p n b) : Turn ⟨p, .opening, n, b⟩ ⟨.post .opened, .lost⟩ ⟨p, .gone, n, b⟩
  | unheardRefusal (p n b m) : Turn ⟨p, .refused m, n, b⟩ ⟨.post (.error m), .lost⟩ ⟨p, .gone, n, b⟩
  | unheardEnd (p n b r) : Turn ⟨p, .ended r, n, b⟩ ⟨.post (.closed r), .lost⟩ ⟨p, .gone, n, b⟩
  | unheardStop (p n b) :
      Turn ⟨p, .stopping, n, b⟩ ⟨.post (.closed .here), .lost⟩ ⟨p, .gone, n, b⟩

theorem turn_resume (w : Worker) (r : Reply) (h : w.call.takes r = true) :
    w.Turn ⟨w.call, r⟩ (w.resume r) := by
  obtain ⟨p, phase, n, b⟩ := w
  cases phase with
  | polling =>
    cases r with
    | command c => cases c <;> constructor
    | nothing => constructor
    | abandoned => constructor
    | _ => cases h
  | waiting =>
    cases r with
    | command c => cases c <;> constructor
    | elapsed => constructor
    | abandoned => constructor
    | _ => cases h
  | ended reason =>
    cases r with
    | done =>
      simp only [resume]
      split
      · rename_i again
        simp only [retries, Bool.and_eq_true, decide_eq_true_eq] at again
        exact .paused p n b reason again.1 again.2
      · rename_i last
        simp only [retries, Bool.and_eq_true, decide_eq_true_eq, not_and, Classical.not_not] at last
        exact .finished p n b reason last
    | lost => constructor
    | _ => cases h
  | gone => cases h
  | _ => cases r <;> first | constructor | cases h

theorem resume_of_not_takes (w : Worker) (r : Reply) (h : w.call.takes r = false) :
    w.resume r = w := by
  obtain ⟨p, phase, n, b⟩ := w
  cases phase <;> cases r <;> first | rfl | cases h

/-- Whether the worker has a socket. -/
def holds (w : Worker) : Bool :=
  match w.phase with
  | .opening | .polling | .sending _ | .receiving | .forwarding _ | .breaking _
  | .hangingUp _ => true
  | _ => false

theorem isGone_of_holds (w : Worker) (h : w.holds = true) : w.isGone = false := by
  obtain ⟨p, phase, n, b⟩ := w
  cases phase <;> first | rfl | cases h

/-- Whether the worker has a socket that has not failed it. -/
def talks (w : Worker) : Bool :=
  match w.phase with
  | .opening | .polling | .sending _ | .receiving | .forwarding _ => true
  | _ => false

def inHand (w : Worker) : List String :=
  match w.phase with
  | .sending t => [t]
  | _ => []

/-- The news that the worker has still to post. -/
def unposted (w : Worker) : List Event :=
  match w.phase with
  | .opening => [.opened]
  | .forwarding t => [.frame t]
  | _ => []

/-- News is posted in order; if nobody hears, it is lost. -/
theorem Turn.posted_sublist {w w' : Worker} {x : Exchange} (h : w.Turn x w') :
    (x.posted?.toList ++ w'.unposted).Sublist (w.unposted ++ x.news?.toList) := by
  cases h <;> simp [Exchange.posted?, Exchange.news?, unposted]

theorem Turn.posted_unposted {w w' : Worker} {x : Exchange} (h : w.Turn x w')
    (hx : x.reply ≠ .lost) :
    x.posted?.toList ++ w'.unposted = w.unposted ++ x.news?.toList := by
  cases h <;> first | rfl | exact absurd rfl hx

/-- A socket is given only what a command has asked to send. -/
theorem Turn.given_sublist {w w' : Worker} {x : Exchange} (h : w.Turn x w') :
    (x.given?.toList ++ w'.inHand).Sublist (w.inHand ++ texts x.taken?.toList) := by
  cases h <;> simp [Exchange.given?, Exchange.taken?, inHand, texts, Command.text?]

/-- A worker with a socket has just opened it, or it had it before; then it has no news of another
socket, and it drops no text. -/
theorem Turn.holds_cases {w w' : Worker} {x : Exchange} (h : w.Turn x w') (hw : w'.holds = true) :
    x = ⟨.connect, .opened⟩ ∨ w.holds = true ∧ x ≠ ⟨.connect, .opened⟩ ∧
      x.news? ≠ some .opened ∧ (∀ r, x.news? ≠ some (.closed r)) := by
  cases h <;> simp [Exchange.news?, holds] at hw ⊢

theorem Turn.given_eq {w w' : Worker} {x : Exchange} (h : w.Turn x w') (hw : w'.holds = true) :
    x.given?.toList ++ w'.inHand = w.inHand ++ texts x.taken?.toList := by
  cases h <;> simp [Exchange.given?, Exchange.taken?, inHand, texts, Command.text?, holds] at hw ⊢

theorem Turn.given_of_not_talks {w w' : Worker} {x : Exchange} (h : w.Turn x w')
    (hw : w.talks = false) : x.given? = none := by
  cases h <;> simp [Exchange.given?, talks] at hw ⊢

theorem Turn.isGone_eq_false {w w' : Worker} {x : Exchange} (h : w.Turn x w') :
    w.isGone = false := by
  cases h <;> rfl

theorem Turn.policy_eq {w w' : Worker} {x : Exchange} (h : w.Turn x w') : w'.policy = w.policy := by
  cases h <;> rfl

theorem Turn.call_of_lost {w w' : Worker} {x : Exchange} (h : w.Turn x w') (hx : x.reply = .lost) :
    ∃ e, x.call = .post e := by
  cases h <;> simp at hx ⊢

theorem Turn.talks_cases {w w' : Worker} {x : Exchange} (h : w.Turn x w') (hw : w'.talks = true) :
    x = ⟨.connect, .opened⟩ ∨ w.talks = true ∧ ∀ t m, x ≠ ⟨.send t, .failed m⟩ := by
  cases h <;> simp [talks] at hw ⊢

/-- Only a worker that is gone makes no call. -/
theorem call_eq_rest_iff (w : Worker) : w.call = .rest ↔ w.isGone = true := by
  obtain ⟨p, phase, n, b⟩ := w
  cases phase <;> simp [call, isGone]

end Worker

end LiveTail
