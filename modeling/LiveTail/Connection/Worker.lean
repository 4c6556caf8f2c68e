import LiveTail.Connection.Policy
import LiveTail.Connection.State
/-! The worker that owns the socket. It is a machine that makes one call at a time and goes on by
the reply: it announces an attempt, connects, forwards frames and commands until the socket goes
away, and tries again after a delay if the policy allows. -/
namespace LiveTail

/-- What a worker is asked to do. -/
inductive Command where
  | send (text : String)
  | close
  deriving DecidableEq, Repr

/-- What a worker asks of what is around it. -/
inductive Call where
  | post (event : Event)
  | connect
  | poll
  | send (text : String)
  | receive
  | close
  | wait (delay : Duration)
  | rest
  deriving DecidableEq, Repr

/-- The reply to a call. A post is lost if nobody listens; a poll or wait finds a command, nothing,
or that nobody can give commands any more; a wait ends when its time is over. -/
inductive Reply where
  | done
  | lost
  | opened
  | failed (message : String)
  | command (c : Command)
  | nothing
  | abandoned
  | text (frame : String)
  | ended
  | elapsed
  deriving DecidableEq, Repr

/-- Where a worker stands. -/
inductive Phase where
  | announcing
  | connecting
  | opening
  | refused (message : String)
  | polling
  | sending (text : String)
  | receiving
  | forwarding (frame : String)
  | breaking (message : String)
  | hangingUp (reason : CloseReason)
  | ended (reason : CloseReason)
  | waiting
  | stopping
  | gone
  deriving DecidableEq, Repr

/-- A worker: where it stands, how many attempts have been announced since the last one that opened,
and the delay before the next attempt. The count has no bound. A counter of 32 bits counts the same
as long as fewer than 2 ^ 32 attempts are refused one after the other; it has no number for the next
one. -/
structure Worker where
  policy : ReconnectPolicy
  phase : Phase
  attempt : Nat
  backoff : Duration
  deriving DecidableEq, Repr

namespace Worker

/-- A worker that has not begun. -/
def start (policy : ReconnectPolicy) : Worker := ⟨policy, .announcing, 0, policy.initial⟩

/-- The number of the next attempt. -/
def nextAttempt (w : Worker) : Nat := w.attempt + 1

/-- The call that a worker makes next. -/
def call (w : Worker) : Call :=
  match w.phase with
  | .announcing => .post (.connecting w.nextAttempt)
  | .connecting => .connect
  | .opening => .post .opened
  | .refused message => .post (.error message)
  | .polling => .poll
  | .sending text => .send text
  | .receiving => .receive
  | .forwarding frame => .post (.frame frame)
  | .breaking message => .post (.error message)
  | .hangingUp _ => .close
  | .ended reason => .post (.closed reason)
  | .waiting => .wait w.backoff
  | .stopping => .post (.closed .here)
  | .gone => .rest

/-- The same worker in another phase. -/
def goTo (w : Worker) (phase : Phase) : Worker := { w with phase := phase }

/-- Whether another attempt follows a connection that ended. -/
def retries (w : Worker) (reason : CloseReason) : Bool := w.policy.enabled && reason ≠ .here

/-- The worker after the reply to its call; a reply that is none to the call changes nothing. -/
def resume (w : Worker) (reply : Reply) : Worker :=
  match w.phase, reply with
  | .announcing, .done => { w with phase := .connecting, attempt := w.nextAttempt }
  | .announcing, .lost => w.goTo .gone
  | .connecting, .opened =>
    { w with phase := .opening, attempt := 0, backoff := w.policy.initial }
  | .connecting, .failed message => w.goTo (.refused message)
  | .opening, .done => w.goTo .polling
  | .opening, .lost => w.goTo .gone
  | .refused _, .done => w.goTo (.ended .failed)
  | .refused _, .lost => w.goTo .gone
  | .polling, .command (.send text) => w.goTo (.sending text)
  | .polling, .command .close => w.goTo (.hangingUp .here)
  | .polling, .abandoned => w.goTo (.hangingUp .here)
  | .polling, .nothing => w.goTo .receiving
  | .sending _, .done => w.goTo .polling
  | .sending _, .failed message => w.goTo (.breaking message)
  | .receiving, .text frame => w.goTo (.forwarding frame)
  | .receiving, .nothing => w.goTo .polling
  | .receiving, .ended => w.goTo (.ended .remote)
  | .receiving, .failed message => w.goTo (.breaking message)
  | .forwarding _, .done => w.goTo .polling
  | .forwarding _, .lost => w.goTo (.hangingUp .here)
  | .breaking _, .done => w.goTo (.hangingUp .failed)
  | .breaking _, .lost => w.goTo (.hangingUp .failed)
  | .hangingUp reason, .done => w.goTo (.ended reason)
  | .ended reason, .done => if w.retries reason then w.goTo .waiting else w.goTo .gone
  | .ended _, .lost => w.goTo .gone
  | .waiting, .elapsed =>
    { w with phase := .announcing, backoff := w.policy.next w.backoff }
  | .waiting, .command (.send _) => w
  | .waiting, .command .close => w.goTo .stopping
  | .waiting, .abandoned => w.goTo .stopping
  | .stopping, .done => w.goTo .gone
  | .stopping, .lost => w.goTo .gone
  | _, _ => w

/-- A worker that is gone takes no commands. -/
def isGone (w : Worker) : Bool := w.phase == .gone

end Worker

end LiveTail
