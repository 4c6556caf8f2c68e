import LiveTail.Proofs.Batch
/-! Events that are handled in consecutive batches, while the workers go on in between. What the
session knows in the end depends on the events alone. How they are cut shows only in the selectors
that are given to the worker: a socket that opened is passed over if it ends in the same batch. -/
namespace LiveTail

namespace Message

/-- Whether a frame adds a row. -/
def isLog (text : String) : Bool :=
  match decode text with
  | .ok (.log _) => true
  | _ => false

def isClear (text : String) : Bool :=
  match decode text with
  | .ok .clear => true
  | _ => false

end Message

/-- What a session knows. Its workers are not part of it. -/
structure Knowledge where
  state : ConnectionState
  stream : LogStream
  lastQuery : Option String
  protocolErrors : Nat
  serverError : Option String
  transportError : Option String
  deriving DecidableEq

/-- The knowledge after some events. -/
def Knowledge.after (k : Knowledge) (events : List Event) : Knowledge where
  state := events.foldl ConnectionState.after k.state
  stream := k.stream.feed (frames events)
  lastQuery := k.lastQuery
  protocolErrors := k.protocolErrors + (frames events).countP Message.isRejected
  serverError := (frames events).foldl Message.serverErrorAfter k.serverError
  transportError := events.foldl Event.transportErrorAfter k.transportError

theorem Knowledge.after_append (k : Knowledge) (a b : List Event) :
    k.after (a ++ b) = (k.after a).after b := by
  simp only [after, LogStream.feed, frames_append, List.foldl_append, List.countP_append,
    Nat.add_assoc]

/-- What summaries say about the events themselves, added up. -/
structure Tally where
  events : Nat
  rowsAppended : Nat
  protocolErrors : Nat
  cleared : Bool
  deriving DecidableEq

namespace Tally

def zero : Tally := ⟨0, 0, 0, false⟩

def add (a b : Tally) : Tally :=
  ⟨a.events + b.events, a.rowsAppended + b.rowsAppended, a.protocolErrors + b.protocolErrors,
    a.cleared || b.cleared⟩

def ofSummary (s : Summary) : Tally := ⟨s.events, s.rowsAppended, s.protocolErrors, s.cleared⟩

/-- The sums of the counts of summaries, and whether one of them says that the table was cleared. -/
def total : List Summary → Tally
  | [] => zero
  | s :: r => (ofSummary s).add (total r)

/-- What there is to count in events. -/
def count (events : List Event) : Tally where
  events := events.length
  rowsAppended := (frames events).countP Message.isLog
  protocolErrors := (frames events).countP Message.isRejected
  cleared := (frames events).any Message.isClear

theorem count_append (a b : List Event) : count (a ++ b) = (count a).add (count b) := by
  simp [count, add]

end Tally

/-- What can happen to the workers between two batches: a hook is fired or given up, or a worker
makes a step. -/
inductive Stir where
  | fire (hook : ShutdownHook)
  | dropHook (hook : ShutdownHook)
  | step (serial : Nat) (outside : Reply)
  deriving DecidableEq, Repr

namespace Connection

def stir (c : Connection) : Stir → Connection
  | .fire h => c.fire h
  | .dropHook h => c.dropHook h
  | .step k o => c.step k o

/-- The commands that wait for the attached worker. -/
def backlog (c : Connection) : List Command := (c.current.map (·.commands)).getD []

/-- Whether the attached worker still takes commands. -/
def takes (c : Connection) : Bool := c.current.any (fun l => !l.worker.isGone)

/-- The connection in another state, and with more commands for the attached worker. -/
def extended (c : Connection) (s : ConnectionState) (commands : List Command) : Connection :=
  { c with
    state := s
    current := c.current.map (fun l => { l with commands := l.commands ++ commands }) }

/-- A selector that is offered is given if there is a worker to take it. -/
theorem offer_eq (c : Connection) (q : Option String) : c.offer q =
    c.extended c.state (if c.takes then q.toList.map (.send <| selectorFrame ·) else []) := by
  obtain ⟨policy, state, current, former, started⟩ := c
  cases current with
  | none => cases q <;> rfl
  | some l =>
    cases hg : l.worker.isGone <;> cases q <;> simp [offer, give, Link.give, extended, takes, hg]

theorem extended_backlog (c : Connection) (s : ConnectionState) (commands : List Command) :
    (c.extended s commands).backlog = c.backlog ++ if c.current.isSome then commands else [] := by
  cases hc : c.current <;> simp [extended, backlog, hc]

theorem extended_nil (c : Connection) : c.extended c.state [] = c := by
  obtain ⟨policy, state, current, former, started⟩ := c
  cases current <;> simp [extended]

theorem extended_extended (c : Connection) (s t : ConnectionState) (a b : List Command) :
    (c.extended s a).extended t b = c.extended t (a ++ b) := by
  cases hc : c.current <;> simp [extended, hc]

end Connection

/-- A batch of events, and what happens to the workers before it is handled. -/
structure Round where
  before : List Stir
  events : List Event
  deriving DecidableEq, Repr

namespace Session

def knowledge (s : Session) : Knowledge :=
  ⟨s.state, s.stream, s.lastQuery, s.protocolErrors, s.serverError, s.transportError⟩

theorem handleFrame_counts (b : Batch) (text : String) :
    (handleFrame b text).rowsAppended = b.rowsAppended + [text].countP Message.isLog ∧
      (handleFrame b text).protocolErrors = b.protocolErrors + [text].countP Message.isRejected ∧
      (handleFrame b text).cleared = (b.cleared || [text].any Message.isClear) := by
  cases hd : Message.decode text with
  | error f =>
    cases f <;> simp [handleFrame, LogStream.handleFrame, Message.isLog, Message.isRejected,
      Message.isClear, hd]
  | ok m =>
    cases m <;> simp [handleFrame, LogStream.handleFrame, LogStream.apply, Message.isLog,
      Message.isRejected, Message.isClear, hd]

theorem handleOne_counts (b : Batch) (e : Event) (current : Bool) :
    (handleOne b e current).rowsAppended =
        b.rowsAppended + e.frame?.toList.countP Message.isLog ∧
      (handleOne b e current).protocolErrors =
        b.protocolErrors + e.frame?.toList.countP Message.isRejected ∧
      (handleOne b e current).cleared = (b.cleared || e.frame?.toList.any Message.isClear) := by
  cases e with
  | frame text => exact handleFrame_counts _ text
  | _ => simp [handleOne, dispatch, Event.frame?]

theorem handleAll_counts (b : Batch) (events : List Event) :
    (handleAll b events).rowsAppended = b.rowsAppended + (frames events).countP Message.isLog ∧
      (handleAll b events).protocolErrors =
        b.protocolErrors + (frames events).countP Message.isRejected ∧
      (handleAll b events).cleared = (b.cleared || (frames events).any Message.isClear) := by
  induction events generalizing b with
  | nil => simp [handleAll]
  | cons e r ih =>
    have hf : frames (e :: r) = e.frame?.toList ++ frames r := by
      cases e <;> rfl
    have hone := handleOne_counts b e (isTransition e && !r.any isTransition)
    rw [handleAll, hf, List.countP_append, List.countP_append, List.any_append, ← Nat.add_assoc,
      ← Nat.add_assoc, ← Bool.or_assoc, ← hone.1, ← hone.2.1, ← hone.2.2]
    exact ih _

theorem handleEvents_tally (s : Session) (events : List Event) :
    Tally.ofSummary (s.handleEvents events).1 = Tally.count events := by
  obtain ⟨hrows, herrors, hcleared⟩ := handleAll_counts { session := s } events
  simp [handleEvents, Tally.ofSummary, Tally.count, hrows, herrors, hcleared]

theorem handleEvents_knowledge (s : Session) (events : List Event) :
    (s.handleEvents events).2.knowledge = s.knowledge.after events := by
  simp [handleEvents_session, knowledge, Knowledge.after, state, Connection.offer_eq,
    Connection.extended]

/-- The commands that the attached worker is given by a batch. -/
def pushed (s : Session) (events : List Event) : List Command :=
  (s.handleEvents events).2.connection.backlog.drop s.connection.backlog.length

/-- Whether the last socket that was opened in a batch is still open at its end. -/
def reopens (events : List Event) : Bool := lastTransition events = some .opened

/-- A batch gives the last selector if it leaves a new socket open and the worker takes commands,
and that and the state are all that it changes in the connection. -/
theorem handleEvents_connection (s : Session) (events : List Event) :
    s.pushed events = (if s.connection.takes ∧ reopens events then
      s.lastQuery.toList.map (.send <| selectorFrame ·) else []) ∧
    (s.handleEvents events).2.connection =
      s.connection.extended (events.foldl ConnectionState.after s.state) (s.pushed events) := by
  have hall : (s.handleEvents events).2.connection =
      s.connection.extended (events.foldl ConnectionState.after s.state)
        (if s.connection.takes ∧ reopens events then
          s.lastQuery.toList.map (.send <| selectorFrame ·) else []) := by
    rw [handleEvents_session, Connection.offer_eq]
    -- whether there is a worker to take the selector does not depend on the state
    change s.connection.extended _ (if s.connection.takes then _ else _) = _
    congr 1
    cases s.connection.takes <;> by_cases hr : lastTransition events = some .opened <;>
      simp [reopens, hr]
  have hpushed : s.pushed events = if s.connection.takes ∧ reopens events then
      s.lastQuery.toList.map (.send <| selectorFrame ·) else [] := by
    rw [pushed, hall, Connection.extended_backlog, List.drop_left]
    cases hc : s.connection.current <;> simp [Connection.takes, hc]
  exact ⟨hpushed, hpushed ▸ hall⟩

/-- A session between two batches: what happens to the workers does nothing else. -/
def enter (s : Session) (r : Round) : Session :=
  { s with connection := r.before.foldl Connection.stir s.connection }

/-- The batch of a round. -/
def round (s : Session) (r : Round) : Summary × Session := (s.enter r).handleEvents r.events

/-- Rounds one after the other. -/
def handleCut (s : Session) : List Round → List Summary × Session
  | [] => ([], s)
  | r :: rest =>
    let (summaries, s') := (s.round r).2.handleCut rest
    ((s.round r).1 :: summaries, s')

/-- The commands that the attached worker is given in the rounds. -/
def pushes (s : Session) : List Round → List Command
  | [] => []
  | r :: rest => (s.enter r).pushed r.events ++ (s.round r).2.pushes rest

/-- Whether the attached worker takes commands, round by round. -/
def receivers (s : Session) : List Round → List Bool
  | [] => []
  | r :: rest => (s.enter r).connection.takes :: (s.round r).2.receivers rest

theorem state_stir (c : Connection) (a : Stir) : (c.stir a).state = c.state := by
  cases a <;> rfl

theorem enter_knowledge (s : Session) (r : Round) : (s.enter r).knowledge = s.knowledge := by
  have hstate : (r.before.foldl Connection.stir s.connection).state = s.connection.state := by
    generalize s.connection = c
    induction r.before generalizing c with
    | nil => rfl
    | cons a rest ih => exact (ih _).trans (state_stir c a)
  simp [knowledge, state, enter, hstate]

theorem round_knowledge (s : Session) (r : Round) :
    (s.round r).2.knowledge = s.knowledge.after r.events := by
  rw [round, handleEvents_knowledge, enter_knowledge]

theorem handleCut_knowledge (s : Session) (cut : List Round) :
    (s.handleCut cut).2.knowledge = s.knowledge.after (cut.flatMap Round.events) := by
  induction cut generalizing s with
  | nil => rfl
  | cons r rest ih =>
    rw [List.flatMap_cons, Knowledge.after_append, ← round_knowledge]
    exact ih _

theorem handleCut_tally (s : Session) (cut : List Round) :
    Tally.total (s.handleCut cut).1 = Tally.count (cut.flatMap Round.events) := by
  induction cut generalizing s with
  | nil => rfl
  | cons r rest ih =>
    rw [List.flatMap_cons, Tally.count_append, ← (s.enter r).handleEvents_tally, ← ih (s.round r).2]
    rfl

theorem lastQuery_round (s : Session) (r : Round) : (s.round r).2.lastQuery = s.lastQuery :=
  congrArg Knowledge.lastQuery (s.round_knowledge r)

theorem pushed_round (s : Session) (r : Round) : (s.enter r).pushed r.events =
    if (s.enter r).connection.takes ∧ reopens r.events then
      s.lastQuery.toList.map (.send <| selectorFrame ·) else [] :=
  ((s.enter r).handleEvents_connection r.events).1

theorem mem_pushes (s : Session) (cut : List Round) (c : Command) (h : c ∈ s.pushes cut) :
    ∃ q, s.lastQuery = some q ∧ c = .send (selectorFrame q) := by
  induction cut generalizing s with
  | nil => cases h
  | cons r rest ih =>
    rw [pushes, List.mem_append, pushed_round] at h
    rcases h with h | h
    · split at h
      · obtain ⟨q, hq, rfl⟩ := List.mem_map.1 h
        exact ⟨q, Option.mem_toList.1 hq, rfl⟩
      · cases h
    · exact s.lastQuery_round r ▸ ih _ h

/-- If nothing else happens to the workers, the rounds do nothing to them but give the commands. -/
theorem handleCut_connection (s : Session) (cut : List Round) (h : ∀ r ∈ cut, r.before = []) :
    (s.handleCut cut).2.connection =
      s.connection.extended (s.handleCut cut).2.state (s.pushes cut) := by
  induction cut generalizing s with
  | nil => exact s.connection.extended_nil.symm
  | cons r rest ih =>
    have hsame : s.enter r = s := by
      rw [enter, h r List.mem_cons_self]
      rfl
    have hround : (s.round r).2.connection = s.connection.extended
        (r.events.foldl ConnectionState.after s.state) (s.pushed r.events) := by
      rw [round, hsame]
      exact (s.handleEvents_connection r.events).2
    have hrest := ih (s.round r).2 fun q hq => h q (List.mem_cons_of_mem _ hq)
    rw [hround, Connection.extended_extended] at hrest
    rw [pushes, hsame]
    exact hrest

/-- With a worker that takes commands all the time, or with none, the number of commands is that of
the batches that leave a new socket open. -/
theorem pushes_length (s : Session) (cut : List Round) (present : Bool)
    (h : ∀ p ∈ s.receivers cut, p = present) : (s.pushes cut).length =
      if present ∧ s.lastQuery.isSome then (cut.map Round.events).countP reopens else 0 := by
  induction cut generalizing s with
  | nil => simp [pushes]
  | cons r rest ih =>
    rw [receivers, List.forall_mem_cons] at h
    rw [pushes, List.length_append, pushed_round, h.1, ih _ h.2, lastQuery_round, List.map_cons,
      List.countP_cons]
    cases present <;> cases s.lastQuery <;> cases reopens r.events <;> simp [Nat.add_comm]

end Session

/-- A cut is finer than another if it cuts its batches further. -/
def Finer (fine coarse : List (List Event)) : Prop :=
  ∃ groups : List (List (List Event)), fine = groups.flatten ∧ coarse = groups.map List.flatten

theorem exists_reopens (group : List (List Event))
    (h : Session.reopens group.flatten = true) : ∃ batch ∈ group, Session.reopens batch = true := by
  induction group with
  | nil => cases h
  | cons b rest ih =>
    simp only [Session.reopens, decide_eq_true_eq, List.flatten_cons, lastTransition_append] at h
    cases hrest : lastTransition rest.flatten with
    | none =>
      rw [hrest, Option.none_or] at h
      exact ⟨b, List.mem_cons_self, by simp [Session.reopens, h]⟩
    | some t =>
      rw [hrest, Option.some_or] at h
      obtain ⟨batch, hb, ho⟩ := ih (by simp [Session.reopens, hrest, h])
      exact ⟨batch, List.mem_cons_of_mem _ hb, ho⟩

theorem Finer.countP_le {fine coarse : List (List Event)} (h : Finer fine coarse) :
    coarse.countP Session.reopens ≤ fine.countP Session.reopens := by
  obtain ⟨groups, rfl, rfl⟩ := h
  induction groups with
  | nil => exact Nat.le_refl _
  | cons g rest ih =>
    rw [List.map_cons, List.countP_cons, List.flatten_cons, List.countP_append]
    -- a batch that leaves a new socket open has a part that does
    have hone : (if Session.reopens g.flatten then 1 else 0) ≤ g.countP Session.reopens := by
      split
      · rename_i hg
        exact List.countP_pos_iff.2 (exists_reopens g hg)
      · exact Nat.zero_le _
    omega

/-- However events are cut into batches, and whatever the workers do in between, the session knows
the same in the end and the summaries add up to the same. All that the batches give to the worker is
the last selector, and if nothing else happens to the workers, they do nothing else to them. With a
worker that takes commands at each batch, or at none, a finer cut gives it no less often. -/
theorem cuts_agree (s : Session) (coarse fine : List Round) (x y : List Summary × Session)
    (hx : x = s.handleCut coarse) (hy : y = s.handleCut fine)
    (h : coarse.flatMap Round.events = fine.flatMap Round.events) :
    x.2.knowledge = y.2.knowledge ∧ Tally.total x.1 = Tally.total y.1 ∧
    (∀ c ∈ s.pushes coarse ++ s.pushes fine,
      ∃ q, s.lastQuery = some q ∧ c = .send (selectorFrame q)) ∧
    ((∀ r ∈ coarse ++ fine, r.before = []) →
      x.2.connection = s.connection.extended x.2.state (s.pushes coarse) ∧
        y.2.connection = s.connection.extended x.2.state (s.pushes fine)) ∧
    ∀ present, (∀ p ∈ s.receivers coarse ++ s.receivers fine, p = present) →
      Finer (fine.map Round.events) (coarse.map Round.events) →
      (s.pushes coarse).length ≤ (s.pushes fine).length := by
  subst hx hy
  have hknow : (s.handleCut coarse).2.knowledge = (s.handleCut fine).2.knowledge := by
    rw [Session.handleCut_knowledge, Session.handleCut_knowledge, h]
  refine ⟨hknow, ?_, ?_, ?_, ?_⟩
  · rw [Session.handleCut_tally, Session.handleCut_tally, h]
  · intro c hc
    rcases List.mem_append.1 hc with hc | hc
    · exact s.mem_pushes coarse c hc
    · exact s.mem_pushes fine c hc
  · intro hbefore
    rw [List.forall_mem_append] at hbefore
    refine ⟨s.handleCut_connection coarse hbefore.1, ?_⟩
    rw [show (s.handleCut coarse).2.state = (s.handleCut fine).2.state from
      congrArg Knowledge.state hknow]
    exact s.handleCut_connection fine hbefore.2
  · intro present hpresent hfiner
    rw [List.forall_mem_append] at hpresent
    rw [s.pushes_length coarse present hpresent.1, s.pushes_length fine present hpresent.2]
    split
    · exact hfiner.countP_le
    · exact Nat.le_refl _

/-- In one batch the end of the first socket is known when its opening is handled; in two it is not.
The selector is given once or twice. -/
theorem cuts_agree_of_two :
    let policy := ReconnectPolicy.withBackoff (.ofMillis 500) (.ofMillis 500)
    let s := (Session.new (.new policy) .epoch 10).connect.queue "a"
    let first : List Event := [.connecting 1, .opened, .frame "?"]
    let second : List Event := [.closed .remote, .connecting 1, .opened]
    let coarse : List Round := [⟨[], first ++ second⟩]
    let fine : List Round := [⟨[], first⟩, ⟨[], second⟩]
    (s.handleCut coarse).2.knowledge = (s.handleCut fine).2.knowledge ∧
      Tally.total (s.handleCut coarse).1 = ⟨6, 0, 1, false⟩ ∧
      Tally.total (s.handleCut fine).1 = ⟨6, 0, 1, false⟩ ∧
      s.pushes coarse = [.send (selectorFrame "a")] ∧
      s.pushes fine = [.send (selectorFrame "a"), .send (selectorFrame "a")] ∧
      (s.handleCut fine).2.connection =
        s.connection.extended (s.handleCut coarse).2.state (s.pushes fine) ∧
      (s.pushes coarse).length ≤ (s.pushes fine).length := by
  intro policy s first second coarse fine
  obtain ⟨hknow, htally, -, hconnection, hfewer⟩ :=
    cuts_agree s coarse fine _ _ rfl rfl (by decide)
  have hcount : Tally.total (s.handleCut coarse).1 = ⟨6, 0, 1, false⟩ := by decide +kernel
  have hpresent : ∀ p ∈ s.receivers coarse ++ s.receivers fine, p = true := by decide +kernel
  have hfiner : Finer (fine.map Round.events) (coarse.map Round.events) :=
    ⟨[[first, second]], rfl, rfl⟩
  exact ⟨hknow, hcount, htally.symm.trans hcount, by decide +kernel, by decide +kernel,
    (hconnection (by decide)).2, hfewer true hpresent hfiner⟩

end LiveTail
