import LiveTail.Proofs.Batch
import LiveTail.Proofs.Line
/-! Scenes: a session among its workers, as it goes on act by act in any order. A pump is two acts,
for its worker goes on between the moment when the events are taken out and the moment when they are
handled. The tapes hold what each worker has said so far. -/
namespace LiveTail

/-- A session, the batch that it has taken out of the queue and not handled yet, and the tapes of
its workers by their numbers. -/
structure Scene where
  session : Session
  batch : Option (List Event)
  tape : Nat → Tape

/-- What can happen next: a call of the session, a hook that is fired or given up, or a step of a
worker with the reply of what lies outside. -/
inductive Act where
  | connect
  | close
  | submit (selector : String)
  | queue (selector : String)
  | takeHook
  | drain (budget : Option Nat)
  | handle
  | fire (hook : ShutdownHook)
  | dropHook (hook : ShutdownHook)
  | step (serial : Nat) (outside : Reply)
  deriving DecidableEq, Repr

/-- The worker of a number, be it attached or let go. -/
def Connection.link? (c : Connection) (serial : Nat) : Option Link :=
  (c.current.toList ++ c.former).find? (fun l => l.serial == serial)

namespace Connection

theorem link?_modify (c : Connection) (j k : Nat) (f : Link → Link)
    (hf : ∀ l, (f l).serial = l.serial) :
    (c.modify j f).link? k = (c.link? k).map (if j = k then f else id) := by
  let g (l : Link) : Link := if l.serial = j then f l else l
  have hg : ∀ l, (g l).serial = l.serial := by
    intro l
    simp only [g]
    split
    · exact hf l
    · rfl
  have hp : ((fun l : Link => l.serial == k) ∘ g) = fun l => l.serial == k := by
    funext l
    simp only [Function.comp, hg]
  have hm : (c.modify j f).current.toList ++ (c.modify j f).former =
      (c.current.toList ++ c.former).map g := by
    cases hc : c.current <;> simp [modify, hc, g]
  rw [link?, hm, List.find?_map, hp, link?]
  refine Option.map_congr ?_
  intro l hl
  have hk : l.serial = k := by simpa using List.find?_some hl
  by_cases hj : j = k <;> simp [g, hk, hj, eq_comm]

theorem link?_map_current (c d : Connection) (f : Link → Link) (hf : ∀ l, (f l).serial = l.serial)
    (hd : d.current.toList ++ d.former = (c.current.map f).toList ++ c.former) (k : Nat) :
    d.link? k = (c.link? k).map (if c.current.map (·.serial) = some k then f else id) := by
  rw [link?, hd, link?]
  cases c.current with
  | none => simp
  | some l =>
    by_cases hk : l.serial = k
    · simp [hf, hk]
    · simp [hf, hk]

theorem link?_attached (c : Connection) (l : Link) (h : c.current = some l) :
    c.link? l.serial = some l := by
  simp [link?, h]

theorem offer_serial (c : Connection) (q : Option String) :
    (c.offer q).current.map (·.serial) = c.current.map (·.serial) := by
  cases q with
  | none => rfl
  | some q => cases hc : c.current <;> simp [offer, give, hc]

theorem offer_started (c : Connection) (q : Option String) :
    (c.offer q).started = c.started ∧ (c.offer q).former = c.former := by
  cases q <;> exact ⟨rfl, rfl⟩

theorem modify_serial (c : Connection) (k : Nat) (f : Link → Link)
    (hf : ∀ l, (f l).serial = l.serial) :
    (c.modify k f).current.map (·.serial) = c.current.map (·.serial) := by
  cases hc : c.current with
  | none => simp [modify, hc]
  | some l => by_cases hk : l.serial = k <;> simp [modify, hc, hk, hf]

end Connection

namespace Scene

/-- A new session that has no worker yet. -/
def start (policy : ReconnectPolicy) (base : Instant) (maxRows : Nat) : Scene :=
  ⟨.new (.new policy) base maxRows, none, fun _ => []⟩

/-- Calls the session, which takes no other call before it has handled its batch. -/
def call (c : Scene) (f : Session → Session) : Scene :=
  if c.batch.isSome then c else { c with session := f c.session }

def change (c : Scene) (f : Connection → Connection) : Scene :=
  { c with session := { c.session with connection := f c.session.connection } }

def extend (c : Scene) (serial : Nat) (outside : Reply) (k : Nat) : Tape :=
  c.tape k ++
    if k = serial then ((c.session.connection.link? k).map (·.exchange outside)).getD [] else []

def act (c : Scene) : Act → Scene
  | .connect => c.call Session.connect
  | .close => c.call Session.close
  | .submit q => c.call (fun s => (s.submit q).2)
  | .queue q => c.call (·.queue q)
  | .takeHook => c.call (fun s => { s with connection := s.connection.hook.2 })
  | .drain budget =>
    match c.batch with
    | some _ => c
    | none =>
      { c.change (fun n => (n.drain budget).2) with
        batch := some (c.session.connection.drain budget).1 }
  | .handle =>
    match c.batch with
    | some events => { c with session := (c.session.handleEvents events).2, batch := none }
    | none => c
  | .fire h => c.change (·.fire h)
  | .dropHook h => c.change (·.dropHook h)
  | .step k o => { c.change (·.step k o) with tape := c.extend k o }

def run (c : Scene) (acts : List Act) : Scene := acts.foldl act c

@[simp] theorem run_nil (c : Scene) : c.run [] = c := rfl

@[simp] theorem run_concat (c : Scene) (acts : List Act) (a : Act) :
    c.run (acts ++ [a]) = (c.run acts).act a := by
  simp [run]

/-- Without anything between its two acts a pump is the one of the session. -/
theorem act_drain_handle (c : Scene) (budget : Option Nat) (h : c.batch = none) :
    (c.act (.drain budget)).act .handle = { c with session := (c.session.pump budget).2 } := by
  simp [act, h, change, Session.pump]

def attached (c : Scene) : Option Nat := c.session.connection.current.map (·.serial)

def line? (c : Scene) (k : Nat) : Option Line :=
  (c.session.connection.link? k).map (fun l => ⟨l, c.tape k⟩)

theorem tape_of_line (c : Scene) {k : Nat} {l : Line} (h : c.line? k = some l) :
    c.tape k = l.tape := by
  obtain ⟨m, -, rfl⟩ := Option.map_eq_some_iff.1 h
  rfl

/-- The selector that an act of the session offers to its worker. -/
def offered (c : Scene) : Act → Option String
  | .submit q => if c.batch = none ∧ c.session.state = .connected then some q else none
  | .handle => if c.batch.bind lastTransition = some .opened then c.session.lastQuery else none
  | _ => none

/-- The moves of the line of a worker that an act comes to. -/
def moves (c : Scene) (k : Nat) : Act → List Move
  | .connect | .close => if c.batch = none ∧ c.attached = some k then [.detach] else []
  | .takeHook => if c.batch = none ∧ c.attached = some k then [.hold] else []
  | .drain budget =>
    if c.batch = none ∧ c.attached = some k then
      [.take (c.session.connection.drain budget).1.length]
    else []
  | .fire hook => if hook.serial = k then [.give .close] else []
  | .dropHook hook => if hook.serial = k then [.release] else []
  | .step j o => if j = k then [.step o] else []
  | a =>
    if c.attached = some k then
      (c.offered a).toList.map (fun q => .give (.send (selectorFrame q)))
    else []

theorem line?_map_current (c d : Scene) (f : Link → Link) (m : List Move) (k : Nat)
    (hf : ∀ l, (f l).serial = l.serial)
    (hm : ∀ l t, (⟨l, t⟩ : Line).run m = ⟨f l, t⟩)
    (hd : d.session.connection.current.toList ++ d.session.connection.former =
      (c.session.connection.current.map f).toList ++ c.session.connection.former)
    (ht : d.tape = c.tape) :
    d.line? k = (c.line? k).map (·.run (if c.attached = some k then m else [])) := by
  rw [line?, line?, Connection.link?_map_current _ _ f hf hd, ht, Option.map_map, Option.map_map]
  refine Option.map_congr fun l _ => ?_
  by_cases ha : c.session.connection.current.map (·.serial) = some k
  · simp [attached, ha, hm]
  · simp [attached, ha, Line.run]

theorem line?_modify (c d : Scene) (f : Link → Link) (m : Move) (j k : Nat)
    (hf : ∀ l, (f l).serial = l.serial)
    (hd : d.session.connection = c.session.connection.modify j f)
    (hm : j = k → ∀ l, c.session.connection.link? k = some l →
      (⟨l, c.tape k⟩ : Line).move m = ⟨f l, d.tape k⟩)
    (ht : j ≠ k → d.tape k = c.tape k) :
    d.line? k = (c.line? k).map (·.run (if j = k then [m] else [])) := by
  rw [line?, line?, hd, Connection.link?_modify _ j k f hf, Option.map_map, Option.map_map]
  refine Option.map_congr fun l hl => ?_
  simp only [Function.comp]
  by_cases hj : j = k
  · simp only [hj, if_true, Line.run, List.foldl_cons, List.foldl_nil, hm hj l hl]
  · simp only [hj, if_false, Line.run, List.foldl_nil, ht hj, id]

theorem line?_close (c : Scene) (k : Nat) :
    (c.act .close).line? k = (c.line? k).map (·.run (c.moves k .close)) := by
  cases hb : c.batch with
  | some events =>
    simp [act, call, moves, hb, Line.run]
  | none =>
    simp only [moves, hb, true_and]
    refine line?_map_current c _ Link.detach [.detach] k Link.detach_serial (fun _ _ => rfl) ?_ ?_
    · simp only [act, call, hb, Option.isSome_none, Bool.false_eq_true, if_false, Session.close,
        Connection.close, Connection.detach]
      cases hc : c.session.connection.current <;> simp [hc]
    · simp [act, call, hb]

theorem line?_offer (c d : Scene) (q : Option String) (k : Nat) (s : ConnectionState)
    (hd : d.session.connection =
      ({ c.session.connection with state := s } : Connection).offer q)
    (ht : d.tape = c.tape) :
    d.line? k = (c.line? k).map (·.run (if c.attached = some k then
      q.toList.map (fun q => .give (.send (selectorFrame q))) else [])) := by
  cases q with
  | none =>
    exact line?_map_current c d id [] k (fun _ => rfl) (fun _ _ => rfl)
      (by simp [hd, Connection.offer]) ht
  | some q =>
    exact line?_map_current c d (·.give (.send (selectorFrame q)))
      [.give (.send (selectorFrame q))] k (fun l => l.give_serial _) (fun _ _ => rfl)
      (by simp [hd, Connection.offer, Connection.give]) ht

/-- An act does nothing to a worker that is there but the moves of its line. -/
theorem line?_act (c : Scene) (a : Act) (k : Nat)
    (h : c.batch = none → a = .connect → k ≠ c.session.connection.started) :
    (c.act a).line? k = (c.line? k).map (·.run (c.moves k a)) := by
  cases a with
  | connect =>
    -- the worker that was there is closed, and the new one has a number of its own
    rw [← show c.moves k .close = c.moves k .connect from rfl, ← line?_close]
    cases hb : c.batch with
    | some events => simp [act, call, hb]
    | none =>
      have hk : (c.session.connection.started == k) = false := by simpa using (h hb rfl).symm
      simp only [line?, act, call, hb, Option.isSome_none, Bool.false_eq_true, if_false,
        Session.connect, Session.close, Connection.connect, Connection.close, Connection.detach]
      cases hc : c.session.connection.current <;> simp [Connection.link?, Link.start, hk, hc]
  | close => exact line?_close c k
  | submit q =>
    cases hb : c.batch with
    | some events => simp [act, call, moves, offered, hb, Line.run]
    | none =>
      simp only [moves, offered, hb, true_and]
      exact line?_offer c _ _ k c.session.connection.state
        (by simp only [act, call, hb, Option.isSome_none, Bool.false_eq_true, if_false,
          Session.submit_connection, Session.state]; rfl)
        (by simp [act, call, hb])
  | queue q =>
    refine line?_map_current c _ id [] k (fun _ => rfl) (fun _ _ => rfl) ?_ ?_ |>.trans ?_
    · simp only [act, call]
      split <;> simp [Session.queue]
    · simp only [act, call]
      split <;> rfl
    · simp [moves, offered]
  | takeHook =>
    cases hb : c.batch with
    | some events => simp [act, call, moves, hb, Line.run]
    | none =>
      simp only [moves, hb, true_and]
      refine line?_map_current c _ (fun l => { l with senders := l.senders + 1 }) [.hold] k
        (fun _ => rfl) (fun _ _ => rfl) ?_ ?_
      · cases hc : c.session.connection.current <;> simp [act, call, hb, Connection.hook, hc]
      · simp [act, call, hb]
  | drain budget =>
    cases hb : c.batch with
    | some events => simp [act, moves, hb, Line.run]
    | none =>
      simp only [moves, hb, true_and]
      let n := (c.session.connection.drain budget).1.length
      refine line?_map_current c _ (fun l => { l with events := l.events.drop n }) [.take n] k
        (fun _ => rfl) (fun _ _ => rfl) ?_ ?_
      · cases hc : c.session.connection.current with
        | none => simp [act, hb, change, Connection.drain, hc]
        | some l =>
          simp [act, hb, change, Connection.drain, hc, n]
      · simp [act, hb, change]
  | handle =>
    cases hb : c.batch with
    | none => simp [act, moves, offered, hb, Line.run]
    | some events =>
      simp only [moves, offered, hb, Option.bind_some]
      refine line?_offer c _ _ k
        (events.foldl ConnectionState.after c.session.connection.state) ?_ ?_
      · simp only [act, hb, Session.handleEvents_session]
      · simp only [act, hb]
  | fire hook =>
    exact line?_modify c _ (·.give .close) (.give .close) hook.serial k (fun l => l.give_serial _)
      rfl (fun _ _ _ => rfl) (fun _ => rfl)
  | dropHook hook =>
    exact line?_modify c _ (fun l => { l with senders := l.senders - 1 }) .release hook.serial k
      (fun _ => rfl) rfl (fun _ _ _ => rfl) (fun _ => rfl)
  | step j o =>
    refine line?_modify c _ (·.step o) (.step o) j k (fun l => l.step_serial o) rfl ?_ ?_
    · rintro rfl l hl
      simp [act, extend, Line.move, hl]
    · intro hj
      simp [act, extend, hj.symm]

end Scene

end LiveTail
