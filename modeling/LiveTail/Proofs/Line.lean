import LiveTail.Proofs.Turn
/-! The line of a worker: its link with the tape of all its exchanges. Whatever the manager, the
hooks and the outside do to a worker is a move of its line. -/
namespace LiveTail

/-- The exchanges of a worker in their order. -/
abbrev Tape := List Exchange

/-- What a socket was given to send: the texts that it took, and the one that it failed on. -/
structure Socket where
  sent : List String := []
  failed : Option String := none
  deriving DecidableEq, Repr

def Socket.given (s : Socket) : List String := s.sent ++ s.failed.toList

namespace Tape

def posted (t : Tape) : List Event := t.filterMap Exchange.posted?

/-- The texts that the sockets have delivered. -/
def received (t : Tape) : List String := t.filterMap Exchange.received?

/-- The sockets after one more exchange. -/
def turnSockets (sockets : List Socket) (x : Exchange) : List Socket :=
  match x, sockets with
  | ⟨.connect, .opened⟩, _ => {} :: sockets
  | ⟨.send t, .done⟩, s :: older => { s with sent := s.sent ++ [t] } :: older
  | ⟨.send t, .failed _⟩, s :: older => { s with failed := some t } :: older
  | _, _ => sockets

/-- The sockets that have been opened, the latest first. -/
def sockets (t : Tape) : List Socket := t.foldl turnSockets []

@[simp] theorem posted_concat (t : Tape) (x : Exchange) :
    posted (t ++ [x]) = posted t ++ x.posted?.toList := by
  cases h : x.posted? <;> simp [posted, h]

@[simp] theorem received_concat (t : Tape) (x : Exchange) :
    received (t ++ [x]) = received t ++ x.received?.toList := by
  cases h : x.received? <;> simp [received, h]

@[simp] theorem sockets_concat (t : Tape) (x : Exchange) :
    sockets (t ++ [x]) = turnSockets (sockets t) x := by
  simp [sockets]

theorem turnSockets_nil (x : Exchange) (h : x ≠ ⟨.connect, .opened⟩) : turnSockets [] x = [] := by
  unfold turnSockets
  split <;> first | rfl | contradiction

/-- An exchange that opens no socket gives its text to the latest one and does nothing to the
others. -/
theorem turnSockets_cons (s : Socket) (older : List Socket) (x : Exchange)
    (h : x ≠ ⟨.connect, .opened⟩) : ∃ s', turnSockets (s :: older) x = s' :: older ∧
      s'.given.length ≤ s.given.length + x.given?.toList.length ∧
      (s.failed = none ∨ x.given? = none → s'.given = s.given ++ x.given?.toList) ∧
      ((∀ t m, x ≠ ⟨.send t, .failed m⟩) → s'.failed = s.failed) := by
  obtain ⟨call, reply⟩ := x
  cases call with
  | connect =>
    cases reply with
    | opened => exact absurd rfl h
    | _ => exact ⟨s, rfl, by simp, by simp [Exchange.given?], fun _ => rfl⟩
  | send t =>
    cases reply with
    | done =>
      refine ⟨{ s with sent := s.sent ++ [t] }, rfl, ?_, ?_, fun _ => rfl⟩
      · simp only [Socket.given, Exchange.given?, List.length_append, List.length_cons,
          List.length_nil, Option.toList_some]
        omega
      · intro hs
        simp only [Exchange.given?, reduceCtorEq, or_false] at hs
        simp [Socket.given, Exchange.given?, hs]
    | failed m =>
      refine ⟨{ s with failed := some t }, rfl, ?_, ?_, fun hx => absurd rfl (hx t m)⟩
      · simp only [Socket.given, Exchange.given?, List.length_append, List.length_cons,
          List.length_nil, Option.toList_some]
        omega
      · intro hs
        simp only [Exchange.given?, reduceCtorEq, or_false] at hs
        simp [Socket.given, Exchange.given?, hs]
    | _ => exact ⟨s, rfl, by simp, by simp [Exchange.given?], fun _ => rfl⟩
  | _ => exact ⟨s, rfl, by simp, by simp [Exchange.given?], fun _ => rfl⟩

end Tape

namespace Link

/-- The reply that a step gives to the call of the worker. -/
def answer (l : Link) (outside : Reply) : Reply :=
  match l.worker.call with
  | .post _ => if l.heard then .done else .lost
  | .poll => l.nextCommand.1
  | .wait _ => if outside = .elapsed then .elapsed else l.nextCommand.1
  | _ => outside

def leftover (l : Link) (outside : Reply) : List Command :=
  match l.worker.call with
  | .poll => l.nextCommand.2
  | .wait _ => if outside = .elapsed then l.commands else l.nextCommand.2
  | _ => l.commands

/-- The exchange of a step; there is none if the reply is none to the call. -/
def exchange (l : Link) (outside : Reply) : Tape :=
  if l.worker.call.takes (l.answer outside) then [⟨l.worker.call, l.answer outside⟩] else []

/-- A poll or a wait reads the first command, if there is one, and leaves the rest. -/
theorem nextCommand_eq (l : Link) (c : Call) (h : c = .poll ∨ ∃ d, c = .wait d) :
    l.commands = (Exchange.taken? ⟨c, l.nextCommand.1⟩).toList ++ l.nextCommand.2 := by
  obtain ⟨serial, w, events, heard, commands, senders⟩ := l
  cases commands with
  | nil =>
    rcases h with rfl | ⟨d, rfl⟩ <;> by_cases hs : senders = 0 <;>
      simp [nextCommand, hs, Exchange.taken?]
  | cons c r => rcases h with rfl | ⟨d, rfl⟩ <;> rfl

theorem commands_eq (l : Link) (o : Reply) :
    l.commands = (Exchange.taken? ⟨l.worker.call, l.answer o⟩).toList ++ l.leftover o := by
  cases hc : l.worker.call with
  | poll => simpa [answer, leftover, hc] using l.nextCommand_eq .poll (.inl rfl)
  | wait d =>
    by_cases ho : o = .elapsed
    · simp [answer, leftover, hc, ho, Exchange.taken?]
    · simpa [answer, leftover, hc, ho] using l.nextCommand_eq (.wait d) (.inr ⟨d, rfl⟩)
  | _ => simp [leftover, hc, Exchange.taken?]

/-- A step in one form for all calls. -/
theorem step_eq (l : Link) (o : Reply) (h : l.worker.call ≠ .rest) :
    l.step o = ({ l with
      events := l.events ++ (Exchange.posted? ⟨l.worker.call, l.answer o⟩).toList
      commands := l.leftover o } : Link).reply (l.answer o) := by
  obtain ⟨serial, w, events, heard, commands, senders⟩ := l
  dsimp only at h
  cases hc : w.call with
  | post e => cases heard <;> simp [step, answer, leftover, hc, Exchange.posted?]
  | wait d =>
    by_cases ho : o = .elapsed <;> simp [step, answer, leftover, hc, ho, Exchange.posted?]
  | rest => exact absurd hc h
  | _ => simp [step, answer, leftover, hc, Exchange.posted?]

theorem step_of_not_takes (l : Link) (o : Reply)
    (h : l.worker.call.takes (l.answer o) = false) : l.step o = l := by
  by_cases hc : l.worker.call = .rest
  · simp [step, hc]
  · have hw := Worker.resume_of_not_takes _ _ h
    -- such a reply posts nothing and takes no command
    have hx : Exchange.taken? ⟨l.worker.call, l.answer o⟩ = none ∧
        Exchange.posted? ⟨l.worker.call, l.answer o⟩ = none := by
      revert h
      cases l.worker.call <;> cases l.answer o <;>
        simp [Exchange.taken?, Exchange.posted?, Call.takes]
    have hq : l.leftover o = l.commands := by simpa [hx.1] using (l.commands_eq o).symm
    have hg : l.worker.isGone = false := by simpa using mt l.worker.call_eq_rest_iff.2 hc
    rw [step_eq l o hc, hq, hx.2]
    simp only [reply, hw, hg, Option.toList_none, List.append_nil, Bool.false_eq_true, if_false]

@[simp] theorem give_serial (l : Link) (c : Command) : (l.give c).serial = l.serial := by
  unfold give; split <;> rfl

@[simp] theorem detach_serial (l : Link) : l.detach.serial = l.serial := l.give_serial .close

end Link

/-- A link and the tape of its worker. -/
structure Line where
  link : Link
  tape : Tape
  deriving DecidableEq, Repr

/-- What can happen to a line: a command is given, the manager takes events out, a hook is handed
out or given up, the manager lets go, or the worker makes its next call. -/
inductive Move where
  | give (command : Command)
  | take (count : Nat)
  | hold
  | release
  | detach
  | step (outside : Reply)
  deriving DecidableEq, Repr

namespace Line

def start (serial : Nat) (policy : ReconnectPolicy) : Line := ⟨.start serial policy, []⟩

def move (l : Line) : Move → Line
  | .give c => { l with link := l.link.give c }
  | .take n => { l with link := { l.link with events := l.link.events.drop n } }
  | .hold => { l with link := { l.link with senders := l.link.senders + 1 } }
  | .release => { l with link := { l.link with senders := l.link.senders - 1 } }
  | .detach => { l with link := l.link.detach }
  | .step o => ⟨l.link.step o, l.tape ++ l.link.exchange o⟩

def run (l : Line) (moves : List Move) : Line := moves.foldl move l

@[simp] theorem run_concat (l : Line) (moves : List Move) (m : Move) :
    l.run (moves ++ [m]) = (l.run moves).move m := by
  simp [run]

/-- What a line is after an exchange: the worker makes the turn, what it posts is queued behind the
earlier events if it is heard, and a command it reads is the first one that waits. -/
structure Advance (l : Line) (x : Exchange) (l' : Line) : Prop where
  turn : l.link.worker.Turn x l'.link.worker
  tape : l'.tape = l.tape ++ [x]
  events : l'.link.events = l.link.events ++ x.posted?.toList
  heard : l'.link.heard = l.link.heard
  serial : l'.link.serial = l.link.serial
  posts : ∀ e, x.call = .post e → x.reply = if l.link.heard then .done else .lost
  commands : ∃ rest, l.link.commands = x.taken?.toList ++ rest ∧
    l'.link.commands = if l'.link.worker.isGone then [] else rest

/-- A step is an exchange, or nothing happens. -/
theorem step_cases (l : Line) (o : Reply) :
    l.move (.step o) = l ∨ ∃ x, l.Advance x (l.move (.step o)) := by
  cases ht : l.link.worker.call.takes (l.link.answer o) with
  | false =>
    left
    simp only [move, Link.exchange, ht, l.link.step_of_not_takes o ht, Bool.false_eq_true, if_false,
      List.append_nil]
  | true =>
    right
    have hc : l.link.worker.call ≠ .rest := by
      intro hr
      simp [hr, Call.takes] at ht
    -- all fields of the link after the step but the worker's are read off one equation
    have hs := l.link.step_eq o hc
    have hw : (l.link.step o).worker = l.link.worker.resume (l.link.answer o) := by rw [hs]; rfl
    refine ⟨⟨l.link.worker.call, l.link.answer o⟩, ?_⟩
    constructor
    case turn =>
      rw [show (l.move (.step o)).link.worker = _ from hw]
      exact Worker.turn_resume _ _ ht
    case tape => simp [move, Link.exchange, ht]
    case events => simp only [move, hs, Link.reply]
    case heard => simp only [move, hs, Link.reply]
    case serial => simp only [move, hs, Link.reply]
    case posts =>
      intro e he
      simp only at he
      simp only [Link.answer, he]
    case commands =>
      refine ⟨l.link.leftover o, l.link.commands_eq o, ?_⟩
      simp only [move, hs, Link.reply]

/-- The texts that the worker has been asked to send and has not passed on. -/
def queued (l : Line) : List String := l.link.worker.inHand ++ texts l.link.commands

theorem queued_give (l : Line) (c : Command) :
    (l.move (.give c)).queued =
      l.queued ++ if l.link.worker.isGone then [] else c.text?.toList := by
  cases hg : l.link.worker.isGone <;> cases c <;>
    simp [queued, move, Link.give, hg, texts, Command.text?]

theorem events_give (l : Line) (c : Command) :
    (l.move (.give c)).link.events = l.link.events ∧
      (l.move (.give c)).link.heard = l.link.heard := by
  simp only [move, Link.give]
  split <;> exact ⟨rfl, rfl⟩

theorem move_quiet (l : Line) (m : Move) (h : ∀ o, m ≠ .step o) :
    (l.move m).link.worker = l.link.worker ∧ (l.move m).tape = l.tape := by
  cases m with
  | step o => exact absurd rfl (h o)
  | give c =>
    cases hg : l.link.worker.isGone <;> simp [move, Link.give, hg]
  | detach =>
    cases hg : l.link.worker.isGone <;> simp [move, Link.detach, Link.give, hg]
  | _ => exact ⟨rfl, rfl⟩

theorem heard_of_move (l : Line) (m : Move) (h : (l.move m).link.heard = true) :
    l.link.heard = true := by
  cases m with
  | give c => rwa [(l.events_give c).2] at h
  | detach => cases h
  | step o =>
    rcases l.step_cases o with hm | ⟨x, hx⟩
    · rwa [hm] at h
    · rwa [hx.heard] at h
  | _ => exact h

theorem advance_opened (l : Line) (h : l.link.worker.phase = .connecting) :
    l.Advance ⟨.connect, .opened⟩ (l.move (.step .opened)) := by
  have ht : (l.move (.step .opened)).tape = l.tape ++ [⟨.connect, .opened⟩] := by
    simp [move, Link.exchange, Link.answer, Worker.call, h, Call.takes]
  rcases l.step_cases .opened with hm | ⟨x, hx⟩
  · rw [hm] at ht
    simp at ht
  · rw [hx.tape] at ht
    obtain rfl : x = _ := by simpa using ht
    exact hx

theorem Advance.sockets {l l' : Line} {x : Exchange} (h : l.Advance x l') :
    Tape.sockets l'.tape = Tape.turnSockets (Tape.sockets l.tape) x := by
  rw [h.tape, Tape.sockets_concat]

theorem Advance.reply_ne_lost {l l' : Line} {x : Exchange} (h : l.Advance x l')
    (hh : l.link.heard = true) : x.reply ≠ .lost := by
  intro hx
  obtain ⟨e, he⟩ := h.turn.call_of_lost hx
  have hr := h.posts e he
  rw [hx, hh] at hr
  cases hr

/-- What is passed on comes from what is queued. -/
theorem Advance.queued_sublist {l l' : Line} {x : Exchange} (h : l.Advance x l') :
    (x.given?.toList ++ l'.queued).Sublist l.queued := by
  obtain ⟨rest, hc, hc'⟩ := h.commands
  have hr : (texts l'.link.commands).Sublist (texts rest) := by
    rw [hc']
    split
    · exact List.nil_sublist _
    · exact List.Sublist.refl _
  simp only [queued, hc, texts_append, ← List.append_assoc]
  exact h.turn.given_sublist.append hr

/-- Nothing that is queued gets lost as long as there is a socket. -/
theorem Advance.queued_eq {l l' : Line} {x : Exchange} (h : l.Advance x l')
    (hw : l'.link.worker.holds = true) : x.given?.toList ++ l'.queued = l.queued := by
  obtain ⟨rest, hc, hc'⟩ := h.commands
  rw [l'.link.worker.isGone_of_holds hw, if_neg Bool.false_ne_true] at hc'
  simp only [queued, hc, hc', texts_append, ← List.append_assoc, h.turn.given_eq hw]

end Line

theorem Link.step_serial (l : Link) (o : Reply) : (l.step o).serial = l.serial := by
  rcases Line.step_cases ⟨l, []⟩ o with h | ⟨x, h⟩
  · exact congrArg (fun m : Line => m.link.serial) h
  · exact h.serial

end LiveTail
