import LiveTail.Proofs.Lineage
import Mathlib.Data.List.Basic
import Mathlib.Data.List.Induction
/-! The commands that a worker reads, and the texts that it writes, each with the number of the
socket that was open then. What is written is what was read for that very socket. -/
namespace LiveTail

namespace Exchange

/-- The command that is read, and the socket that it is read for; none if the worker waits. -/
def read? (socket : Nat) : Exchange → Option (Command × Option Nat)
  | ⟨.poll, .command c⟩ => some (c, some socket)
  | ⟨.wait _, .command c⟩ => some (c, none)
  | _ => none

def written? (socket : Nat) (x : Exchange) : Option (String × Nat) := x.given?.map (·, socket)

theorem read?_eq (n : Nat) (x : Exchange) :
    x.read? n = none ∧ x.taken? = none ∨
      ∃ c r, x.read? n = some (c, r) ∧ x.taken? = some c ∧ ∀ m, r = some m → m = n := by
  obtain ⟨call, reply⟩ := x
  cases call with
  | poll =>
    cases reply with
    | command c => exact .inr ⟨c, some n, rfl, rfl, fun m hm => (Option.some.inj hm).symm⟩
    | _ => exact .inl ⟨rfl, rfl⟩
  | wait d =>
    cases reply with
    | command c => exact .inr ⟨c, none, rfl, rfl, fun m hm => nomatch hm⟩
    | _ => exact .inl ⟨rfl, rfl⟩
  | _ => exact .inl ⟨rfl, rfl⟩

end Exchange

/-- The text that a command makes a worker write, if it was read for a socket. -/
def writing? : Command × Option Nat → Option (String × Nat)
  | (.send t, some n) => some (t, n)
  | _ => none

namespace Tape

/-- How many sockets have been opened. -/
def opened (t : Tape) : Nat := t.count ⟨.connect, .opened⟩

/-- What the exchanges of a tape come to, each by itself and the number of the socket it is for. -/
def collect {α : Type} (f : Nat → Exchange → Option α) (t : Tape) : List α :=
  (List.range t.length).filterMap (fun i => t[i]?.bind (f (opened (t.take i))))

def reads (t : Tape) : List (Command × Option Nat) := t.collect Exchange.read?

def writes (t : Tape) : List (String × Nat) := t.collect Exchange.written?

theorem opened_concat (t : Tape) (x : Exchange) :
    opened (t ++ [x]) = opened t + if x = ⟨.connect, .opened⟩ then 1 else 0 := by
  rw [opened, List.count_append, List.count_singleton, opened]
  simp only [beq_iff_eq]

theorem collect_concat {α : Type} (f : Nat → Exchange → Option α) (t : Tape) (x : Exchange) :
    collect f (t ++ [x]) = collect f t ++ (f (opened t) x).toList := by
  have hold : (List.range t.length).filterMap
      (fun i => (t ++ [x])[i]?.bind (f (opened ((t ++ [x]).take i)))) = collect f t := by
    apply List.filterMap_congr
    intro i hi
    have hlt := List.mem_range.1 hi
    rw [List.getElem?_append_left hlt, List.take_append_of_le_length (Nat.le_of_lt hlt)]
  -- what is left is the last place
  rw [collect, List.length_append, List.length_singleton, List.range_succ, List.filterMap_append,
    hold]
  cases h : f (opened t) x <;> simp [h]

@[simp] theorem reads_concat (t : Tape) (x : Exchange) :
    reads (t ++ [x]) = reads t ++ (x.read? (opened t)).toList := collect_concat _ t x

@[simp] theorem writes_concat (t : Tape) (x : Exchange) :
    writes (t ++ [x]) = writes t ++ (x.written? (opened t)).toList := collect_concat _ t x

end Tape

theorem Worker.Turn.phase_of_elapsed {w w' : Worker} {x : Exchange} (h : w.Turn x w')
    (hx : x.reply = .elapsed) : w.phase = .waiting := by
  cases h <;> first | rfl | cases hx

/-- A text that a worker has in hand is written next, to the socket that is open. -/
theorem Worker.Turn.written_eq {w w' : Worker} {x : Exchange} (h : w.Turn x w') (n : Nat) :
    (x.written? n).toList ++
        w'.inHand.map (·, n + if x = ⟨.connect, .opened⟩ then 1 else 0) =
      w.inHand.map (·, n) ++ (x.read? n).toList.filterMap writing? := by
  cases h <;> simp [Exchange.written?, Exchange.given?, Exchange.read?, inHand, writing?]

namespace Line

/-- What a worker writes, and what it has in hand, are the texts that it has read for a socket, each
for the socket it was read for. -/
theorem writes_eq (serial : Nat) (policy : ReconnectPolicy) (moves : List Move) (l : Line)
    (hl : l = (Line.start serial policy).run moves) :
    Tape.writes l.tape ++ l.link.worker.inHand.map (·, Tape.opened l.tape) =
      (Tape.reads l.tape).filterMap writing? := by
  subst hl
  refine run_induction (P := fun l =>
    Tape.writes l.tape ++ l.link.worker.inHand.map (·, Tape.opened l.tape) =
      (Tape.reads l.tape).filterMap writing?) _ rfl ?_ ?_ moves
  · intro l m hm hl
    obtain ⟨hw, ht⟩ := l.move_quiet m hm
    rw [hw, ht]
    exact hl
  · intro l l' x hx hl
    have hturn := hx.turn.written_eq (Tape.opened l.tape)
    rw [hx.tape, Tape.writes_concat, Tape.reads_concat, Tape.opened_concat, List.filterMap_append,
      List.append_assoc, hturn, ← List.append_assoc, hl]

theorem commands_move (l : Line) (m : Move) (h : ∀ o, m ≠ .step o) :
    ∃ more, (l.move m).link.commands = l.link.commands ++ more := by
  have hgive : ∀ c, ∃ more, (l.link.give c).commands = l.link.commands ++ more := by
    intro c
    unfold Link.give
    split
    · exact ⟨[], (List.append_nil _).symm⟩
    · exact ⟨[c], rfl⟩
  cases m with
  | give c => exact hgive c
  | detach => exact hgive .close
  | step o => exact absurd rfl (h o)
  | _ => exact ⟨[], (List.append_nil _).symm⟩

/-- A wait takes no notice of the commands only if its time is over at that moment. -/
theorem Advance.outside_elapsed {l : Line} {x : Exchange} {o : Reply}
    (h : l.Advance x (l.move (.step o))) (hx : x.reply = .elapsed) :
    l.link.worker.phase = .waiting ∧ o = .elapsed := by
  have hp := h.turn.phase_of_elapsed hx
  refine ⟨hp, ?_⟩
  by_contra ho
  have hread : (l.link.answer o) = l.link.nextCommand.1 := by
    simp [Link.answer, Worker.call, hp, ho]
  have htape := h.tape
  have hne : l.link.nextCommand.1 ≠ .elapsed := by
    rw [Link.nextCommand]
    split
    · simp
    · split <;> simp
  simp only [move, Link.exchange, hread] at htape
  split at htape
  · have hxe := List.singleton_injective (List.append_cancel_left htape)
    rw [← hxe] at hx
    exact hne hx
  · simp at htape

end Line

namespace Scene

/-- If the act is the end of a wait of a worker, then that worker has read all commands that it was
given. -/
def Heeds (k : Nat) (c : Scene) (a : Act) : Prop :=
  a = .step k .elapsed → ∀ l ∈ c.line? k, l.link.worker.phase = .waiting → l.link.commands = []

instance (k : Nat) (c : Scene) (a : Act) : Decidable (c.Heeds k a) :=
  inferInstanceAs (Decidable (_ → _))

theorem Heeds.commands_eq_nil {c : Scene} {k : Nat} {l : Line} {o : Reply} {x : Exchange}
    (h : c.Heeds k (.step k o)) (hl : c.line? k = some l) (hx : l.Advance x (l.move (.step o)))
    (he : x.reply = .elapsed) : l.link.commands = [] := by
  obtain ⟨hp, rfl⟩ := hx.outside_elapsed he
  exact h rfl l hl hp

end Scene

end LiveTail
