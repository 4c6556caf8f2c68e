import LiveTail.Proofs.Shutdown
import Mathlib.Algebra.Order.Ring.Nat
/-! How long a worker waits before it tries again. The first wait after its start, and after each
socket that opened, has the first delay of its policy; each further one has twice the delay before
it, up to the longest delay. -/
namespace LiveTail

namespace ReconnectPolicy

/-- The nanoseconds of the wait of a number, counted from 0. They are whole numbers of any size. -/
def scheduled (initial longest : Duration) (n : Nat) : Nat :=
  min (initial.nanos * 2 ^ n) (max initial.nanos longest.nanos)

theorem scheduled_zero (initial longest : Duration) :
    scheduled initial longest 0 = initial.nanos := by
  rw [scheduled, pow_zero, Nat.mul_one]
  exact Nat.min_eq_left (Nat.le_max_left _ _)

theorem scheduled_succ (initial longest : Duration) (n : Nat) :
    scheduled initial longest (n + 1) =
      min (2 * scheduled initial longest n) (max initial.nanos longest.nanos) := by
  have hdouble : initial.nanos * 2 ^ (n + 1) = 2 * (initial.nanos * 2 ^ n) := by
    rw [pow_succ, ← Nat.mul_assoc, Nat.mul_comm]
  rw [scheduled, scheduled, hdouble]
  omega

/-- No delay is longer than the longest duration, so the next one is never cut off there. -/
theorem nanos_next (p : ReconnectPolicy) (d : Duration) :
    (p.next d).nanos = min (2 * d.nanos) p.longest.nanos := by
  have hlongest : p.longest.nanos ≤ maxNanos := p.longest.le_max
  have hdouble : d.double.nanos = min (2 * d.nanos) maxNanos := rfl
  rw [next, Duration.nanos_min, hdouble]
  omega

theorem nanos_next_of_scheduled (initial longest d : Duration) (n : Nat)
    (h : d.nanos = scheduled initial longest n) :
    ((withBackoff initial longest).next d).nanos = scheduled initial longest (n + 1) := by
  have hlongest : (withBackoff initial longest).longest.nanos =
      max initial.nanos longest.nanos := by
    rw [withBackoff, Duration.nanos_max, Nat.max_comm]
  rw [nanos_next, hlongest, h, ← scheduled_succ]

theorem delays_of_scheduled (initial longest d : Duration) (n count : Nat)
    (h : d.nanos = scheduled initial longest n) :
    ((withBackoff initial longest).delays count d).map Duration.nanos =
      (List.range count).map (fun k => scheduled initial longest (n + 1 + k)) := by
  induction count generalizing d n with
  | zero => rfl
  | succ count ih =>
    have hnext := nanos_next_of_scheduled initial longest d n h
    have hrest : (fun k => scheduled initial longest (n + 1 + 1 + k)) =
        (fun k => scheduled initial longest (n + 1 + k)) ∘ Nat.succ := by
      funext k
      rw [Function.comp_apply, Nat.succ_eq_add_one, Nat.add_assoc (n + 1), Nat.add_comm 1 k]
    rw [delays, List.map_cons, ih _ (n + 1) hnext, hnext, List.range_succ_eq_map, List.map_cons,
      List.map_map, hrest]

end ReconnectPolicy

open ReconnectPolicy

namespace Tape

/-- The count of the waits after one more exchange. A text that a wait drops does not end it. -/
def turnWaits (count : Nat) : Exchange → Nat
  | ⟨.connect, .opened⟩ => 0
  | ⟨.wait _, .elapsed⟩ => count + 1
  | _ => count

/-- How many waits are over since a socket opened, or since the worker began if none has opened. -/
def waits (t : Tape) : Nat := t.foldl turnWaits 0

theorem waits_concat (t : Tape) (x : Exchange) : waits (t ++ [x]) = turnWaits (waits t) x := by
  simp [waits]

end Tape

/-- A turn keeps a delay on schedule: a socket that opens begins the schedule again, and a wait that
is over goes on to the next delay. -/
theorem Worker.Turn.backoff_scheduled {w w' : Worker} {x : Exchange} (h : w.Turn x w')
    (initial longest : Duration) (n : Nat) (hp : w.policy = withBackoff initial longest)
    (hb : w.backoff.nanos = scheduled initial longest n) :
    w'.backoff.nanos = scheduled initial longest (Tape.turnWaits n x) := by
  cases h with
  | opened p k b =>
    have hinitial : p.initial = initial := by
      rw [show p = withBackoff initial longest from hp]
      rfl
    change p.initial.nanos = scheduled initial longest 0
    rw [hinitial, scheduled_zero]
  | elapsed p k b =>
    change (p.next b).nanos = scheduled initial longest (n + 1)
    rw [show p = withBackoff initial longest from hp]
    exact nanos_next_of_scheduled initial longest b n hb
  | _ => exact hb

theorem Worker.Turn.call_eq {w w' : Worker} {x : Exchange} (h : w.Turn x w') :
    w.call = x.call := by
  cases h <;> rfl

theorem Worker.eq_backoff_of_call (w : Worker) {d : Duration} (h : w.call = .wait d) :
    d = w.backoff := by
  obtain ⟨p, phase, n, b⟩ := w
  cases phase <;> cases h
  rfl

namespace Line

/-- What is kept on a line: the delay of its worker is the one whose turn it is. -/
structure Timed (initial longest : Duration) (l : Line) : Prop where
  policy : l.link.worker.policy = withBackoff initial longest
  backoff : l.link.worker.backoff.nanos = scheduled initial longest (Tape.waits l.tape)

variable {initial longest : Duration}

theorem timed_start (serial : Nat) :
    Timed initial longest (.start serial (withBackoff initial longest)) :=
  ⟨rfl, (scheduled_zero initial longest).symm⟩

theorem Timed.advance {l l' : Line} {x : Exchange} (h : Timed initial longest l)
    (hx : l.Advance x l') : Timed initial longest l' := by
  refine ⟨hx.turn.policy_eq.trans h.policy, ?_⟩
  rw [hx.tape, Tape.waits_concat]
  exact hx.turn.backoff_scheduled initial longest _ h.policy h.backoff

theorem timed_run (serial : Nat) (moves : List Move) :
    Timed initial longest ((start serial (withBackoff initial longest)).run moves) := by
  refine run_induction (P := Timed initial longest) _ (timed_start serial) ?_ ?_ moves
  · intro l m hm h
    obtain ⟨hw, ht⟩ := l.move_quiet m hm
    exact ⟨hw ▸ h.policy, by rw [hw, ht]; exact h.backoff⟩
  · intro l l' x hx h
    exact h.advance hx

theorem Timed.nanos_of_call {l : Line} (h : Timed initial longest l) {d : Duration}
    (hd : l.link.worker.call = .wait d) :
    d.nanos = scheduled initial longest (Tape.waits l.tape) := by
  rw [l.link.worker.eq_backoff_of_call hd]
  exact h.backoff

end Line

/-- In every run of a worker that reconnects, the waits since its start, or since the last socket
that opened, follow the schedule: the call of a wait, be it under way or answered, has the delay
whose number is that of the waits before it. The delays that the policy computes follow the same
schedule, although durations have a greatest value and the schedule has none. -/
theorem waits_on_schedule (serial : Nat) (initial longest : Duration) (moves : List Move) :
    let l := (Line.start serial (withBackoff initial longest)).run moves
    (∀ d, l.link.worker.call = .wait d → d.nanos = scheduled initial longest (Tape.waits l.tape)) ∧
    (∀ before d r after, l.tape = before ++ ⟨.wait d, r⟩ :: after →
      d.nanos = scheduled initial longest (Tape.waits before)) ∧
    ∀ count, ((withBackoff initial longest).delays count initial).map Duration.nanos =
      (List.range count).map (fun n => scheduled initial longest (n + 1)) := by
  intro l
  refine ⟨?_, ?_, ?_⟩
  · intro d hd
    exact (Line.timed_run serial moves).nanos_of_call hd
  · intro before d r after htape
    -- the worker made the call when its tape ended there
    obtain ⟨earlier, l', hbefore, hx⟩ := Line.exists_advance serial _ moves before after _ htape
    have hcall := hx.turn.call_eq
    have htimed := (Line.timed_run serial earlier).nanos_of_call hcall
    rwa [hbefore] at htimed
  · intro count
    have hzero : initial.nanos = scheduled initial longest 0 := (scheduled_zero _ _).symm
    have hdelays := delays_of_scheduled initial longest initial 0 count hzero
    simpa only [Nat.zero_add, Nat.add_comm 1] using hdelays

/-- Three attempts are refused and the fourth opens a socket: the delay grows up to the longest one
and is the first one again. -/
theorem waits_on_schedule_of_four :
    let initial := Duration.ofMillis 500
    let longest := Duration.ofMillis 1200
    let refused : List Move :=
      [.step .done, .step (.failed "no"), .step .done, .step .done, .step .elapsed]
    let opened : List Move :=
      [.step .done, .step .opened, .step .done, .step .nothing, .step .ended, .step .done]
    let l := (Line.start 0 (withBackoff initial longest)).run
      (refused ++ refused ++ refused ++ opened)
    (l.link.worker.call = .wait initial ∧ Tape.waits l.tape = 0 ∧
      initial.nanos = scheduled initial longest 0) ∧
    ∃ before after, l.tape = before ++ ⟨.wait longest, .elapsed⟩ :: after ∧
      Tape.waits before = 2 ∧ longest.nanos = scheduled initial longest 2 := by
  intro initial longest refused opened l
  obtain ⟨hnow, hthen, -⟩ :=
    waits_on_schedule 0 initial longest (refused ++ refused ++ refused ++ opened)
  have hcall : l.link.worker.call = .wait initial := by decide +kernel
  have hzero : Tape.waits l.tape = 0 := by decide +kernel
  have htape : l.tape = l.tape.take 14 ++ ⟨.wait longest, .elapsed⟩ :: l.tape.drop 15 := by
    decide +kernel
  have htwo : Tape.waits (l.tape.take 14) = 2 := by decide +kernel
  refine ⟨⟨hcall, hzero, ?_⟩, _, _, htape, htwo, ?_⟩
  · exact hzero ▸ hnow initial hcall
  · exact htwo ▸ hthen _ longest .elapsed _ htape

end LiveTail
