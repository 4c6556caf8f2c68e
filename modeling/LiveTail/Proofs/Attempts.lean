import LiveTail.Proofs.Lineage
/-! How often a worker calls the connector: once for each attempt that it has announced and that
somebody has heard of. -/
namespace LiveTail

def Event.isAttempt : Event → Bool
  | .connecting _ => true
  | _ => false

namespace Tape

/-- The calls of the connector that have come back. -/
def attempts (t : Tape) : Nat := t.countP (fun x => x.call = .connect)

/-- The attempts whose announcement was heard. -/
def announced (t : Tape) : Nat := t.posted.countP Event.isAttempt

@[simp] theorem attempts_concat (t : Tape) (x : Exchange) :
    attempts (t ++ [x]) = attempts t + if x.call = .connect then 1 else 0 := by
  by_cases h : x.call = .connect <;> simp [attempts, h]

@[simp] theorem announced_concat (t : Tape) (x : Exchange) :
    announced (t ++ [x]) = announced t + x.posted?.toList.countP Event.isAttempt := by
  rw [announced, posted_concat, List.countP_append, announced]

end Tape

/-- The call of the connector that has not come back, if there is one. -/
def Worker.calling (w : Worker) : Nat := if w.phase = .connecting then 1 else 0

theorem Worker.Turn.attempt_eq {w w' : Worker} {x : Exchange} (h : w.Turn x w') :
    x.posted?.toList.countP Event.isAttempt + w.calling =
      (if x.call = .connect then 1 else 0) + w'.calling := by
  cases h <;> simp [Exchange.posted?, Event.isAttempt, Worker.calling]

namespace Line

theorem Advance.attempt_eq {l l' : Line} {x : Exchange} (h : l.Advance x l')
    (hl : Tape.announced l.tape = Tape.attempts l.tape + l.link.worker.calling) :
    Tape.announced l'.tape = Tape.attempts l'.tape + l'.link.worker.calling := by
  have hturn := h.turn.attempt_eq
  rw [h.tape, Tape.announced_concat, Tape.attempts_concat]
  omega

/-- Each call of the connector follows an announcement, and each announcement is followed by one. -/
theorem announced_eq (serial : Nat) (policy : ReconnectPolicy) (moves : List Move) :
    Tape.announced ((Line.start serial policy).run moves).tape =
      Tape.attempts ((Line.start serial policy).run moves).tape +
        ((Line.start serial policy).run moves).link.worker.calling := by
  refine run_induction (P := fun l =>
    Tape.announced l.tape = Tape.attempts l.tape + l.link.worker.calling) _ rfl ?_ ?_ moves
  · intro l m hm hl
    obtain ⟨hw, ht⟩ := l.move_quiet m hm
    rw [hw, ht]
    exact hl
  · intro l l' x hx hl
    exact hx.attempt_eq hl

/-- What nobody hears is not posted. -/
theorem Advance.posted_of_unheard {l l' : Line} {x : Exchange} (h : l.Advance x l')
    (hh : l.link.heard = false) : Tape.posted l'.tape = Tape.posted l.tape := by
  have hnone : x.posted? = none := by
    obtain ⟨call, reply⟩ := x
    cases call with
    | post e =>
      have hr := h.posts e rfl
      rw [hh] at hr
      obtain rfl : reply = .lost := hr
      rfl
    | _ => rfl
  rw [h.tape, Tape.posted_concat, hnone, Option.toList_none, List.append_nil]

end Line

/-- Once nobody hears a worker, its posts stay what they are for the rest of the run. -/
theorem Scene.posted_of_unheard (c : Scene) (k : Nat) (hk : k < c.session.connection.started)
    (l : Line) (hl : c.line? k = some l) (hh : l.link.heard = false) (acts : List Act) :
    ∃ l', (c.run acts).line? k = some l' ∧ Tape.posted l'.tape = Tape.posted l.tape := by
  let P (m : Line) : Prop := m.link.heard = false ∧ Tape.posted m.tape = Tape.posted l.tape
  have hquiet : ∀ m mv, (∀ o, mv ≠ .step o) → P m → P (m.move mv) := by
    rintro m mv hmv ⟨hm, ht⟩
    have hkeep := mt (m.heard_of_move mv)
    exact ⟨by simpa [hm] using hkeep, by rw [(m.move_quiet mv hmv).2, ht]⟩
  have hstep : ∀ (d : Scene) m o x, d.line? k = some m → True → m.Advance x (m.move (.step o)) →
      P m → P (m.move (.step o)) := by
    rintro d m o x - - hx ⟨hm, ht⟩
    exact ⟨hx.heard.trans hm, (hx.posted_of_unheard hm).trans ht⟩
  obtain ⟨l', hl', -, ht⟩ := line_run_induction (Q := fun _ _ => True) hquiet hstep c hk acts
    (fun _ _ _ _ => trivial) l hl ⟨hh, rfl⟩
  exact ⟨l', hl', ht⟩

end LiveTail
