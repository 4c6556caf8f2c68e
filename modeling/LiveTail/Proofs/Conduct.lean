import LiveTail.Proofs.Lineage
/-! How a worker treats its sockets. It calls nothing but their end on those that failed it, nothing
at all on those that their peer closed, and it closes each of the others once before it goes on. The
only socket that it drops without a word is one of which nobody hears that it opened. -/
namespace LiveTail

namespace Exchange

/-- Whether the exchange is a call of a socket. -/
def onSocket : Exchange → Bool
  | ⟨.send _, _⟩ | ⟨.receive, _⟩ | ⟨.close, _⟩ => true
  | _ => false

/-- Whether a call of a socket came back with a fault. -/
def fails : Exchange → Bool
  | ⟨.send _, .failed _⟩ | ⟨.receive, .failed _⟩ => true
  | _ => false

def closes (x : Exchange) : Bool := x.call = .close

/-- Whether the socket says that its peer closed it. -/
def endedBeyond (x : Exchange) : Bool := x = ⟨.receive, .ended⟩

/-- Whether the socket must not be used any more after the exchange. -/
def isLast (x : Exchange) : Bool := x.closes || x.endedBeyond || x.fails

theorem of_isLast_eq_false {x : Exchange} (h : x.isLast = false) :
    x.closes = false ∧ x.endedBeyond = false := by
  simp only [isLast, Bool.or_eq_false_iff] at h
  exact h.1

theorem of_fails {x : Exchange} (h : x.fails = true) :
    x.closes = false ∧ x.endedBeyond = false := by
  unfold fails at h
  split at h
  · exact ⟨rfl, rfl⟩
  · exact ⟨rfl, by simp [endedBeyond]⟩
  · cases h

end Exchange

namespace Tape

/-- The calls of each socket after one more exchange. -/
def turnVisits (visits : List Tape) (x : Exchange) : List Tape :=
  if x = ⟨.connect, .opened⟩ then [] :: visits
  else match visits with
    | [] => []
    | v :: older => (if x.onSocket then v ++ [x] else v) :: older

/-- What was called on each of the sockets that have been opened, the latest socket first. -/
def visits (t : Tape) : List Tape := t.foldl turnVisits []

@[simp] theorem visits_concat (t : Tape) (x : Exchange) :
    visits (t ++ [x]) = turnVisits (visits t) x := by
  simp [visits]

theorem turnVisits_of_connected (visits : List Tape) (x : Exchange)
    (h : x = ⟨.connect, .opened⟩) : turnVisits visits x = [] :: visits := by
  simp [turnVisits, h]

theorem turnVisits_cons (v : Tape) (older : List Tape) (x : Exchange)
    (h : x ≠ ⟨.connect, .opened⟩) :
    turnVisits (v :: older) x = (if x.onSocket then v ++ [x] else v) :: older := by
  simp [turnVisits, h]

/-- An exchange that is about no socket leaves all of them as they are. -/
theorem turnVisits_of_not_onSocket (visits : List Tape) (x : Exchange)
    (h : x ≠ ⟨.connect, .opened⟩) (hx : x.onSocket = false) : turnVisits visits x = visits := by
  cases visits <;> simp [turnVisits, h, hx]

/-- All calls of a socket went well so far. -/
def Sound (v : Tape) : Prop := ∀ x ∈ v, x.isLast = false

/-- The last call of a socket failed. -/
def Spoilt (v : Tape) : Prop := ∃ talk x, v = talk ++ [x] ∧ Sound talk ∧ x.fails = true

theorem Sound.concat {v : Tape} {x : Exchange} (h : Sound v) (hx : x.isLast = false) :
    Sound (v ++ [x]) := by
  intro y hy
  rcases List.mem_append.1 hy with hy | hy
  · exact h y hy
  · rw [List.mem_singleton.1 hy, hx]

/-- The ways in which a socket is left: its peer closed it, or it was closed, be it after a call of
it had failed. -/
inductive Farewell : Tape → Prop where
  | endedBeyond : Farewell [⟨.receive, .ended⟩]
  | closed : Farewell [⟨.close, .done⟩]
  | failed (x : Exchange) (h : x.fails = true) : Farewell [x, ⟨.close, .done⟩]

/-- A socket that is left as it should be: a talk that went well, and a farewell. -/
def Left (v : Tape) : Prop := ∃ talk farewell, v = talk ++ farewell ∧ Sound talk ∧ Farewell farewell

/-- After a call that must be the last one, a socket is closed at the most. -/
def Orderly (v : Tape) : Prop := v.Pairwise fun x y => x.isLast = true → y.closes = true

theorem Sound.orderly_append {talk rest : Tape} (h : Sound talk) (hr : Orderly rest) :
    Orderly (talk ++ rest) := by
  have hnone : ∀ x ∈ talk, ∀ y : Exchange, x.isLast = true → y.closes = true := by
    intro x hx y hl
    rw [h x hx] at hl
    cases hl
  refine List.pairwise_append.2 ⟨?_, hr, fun x hx y _ => hnone x hx y⟩
  exact List.Pairwise.imp_of_mem (fun hx _ _ => hnone _ hx _)
    (List.pairwise_of_forall (R := fun _ _ => True) fun _ _ => trivial)

theorem Spoilt.orderly {v : Tape} (h : Spoilt v) : Orderly v := by
  obtain ⟨talk, x, rfl, ht, -⟩ := h
  exact ht.orderly_append (List.pairwise_singleton _ _)

theorem Left.orderly {v : Tape} (h : Left v) : Orderly v := by
  obtain ⟨talk, farewell, rfl, ht, hf⟩ := h
  apply ht.orderly_append
  cases hf with
  | endedBeyond | closed => exact List.pairwise_singleton _ _
  | failed x hx => exact List.pairwise_pair.2 fun _ => rfl

/-- A socket that has been left was closed once, or its peer closed it and it was not closed. -/
theorem Left.closed {v : Tape} (h : Left v) :
    ⟨.receive, .ended⟩ ∈ v ∧ v.countP Exchange.closes = 0 ∨
      ⟨.receive, .ended⟩ ∉ v ∧ v.countP Exchange.closes = 1 := by
  obtain ⟨talk, farewell, rfl, ht, hf⟩ := h
  have hcount : talk.countP Exchange.closes = 0 := by
    rw [List.countP_eq_zero]
    intro x hx
    simp [(Exchange.of_isLast_eq_false (ht x hx)).1]
  have hended : ⟨.receive, .ended⟩ ∉ talk := by
    intro hm
    have hx := (Exchange.of_isLast_eq_false (ht _ hm)).2
    simp [Exchange.endedBeyond] at hx
  rw [List.countP_append, hcount]
  cases hf with
  | endedBeyond => exact .inl ⟨List.mem_concat_self, rfl⟩
  | closed => exact .inr ⟨by simp [hended], rfl⟩
  | failed x hx =>
    obtain ⟨hc, he⟩ := Exchange.of_fails hx
    have hne : x ≠ ⟨.receive, .ended⟩ := by
      rintro rfl
      cases hx
    exact .inr ⟨by simp [hended, hne.symm], by rw [List.countP_cons, hc]; rfl⟩

end Tape

namespace Worker

/-- How a worker stands with the socket that it holds. -/
def Keeps (w : Worker) (v : Tape) : Prop :=
  match w.phase with
  | .opening => v = []
  | .breaking _ => v.Spoilt
  | .hangingUp _ => v.Sound ∨ v.Spoilt
  | _ => v.Sound

theorem Keeps.orderly {w : Worker} {v : Tape} (h : w.Keeps v) : v.Orderly := by
  have hsound : v.Sound → v.Orderly := by
    intro hs
    simpa using hs.orderly_append (List.Pairwise.nil (R := fun x y : Exchange => _))
  obtain ⟨p, phase, n, b⟩ := w
  cases phase with
  | opening =>
    obtain rfl : v = [] := h
    exact List.Pairwise.nil
  | breaking m => exact Tape.Spoilt.orderly h
  | hangingUp r => exact h.elim hsound Tape.Spoilt.orderly
  | _ => exact hsound h

theorem Turn.phases_of_connected {w w' : Worker} {x : Exchange} (h : w.Turn x w')
    (hx : x = ⟨.connect, .opened⟩) : w.phase = .connecting ∧ w'.phase = .opening := by
  cases h <;> first | exact ⟨rfl, rfl⟩ | cases hx

/-- Only a worker that holds a socket calls it. -/
theorem Turn.onSocket_eq_false {w w' : Worker} {x : Exchange} (h : w.Turn x w')
    (hw : w.holds = false) : x.onSocket = false := by
  cases h <;> first | rfl | cases hw

/-- As long as a worker keeps its socket, it makes of it what it should. -/
theorem Keeps.turn {w w' : Worker} {x : Exchange} {v : Tape} (h : w.Keeps v) (hx : w.Turn x w')
    (hw : w.holds = true) (hw' : w'.holds = true) :
    w'.Keeps (if x.onSocket then v ++ [x] else v) := by
  cases hx with
  | entered p n b =>
    obtain rfl : v = [] := h
    intro y hy
    cases hy
  -- calls that went well, and turns that are about the queues
  | sent p n b t | received p n b f | idled p n b => exact Tape.Sound.concat h rfl
  | picked p n b t | polled p n b | forwarded p n b f => exact h
  | toldToClose p n b | leftAlone p n b | unheardFrame p n b f => exact .inl h
  -- a fault, of which the session hears before the socket is closed
  | unsent p n b t m | broke p n b m => exact ⟨v, _, rfl, h, rfl⟩
  | complained p n b m | unheardError p n b m => exact .inr h
  | _ => simp [holds] at hw hw'

/-- When a worker goes on without its socket, it has taken leave of it; or nobody heard that the
socket opened. -/
theorem Keeps.leave {w w' : Worker} {x : Exchange} {v : Tape} (h : w.Keeps v) (hx : w.Turn x w')
    (hw : w.holds = true) (hw' : w'.holds = false) :
    (if x.onSocket then v ++ [x] else v).Left ∨
      v = [] ∧ x = ⟨.post .opened, .lost⟩ ∧ w'.isGone = true := by
  cases hx with
  | closedBeyond p n b => exact .inl ⟨v, _, rfl, h, .endedBeyond⟩
  | hungUp p n b r =>
    rcases h with hs | ⟨talk, y, rfl, ht, hy⟩
    · exact .inl ⟨v, _, rfl, hs, .closed⟩
    · exact .inl ⟨talk, [y, ⟨.close, .done⟩], by simp [Exchange.onSocket], ht, .failed y hy⟩
  | unheardOpen p n b => exact .inr ⟨h, rfl, rfl⟩
  | _ => simp [holds] at hw hw'

end Worker

/-- What is kept on a line: the sockets before the last one have been left as they should be, and
the last one too unless the worker holds it. Of a socket that the worker dropped nobody heard. -/
structure Line.Conducted (l : Line) : Prop where
  held : l.link.worker.holds = true → ∃ v older, Tape.visits l.tape = v :: older ∧
    l.link.worker.Keeps v ∧ ∀ u ∈ older, Tape.Left u
  left : l.link.worker.holds = false → (∀ u ∈ Tape.visits l.tape, Tape.Left u) ∨
    l.link.worker.isGone = true ∧ l.tape.getLast? = some ⟨.post .opened, .lost⟩ ∧
      ∃ older, Tape.visits l.tape = [] :: older ∧ ∀ u ∈ older, Tape.Left u

namespace Line

theorem Conducted.advance {l l' : Line} {x : Exchange} (h : l.Conducted) (hx : l.Advance x l') :
    l'.Conducted := by
  have hvisits : Tape.visits l'.tape = Tape.turnVisits (Tape.visits l.tape) x := by
    rw [hx.tape, Tape.visits_concat]
  cases hw : l.link.worker.holds with
  | false =>
    -- a worker that makes a turn is not gone, so it has left all its sockets
    have hleft : ∀ u ∈ Tape.visits l.tape, Tape.Left u := by
      rcases h.left hw with hleft | ⟨hg, -⟩
      · exact hleft
      · rw [hx.turn.isGone_eq_false] at hg
        cases hg
    by_cases hopen : x = ⟨.connect, .opened⟩
    · have hphase := (hx.turn.phases_of_connected hopen).2
      constructor
      · intro _
        have hkeeps : l'.link.worker.Keeps [] := by simp [Worker.Keeps, hphase]
        exact ⟨[], _, by rw [hvisits, Tape.turnVisits_of_connected _ x hopen], hkeeps, hleft⟩
      · intro hw'
        simp [Worker.holds, hphase] at hw'
    · have hsame := Tape.turnVisits_of_not_onSocket (Tape.visits l.tape) x hopen
        (hx.turn.onSocket_eq_false hw)
      constructor
      · intro hw'
        rcases hx.turn.holds_cases hw' with rfl | ⟨hold, -⟩
        · exact absurd rfl hopen
        · rw [hw] at hold
          cases hold
      · intro _
        left
        rwa [hvisits, hsame]
  | true =>
    obtain ⟨v, older, hv, hkeeps, holder⟩ := h.held hw
    have hne : x ≠ ⟨.connect, .opened⟩ := by
      intro hopen
      simp [Worker.holds, (hx.turn.phases_of_connected hopen).1] at hw
    have hnext : Tape.visits l'.tape = (if x.onSocket then v ++ [x] else v) :: older := by
      rw [hvisits, hv, Tape.turnVisits_cons v older x hne]
    constructor
    · intro hw'
      exact ⟨_, older, hnext, hkeeps.turn hx.turn hw hw', holder⟩
    · intro hw'
      rcases hkeeps.leave hx.turn hw hw' with hleft | ⟨rfl, rfl, hg⟩
      · left
        rw [hnext]
        exact List.forall_mem_cons.2 ⟨hleft, holder⟩
      · right
        exact ⟨hg, by rw [hx.tape, List.getLast?_concat], older, hnext, holder⟩

theorem conducted_start (serial : Nat) (policy : ReconnectPolicy) :
    (start serial policy).Conducted := by
  refine ⟨fun h => (nomatch h), fun _ => .inl ?_⟩
  intro u hu
  cases hu

theorem Conducted.quiet {l : Line} (h : l.Conducted) (m : Move) (hm : ∀ o, m ≠ .step o) :
    (l.move m).Conducted := by
  obtain ⟨hw, ht⟩ := l.move_quiet m hm
  constructor
  · rw [hw, ht]
    exact h.held
  · rw [hw, ht]
    exact h.left

theorem conducted_run (serial : Nat) (policy : ReconnectPolicy) (moves : List Move) :
    ((start serial policy).run moves).Conducted :=
  run_induction _ (conducted_start serial policy) (fun _ m hm h => h.quiet m hm)
    (fun _ _ _ hx h => h.advance hx) moves

/-- No call of a socket is made without one. -/
theorem visits_flatten (serial : Nat) (policy : ReconnectPolicy) (moves : List Move) :
    (Tape.visits ((start serial policy).run moves).tape).reverse.flatten =
      ((start serial policy).run moves).tape.filter Exchange.onSocket := by
  let P (l : Line) : Prop := l.Conducted ∧
    (Tape.visits l.tape).reverse.flatten = l.tape.filter Exchange.onSocket
  have hquiet : ∀ l m, (∀ o, m ≠ .step o) → P l → P (l.move m) := by
    rintro l m hm ⟨hcon, hflat⟩
    exact ⟨hcon.quiet m hm, by rw [(l.move_quiet m hm).2, hflat]⟩
  have hstep : ∀ l l' x, l.Advance x l' → P l → P l' := by
    rintro l l' x hx ⟨hcon, hflat⟩
    refine ⟨hcon.advance hx, ?_⟩
    rw [hx.tape, Tape.visits_concat, List.filter_append, ← hflat]
    by_cases hopen : x = ⟨.connect, .opened⟩
    · rw [Tape.turnVisits_of_connected _ x hopen, hopen]
      simp [Exchange.onSocket]
    · cases hw : l.link.worker.holds with
      | false =>
        have hx' := hx.turn.onSocket_eq_false hw
        rw [Tape.turnVisits_of_not_onSocket _ x hopen hx']
        simp [hx']
      | true =>
        obtain ⟨v, older, hv, -⟩ := hcon.held hw
        rw [hv, Tape.turnVisits_cons v older x hopen]
        cases hx' : x.onSocket <;> simp [hx']
  exact (run_induction _ ⟨conducted_start serial policy, rfl⟩ hquiet hstep moves).2

end Line

/-- In every run of a worker: once a call of a socket failed, or said that its peer closed it, or
closed it, the socket is closed at the most. By the time the worker goes on without a socket, either
its peer closed it and the worker did not, or the worker closed it once. The one exception is the
last socket of a worker that ends since nobody hears that it opened: nothing is called on that one,
so it is not closed either. -/
theorem sockets_left_in_order (serial : Nat) (policy : ReconnectPolicy) (moves : List Move)
    (l : Line) (hl : l = (Line.start serial policy).run moves) :
    (Tape.visits l.tape).reverse.flatten = l.tape.filter Exchange.onSocket ∧
    (∀ calls ∈ Tape.visits l.tape,
      calls.Pairwise fun x y => x.isLast = true → y.closes = true) ∧
    ∀ newer calls older, Tape.visits l.tape = newer ++ calls :: older →
      (newer = [] → l.link.worker.holds = false) →
      (⟨.receive, .ended⟩ ∈ calls ∧ calls.countP Exchange.closes = 0 ∨
        ⟨.receive, .ended⟩ ∉ calls ∧ calls.countP Exchange.closes = 1) ∨
      newer = [] ∧ calls = [] ∧ l.tape.getLast? = some ⟨.post .opened, .lost⟩ := by
  subst hl
  have h := Line.conducted_run serial policy moves
  refine ⟨Line.visits_flatten serial policy moves, ?_, ?_⟩
  · intro calls hcalls
    cases hw : ((Line.start serial policy).run moves).link.worker.holds with
    | true =>
      obtain ⟨v, older, hv, hkeeps, holder⟩ := h.held hw
      rw [hv] at hcalls
      rcases List.mem_cons.1 hcalls with rfl | hm
      · exact hkeeps.orderly
      · exact (holder calls hm).orderly
    | false =>
      rcases h.left hw with hleft | ⟨-, -, older, hv, holder⟩
      · exact (hleft calls hcalls).orderly
      · rw [hv] at hcalls
        rcases List.mem_cons.1 hcalls with rfl | hm
        · exact List.Pairwise.nil
        · exact (holder calls hm).orderly
  · intro newer calls older hv hnewer
    have hmem : calls ∈ newer ++ calls :: older :=
      List.mem_append_right _ List.mem_cons_self
    cases hw : ((Line.start serial policy).run moves).link.worker.holds with
    | true =>
      -- the worker still has the latest socket, so this is one of those before it
      obtain ⟨v, rest, hv', -, holder⟩ := h.held hw
      cases newer with
      | nil => exact absurd (hnewer rfl) (by simp [hw])
      | cons u newer =>
        obtain ⟨-, rfl⟩ := List.cons_eq_cons.1 (hv'.symm.trans hv)
        exact .inl (holder calls (by simp)).closed
    | false =>
      rcases h.left hw with hleft | ⟨-, hlast, rest, hv', holder⟩
      · exact .inl (hleft calls (hv ▸ hmem)).closed
      · cases newer with
        | nil =>
          obtain ⟨rfl, -⟩ := List.cons_eq_cons.1 (hv'.symm.trans hv)
          exact .inr ⟨rfl, rfl, hlast⟩
        | cons u newer =>
          obtain ⟨-, rfl⟩ := List.cons_eq_cons.1 (hv'.symm.trans hv)
          exact .inl (holder calls (by simp)).closed

/-- The backend closes the first socket, and the second one fails. -/
theorem sockets_left_in_order_of_two :
    let policy := ReconnectPolicy.withBackoff (.ofMillis 500) (.ofMillis 500)
    let l := (Line.start 0 policy).run [.step .done, .step .opened, .step .done, .step .nothing,
      .step .ended, .step .done, .step .elapsed, .step .done, .step .opened, .step .done,
      .give (.send "a"), .step .nothing, .step (.failed "reset"), .step .done, .step .done]
    let calls : List Tape := [[⟨.send "a", .failed "reset"⟩, ⟨.close, .done⟩], [⟨.receive, .ended⟩]]
    Tape.visits l.tape = calls ∧ l.link.worker.holds = false ∧
      (∀ v ∈ calls, v.Pairwise fun x y => x.isLast = true → y.closes = true) ∧
      ∀ newer v older, calls = newer ++ v :: older →
        (⟨.receive, .ended⟩ ∈ v ∧ v.countP Exchange.closes = 0 ∨
          ⟨.receive, .ended⟩ ∉ v ∧ v.countP Exchange.closes = 1) ∨
        newer = [] ∧ v = [] ∧ l.tape.getLast? = some ⟨.post .opened, .lost⟩ := by
  intro policy l calls
  have hv : Tape.visits l.tape = calls := by decide +kernel
  have hw : l.link.worker.holds = false := by decide +kernel
  obtain ⟨-, horder, hleft⟩ := sockets_left_in_order 0 policy _ l rfl
  rw [hv] at horder hleft
  exact ⟨hv, hw, horder, fun newer v older h => hleft newer v older h fun _ => hw⟩

/-- A worker that was let go while it was calling the connector drops the socket that it gets
without closing it. -/
theorem socket_dropped_unclosed :
    ¬ ∀ (serial : Nat) (policy : ReconnectPolicy) (moves : List Move) (newer : List Tape)
      (calls : Tape) (older : List Tape) (l : Line), l = (Line.start serial policy).run moves →
      Tape.visits l.tape = newer ++ calls :: older →
      (newer = [] → l.link.worker.holds = false) →
      ⟨.receive, .ended⟩ ∈ calls ∧ calls.countP Exchange.closes = 0 ∨
        calls.countP Exchange.closes = 1 := by
  intro h
  let moves : List Move := [.step .done, .detach, .step .opened, .step .done]
  have hleft := h 0 .disabled moves [] [] [] _ rfl (by decide +kernel) (fun _ => by decide +kernel)
  revert hleft
  decide

end LiveTail
