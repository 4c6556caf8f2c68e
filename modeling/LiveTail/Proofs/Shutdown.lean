import LiveTail.Proofs.Attempts
import LiveTail.Proofs.Grammar
import LiveTail.Proofs.Reads
/-! What a shutdown hook does to a worker that reconnects. A worker that has been asked to close, or
that has taken notice of it, announces no attempt after the one it is in, as long as its waits last
until it has read its commands. A wait of no length does not. -/
namespace LiveTail

namespace Duration

@[simp] theorem nanos_min (a b : Duration) : (min a b).nanos = min a.nanos b.nanos := by
  change (if a.nanos ≤ b.nanos then a else b).nanos = _
  split <;> omega

@[simp] theorem nanos_max (a b : Duration) : (max a b).nanos = max a.nanos b.nanos := by
  change (if a.nanos ≤ b.nanos then b else a).nanos = _
  split <;> omega

theorem double_pos (d : Duration) (h : 0 < d.nanos) : 0 < d.double.nanos := by
  have hmax : 0 < maxNanos := by decide
  simp only [double, saturated]
  omega

end Duration

namespace ReconnectPolicy

/-- The delays of a policy begin above zero, and stay above. -/
structure Positive (p : ReconnectPolicy) : Prop where
  initial : 0 < p.initial.nanos
  longest : 0 < p.longest.nanos

theorem positive_withBackoff (initial longest : Duration) (enabled : Bool) (h : 0 < initial.nanos) :
    Positive { withBackoff initial longest with enabled := enabled } := by
  refine ⟨h, ?_⟩
  simp only [withBackoff, Duration.nanos_max]
  omega

theorem Positive.next_pos {p : ReconnectPolicy} (h : p.Positive) (d : Duration) (hd : 0 < d.nanos) :
    0 < (p.next d).nanos := by
  have hdouble := d.double_pos hd
  have hlongest := h.longest
  rw [next, Duration.nanos_min]
  omega

end ReconnectPolicy

namespace Worker

/-- The attempt that the worker is about to announce, if there is one. -/
def announcing (w : Worker) : Nat := if w.phase = .announcing then 1 else 0

/-- Whether the worker has taken notice that it is to end. -/
def parts (w : Worker) : Bool :=
  match w.phase with
  | .hangingUp .here | .ended .here | .stopping | .gone => true
  | _ => false

theorem parts_of_gone (w : Worker) (h : w.isGone = true) : w.parts = true := by
  obtain ⟨p, phase, n, b⟩ := w
  obtain rfl : phase = .gone := by simpa [isGone] using h
  rfl

theorem Turn.backoff_pos {w w' : Worker} {x : Exchange} (h : w.Turn x w') (hp : w.policy.Positive)
    (hw : 0 < w.backoff.nanos) : 0 < w'.backoff.nanos := by
  cases h with
  | opened p n b => exact hp.initial
  | elapsed p n b => exact hp.next_pos b hw
  | _ => exact hw

/-- An attempt is announced only after a wait. -/
theorem Turn.announced_le {w w' : Worker} {x : Exchange} (h : w.Turn x w')
    (hx : x.reply ≠ .elapsed) :
    x.posted?.toList.countP Event.isAttempt + w'.announcing ≤ w.announcing := by
  cases h with
  | elapsed => exact absurd rfl hx
  | _ => simp [Exchange.posted?, Event.isAttempt, announcing]

theorem Turn.parts_of_parts {w w' : Worker} {x : Exchange} (h : w.Turn x w')
    (hw : w.parts = true) : w'.parts = true := by
  cases h with
  | hungUp p n b r => cases r <;> first | rfl | cases hw
  | paused p n b r on again => cases r <;> first | exact absurd rfl again | cases hw
  | _ => first | rfl | cases hw

theorem Turn.parts_of_close {w w' : Worker} {x : Exchange} (h : w.Turn x w')
    (hx : x.taken? = some .close) : w'.parts = true := by
  cases h <;> first | rfl | cases hx

theorem Turn.parts_of_elapsed {w w' : Worker} {x : Exchange} (h : w.Turn x w')
    (hx : x.reply = .elapsed) : w.parts = false := by
  cases h <;> first | rfl | cases hx

/-- The last word of a worker that is heard is that its connection ended; if it reconnects, that it
was closed on this side. -/
theorem Turn.posted_of_gone {w w' : Worker} {x : Exchange} (h : w.Turn x w')
    (hg : w'.isGone = true) (hx : x.reply ≠ .lost) (hp : w.policy.enabled = true) :
    x.posted? = some (.closed .here) := by
  cases h with
  | finished p n b r last => rw [last hp]; rfl
  | stopped => rfl
  | unheardAttempt | unheardOpen | unheardRefusal | unheardEnd | unheardStop => exact absurd rfl hx
  | _ => cases hg

end Worker

namespace Line

/-- The worker has been asked to close, or it has taken notice of that. -/
def Closing (l : Line) : Prop := .close ∈ l.link.commands ∨ l.link.worker.parts = true

theorem Closing.advance {l l' : Line} {x : Exchange} (h : l.Closing) (hx : l.Advance x l') :
    l'.Closing := by
  rcases h with hmem | hparts
  · obtain ⟨rest, hc, hc'⟩ := hx.commands
    rw [hc, List.mem_append] at hmem
    -- the request is what has been read, or it waits behind that
    rcases hmem with hread | hrest
    · exact .inr (hx.turn.parts_of_close (Option.mem_toList.1 hread))
    · cases hg : l'.link.worker.isGone with
      | false =>
        left
        rwa [hc', hg, if_neg Bool.false_ne_true]
      | true => exact .inr (l'.link.worker.parts_of_gone hg)
  · exact .inr (hx.turn.parts_of_parts hparts)

/-- What is kept on the line of a worker that is closing: it announces no more attempts than so
many, and no wait of it is without length. -/
structure Doomed (count : Nat) (l : Line) : Prop where
  closing : l.Closing
  announced : Tape.announced l.tape + l.link.worker.announcing ≤ count
  policy : l.link.worker.policy.Positive
  backoff : 0 < l.link.worker.backoff.nanos

theorem Doomed.quiet {count : Nat} {l : Line} (h : Doomed count l) (m : Move)
    (hm : ∀ o, m ≠ .step o) : Doomed count (l.move m) := by
  obtain ⟨hw, ht⟩ := l.move_quiet m hm
  obtain ⟨more, hc⟩ := l.commands_move m hm
  constructor
  case closing =>
    rw [Closing, hw, hc]
    exact h.closing.imp_left (List.mem_append_left more)
  case announced =>
    rw [ht, hw]
    exact h.announced
  case policy =>
    rw [hw]
    exact h.policy
  case backoff =>
    rw [hw]
    exact h.backoff

theorem Doomed.advance {count : Nat} {l l' : Line} {x : Exchange} (h : Doomed count l)
    (hx : l.Advance x l') (heed : x.reply = .elapsed → l.link.commands = []) : Doomed count l' := by
  have hne : x.reply ≠ .elapsed := by
    intro he
    rcases h.closing with hmem | hparts
    · -- the request to close has not been read, so the wait goes on
      rw [heed he] at hmem
      cases hmem
    · rw [hx.turn.parts_of_elapsed he] at hparts
      cases hparts
  have hannounced := h.announced
  have hturn := hx.turn.announced_le hne
  constructor
  case closing => exact h.closing.advance hx
  case announced =>
    rw [hx.tape, Tape.announced_concat]
    omega
  case policy =>
    rw [hx.turn.policy_eq]
    exact h.policy
  case backoff => exact hx.turn.backoff_pos h.policy h.backoff

/-- The delay before the next attempt is never zero. -/
theorem backoff_pos (serial : Nat) (policy : ReconnectPolicy) (hp : policy.Positive)
    (moves : List Move) (l : Line) (hl : l = (start serial policy).run moves) :
    l.link.worker.policy.Positive ∧ 0 < l.link.worker.backoff.nanos := by
  subst hl
  refine run_induction (P := fun l => l.link.worker.policy.Positive ∧
    0 < l.link.worker.backoff.nanos) _ ⟨hp, hp.initial⟩ ?_ ?_ moves
  · intro l m hm hl
    rwa [(l.move_quiet m hm).1]
  · rintro l l' x hx ⟨hpol, hpos⟩
    exact ⟨hx.turn.policy_eq ▸ hpol, hx.turn.backoff_pos hpol hpos⟩

theorem last_posted (serial : Nat) (policy : ReconnectPolicy) (hp : policy.enabled = true)
    (moves : List Move) (l : Line) (hl : l = (start serial policy).run moves)
    (hh : l.link.heard = true) (hg : l.link.worker.isGone = true) :
    (Tape.posted l.tape).getLast? = some (.closed .here) := by
  let P (l : Line) : Prop := l.link.worker.policy.enabled = true ∧
    (l.link.heard = true → l.link.worker.isGone = true →
      (Tape.posted l.tape).getLast? = some (.closed .here))
  have hstart : P (start serial policy) := ⟨hp, fun _ h => nomatch h⟩
  have hquiet : ∀ l m, (∀ o, m ≠ .step o) → P l → P (l.move m) := by
    rintro l m hm ⟨hpol, hlast⟩
    obtain ⟨hw, ht⟩ := l.move_quiet m hm
    simp only [P, hw, ht]
    exact ⟨hpol, fun hh => hlast (l.heard_of_move m hh)⟩
  have hstep : ∀ l l' x, l.Advance x l' → P l → P l' := by
    rintro l l' x hx ⟨hpol, -⟩
    refine ⟨hx.turn.policy_eq ▸ hpol, ?_⟩
    intro hh hg
    have hne := hx.reply_ne_lost (hx.heard ▸ hh)
    rw [hx.tape, Tape.posted_concat, hx.turn.posted_of_gone hg hne hpol, Option.toList_some,
      List.getLast?_concat]
  subst hl
  exact (run_induction _ hstart hquiet hstep moves).2 hh hg

/-- A worker that does not reconnect has made one attempt when it is gone. -/
theorem posted_of_disabled (serial : Nat) (policy : ReconnectPolicy) (hp : policy.enabled = false)
    (moves : List Move) (l : Line) (hl : l = (start serial policy).run moves)
    (hh : l.link.heard = true) (hg : l.link.worker.isGone = true) :
    ∃ attempt : Attempt, Tape.posted l.tape = attempt.events 1 := by
  subst hl
  have hspoken := spoken_run serial policy moves
  have hword := ((stage_of_gone hg).1 hspoken.stage).2 hh
  rw [← hspoken.all hh, hspoken.policy, hp] at hword
  have hnone : ∀ a : Attempt, ¬ a.Again false := fun a ha => nomatch ha.1
  generalize Tape.posted ((start serial policy).run moves).tape = said at hword
  cases hword with
  | ended earlier last h =>
    obtain rfl : earlier = [] := List.eq_nil_iff_forall_not_mem.2 fun a ha => hnone a (h a ha)
    exact ⟨last, List.append_nil _⟩
  | stopped earlier last h hl => exact absurd hl (hnone last)

end Line

namespace Scene

/-- The clock does not pass the end of a wait while there are commands to be read. A wait without
length is over at once. -/
def Timely (k : Nat) (c : Scene) (a : Act) : Prop :=
  ∀ l ∈ c.line? k, 0 < l.link.worker.backoff.nanos → c.Heeds k a

instance (k : Nat) (c : Scene) (a : Act) : Decidable (c.Timely k a) :=
  inferInstanceAs (Decidable (∀ l ∈ c.line? k, _ → _))

/-- A request to close is there once a hook has been fired for a worker that is not gone. -/
theorem line?_fire (c : Scene) (h : ShutdownHook) (l : Link)
    (hl : c.session.connection.current = some l) (hs : h.serial = l.serial)
    (hg : l.worker.isGone = false) : (c.act (.fire h)).line? l.serial =
      some ⟨{ l with commands := l.commands ++ [.close] }, c.tape l.serial⟩ := by
  rw [c.line?_act (.fire h) _ (fun _ ha => (nomatch ha)), c.line?_attached l hl]
  simp [moves, hs, Line.run, Line.move, Link.give, hg]

end Scene

/-- Once a hook has been fired, its worker announces no attempt but the one that it is about to
announce, if its first delay is not zero and the clock passes the end of no wait while commands are
being read. When it is gone, and the session has listened to it until then, the last event it posted
is that it was closed on this side; if it does not reconnect, it has posted one attempt and its
end. -/
theorem shutdown_ends_attempts (initial longest : Duration) (enabled : Bool)
    (policy : ReconnectPolicy)
    (hp : policy = { ReconnectPolicy.withBackoff initial longest with enabled := enabled })
    (hpos : 0 < initial.nanos) (base : Instant) (maxRows : Nat) (before rest : List Act)
    (h : ShutdownHook) (c d : Scene) (hc : c = (Scene.start policy base maxRows).run before)
    (hd : d = (c.act (.fire h)).run rest) (l : Link)
    (hl : c.session.connection.current = some l) (hs : h.serial = l.serial)
    (hg : l.worker.isGone = false)
    (htime : Scene.Throughout (Scene.Timely l.serial) (c.act (.fire h)) rest) :
    ∃ m, d.line? l.serial = some m ∧
      Tape.announced m.tape ≤ Tape.announced (c.tape l.serial) + l.worker.announcing ∧
      (m.link.heard = true → m.link.worker.isGone = true →
        (enabled = true → (Tape.posted m.tape).getLast? = some (.closed .here)) ∧
        (enabled = false → ∃ attempt : Attempt, Tape.posted m.tape = attempt.events 1)) := by
  have hpositive : policy.Positive :=
    hp ▸ ReconnectPolicy.positive_withBackoff initial longest enabled hpos
  have henabled : policy.enabled = enabled := by rw [hp]
  have hlt := (hc ▸ Scene.sound_run policy base maxRows before).lt_started (c.line?_attached l hl)
  have hdoomed : Line.Doomed (Tape.announced (c.tape l.serial) + l.worker.announcing)
      ⟨{ l with commands := l.commands ++ [.close] }, c.tape l.serial⟩ := by
    obtain ⟨moves, hm⟩ :=
      Scene.exists_moves policy base maxRows before c hc _ _ (c.line?_attached l hl)
    obtain ⟨hpolicy, hbackoff⟩ := Line.backoff_pos _ policy hpositive moves _ hm
    exact ⟨.inl List.mem_concat_self, Nat.le_refl _, hpolicy, hbackoff⟩
  -- the bound goes with the line of the worker to the end of the run
  obtain ⟨m, hm, hbound⟩ := Scene.line_run_induction (Q := Scene.Timely l.serial)
    (fun _ mv hmv hdoom => hdoom.quiet mv hmv)
    (fun _ k _ _ hline htimely hx hdoom =>
      hdoom.advance hx ((htimely k hline hdoom.backoff).commands_eq_nil hline hx))
    (c.act (.fire h)) (Nat.lt_of_lt_of_le hlt (c.started_act _).1) rest htime _
    (c.line?_fire h l hl hs hg) hdoomed
  rw [← hd] at hm
  have hrun : d = (Scene.start policy base maxRows).run (before ++ Act.fire h :: rest) := by
    rw [Scene.run_append, Scene.run_cons, ← hc, hd]
  obtain ⟨moves, hline⟩ := Scene.exists_moves policy base maxRows _ d hrun _ m hm
  refine ⟨m, hm, Nat.le_of_add_right_le hbound.announced, ?_⟩
  intro hheard hgone
  constructor
  · intro he
    exact Line.last_posted _ policy (henabled.trans he) moves m hline hheard hgone
  · intro he
    exact Line.posted_of_disabled _ policy (henabled.trans he) moves m hline hheard hgone

/-- The hook is fired while a selector waits, and the selector is what the socket fails on. -/
theorem shutdown_ends_attempts_of_one :
    let policy := ReconnectPolicy.withBackoff (.ofMillis 500) (.ofMillis 500)
    let before : List Act := [.connect, .step 0 .done, .step 0 .opened, .step 0 .done, .takeHook,
      .drain none, .handle, .step 0 .nothing, .submit "a"]
    let rest : List Act := [.step 0 .nothing, .step 0 .nothing, .step 0 (.failed "reset"),
      .step 0 .done, .step 0 .done, .step 0 .done, .step 0 .nothing, .step 0 .done]
    let c := (Scene.start policy .epoch 10).run before
    let d := (c.act (.fire ⟨0⟩)).run rest
    0 < (Duration.ofMillis 500).nanos ∧
      Scene.Throughout (Scene.Timely 0) (c.act (.fire ⟨0⟩)) rest ∧
      (∃ l, c.session.connection.current = some l ∧ l.serial = 0 ∧ l.worker.isGone = false ∧
        l.worker.announcing = 0) ∧
      ∃ m, d.line? 0 = some m ∧ m.link.heard = true ∧ m.link.worker.isGone = true ∧
        Tape.announced m.tape ≤ 1 ∧ (Tape.posted m.tape).getLast? = some (.closed .here) := by
  intro policy before rest c d
  have hpos : 0 < (Duration.ofMillis 500).nanos := by decide
  have htime : Scene.Throughout (Scene.Timely 0) (c.act (.fire ⟨0⟩)) rest := by decide +kernel
  obtain ⟨l, hl⟩ := Option.isSome_iff_exists.1
    (show c.session.connection.current.isSome = true by decide +kernel)
  have hfacts : c.session.connection.current.map
      (fun l => (l.serial, l.worker.isGone, l.worker.announcing)) = some (0, false, 0) := by
    decide +kernel
  have hend : (d.line? 0).map (fun m => (m.link.heard, m.link.worker.isGone)) =
      some (true, true) := by decide +kernel
  have hone : Tape.announced (c.tape 0) = 1 := by decide +kernel
  simp only [hl, Option.map_some, Option.some.injEq, Prod.mk.injEq] at hfacts
  obtain ⟨hserial, hg, hannouncing⟩ := hfacts
  have htime' : Scene.Throughout (Scene.Timely l.serial) (c.act (.fire ⟨0⟩)) rest := by
    rwa [hserial]
  obtain ⟨m, hm, hle, hlast⟩ := shutdown_ends_attempts (.ofMillis 500) (.ofMillis 500) true policy
    rfl hpos .epoch 10 before rest ⟨0⟩ c d rfl rfl l hl hserial.symm hg htime'
  rw [hserial] at hm hle
  rw [hone, hannouncing] at hle
  simp only [hm, Option.map_some, Option.some.injEq, Prod.mk.injEq] at hend
  exact ⟨hpos, htime, ⟨l, hl, hserial, hg, hannouncing⟩, m, hm, hend.1, hend.2, hle,
    (hlast hend.1 hend.2).1 rfl⟩

/-- A wait without length is over before a request to close is read, so the worker goes on to its
next attempt. -/
theorem attempt_after_shutdown :
    ¬ ∀ (initial longest : Duration) (base : Instant) (maxRows : Nat) (before rest : List Act)
      (h : ShutdownHook) (l : Link) (c : Scene),
      c = (Scene.start (.withBackoff initial longest) base maxRows).run before →
      c.session.connection.current = some l → h.serial = l.serial → l.worker.isGone = false →
      Scene.Throughout (Scene.Timely l.serial) (c.act (.fire h)) rest →
      Tape.announced (((c.act (.fire h)).run rest).tape l.serial) ≤
        Tape.announced (c.tape l.serial) + l.worker.announcing := by
  intro h
  let before : List Act := [.connect, .step 0 .done, .takeHook]
  let rest : List Act := [.step 0 (.failed "no"), .step 0 .done, .step 0 .done, .step 0 .elapsed,
    .step 0 .done]
  let c := (Scene.start (.withBackoff (.ofMillis 0) (.ofMillis 0)) .epoch 10).run before
  obtain ⟨l, hl⟩ := Option.isSome_iff_exists.1
    (show c.session.connection.current.isSome = true by decide +kernel)
  have hfacts : c.session.connection.current.map
      (fun l => (l.serial, l.worker.isGone, l.worker.announcing)) = some (0, false, 0) := by
    decide +kernel
  simp only [hl, Option.map_some, Option.some.injEq, Prod.mk.injEq] at hfacts
  obtain ⟨hserial, hg, hannouncing⟩ := hfacts
  have htime : Scene.Throughout (Scene.Timely 0) (c.act (.fire ⟨0⟩)) rest := by decide +kernel
  have htime' : Scene.Throughout (Scene.Timely l.serial) (c.act (.fire ⟨0⟩)) rest := by
    rwa [hserial]
  have hle := h (.ofMillis 0) (.ofMillis 0) .epoch 10 before rest ⟨0⟩ l c rfl hl hserial.symm hg
    htime'
  rw [hserial, hannouncing] at hle
  revert hle
  decide +kernel

end LiveTail
