import LiveTail.Proofs.Ahead
/-! How often sockets are given the selector when nobody submits one. News of a socket that opened
is good for one selector, which goes to the socket that is current by then; so a socket can be given
as many as were owed when it opened, and one of its own. -/
namespace LiveTail

/-- How the sockets of a worker and what is owed to it can change: they stay, the latest socket is
given what was owed, or one more is owed to a new socket. -/
inductive Paid : List Socket → Nat → List Socket → Nat → Prop where
  | kept {sockets owed owed'} (h : owed' ≤ owed) : Paid sockets owed sockets owed'
  | given {s s' older owed owed'} (h : s'.given.length + owed' ≤ s.given.length + owed) :
      Paid (s :: older) owed (s' :: older) owed'
  | opened {sockets owed owed'} (h : owed' ≤ owed + 1) : Paid sockets owed ({} :: sockets) owed'

def givenCount (sockets : List Socket) : Nat := (sockets.flatMap Socket.given).length

@[simp] theorem givenCount_cons (s : Socket) (older : List Socket) :
    givenCount (s :: older) = s.given.length + givenCount older := by
  simp [givenCount]

/-- The sockets that opened first were given no more texts than they are many, even if the latest
one gets all that is owed. -/
structure Balanced (sockets : List Socket) (owed : Nat) : Prop where
  first : ∀ r, r <:+ sockets → givenCount r ≤ r.length
  all : givenCount sockets + owed ≤ sockets.length

theorem balanced_cons (s : Socket) (older : List Socket) (owed : Nat)
    (h : ∀ r, r <:+ older → givenCount r ≤ r.length)
    (hall : givenCount (s :: older) + owed ≤ (s :: older).length) : Balanced (s :: older) owed := by
  refine ⟨fun r hr => ?_, hall⟩
  rcases List.suffix_cons_iff.1 hr with rfl | hr
  · omega
  · exact h r hr

theorem Paid.balanced {S S' : List Socket} {n n' : Nat} (h : Paid S n S' n') (hb : Balanced S n) :
    Balanced S' n' := by
  have hall := hb.all
  cases h with
  | kept h => exact ⟨hb.first, by omega⟩
  | @given s s' older n n' h =>
    have holder : ∀ r, r <:+ older → givenCount r ≤ r.length :=
      fun r hr => hb.first r (hr.trans (List.suffix_cons _ _))
    refine balanced_cons s' older n' holder ?_
    simp only [givenCount_cons, List.length_cons] at hall ⊢
    omega
  | opened h =>
    have hempty : ({} : Socket).given.length = 0 := rfl
    refine balanced_cons {} S n' hb.first ?_
    simp only [givenCount_cons, List.length_cons, hempty]
    omega

/-- Of a socket that was opened after others: it was given at most so many texts, together with what
is owed if it is the latest one. -/
def Capped (bound : Nat) (earlier : List Socket) (sockets : List Socket) (owed : Nat) : Prop :=
  ∃ newer s, sockets = newer ++ s :: earlier ∧
    s.given.length + (if newer = [] then owed else 0) ≤ bound

theorem Paid.capped {S S' : List Socket} {n n' bound : Nat} {earlier : List Socket}
    (h : Paid S n S' n') (hc : Capped bound earlier S n) : Capped bound earlier S' n' := by
  obtain ⟨newer, s, hS, hle⟩ := hc
  cases h with
  | kept h =>
    -- what is owed counts only as long as the socket is the latest one
    refine ⟨newer, s, hS, ?_⟩
    by_cases hn : newer = []
    · simp only [hn, if_true] at hle ⊢
      omega
    · simpa only [hn, if_false] using hle
  | @given t t' older n n' h =>
    cases newer with
    | nil =>
      obtain ⟨rfl, rfl⟩ := List.cons_eq_cons.1 hS
      simp only [if_true] at hle
      exact ⟨[], t', rfl, by simp only [if_true]; omega⟩
    | cons u newer =>
      obtain ⟨rfl, rfl⟩ := List.cons_eq_cons.1 hS
      exact ⟨t' :: newer, s, rfl, by simpa using hle⟩
  | opened h =>
    refine ⟨{} :: newer, s, by rw [hS]; rfl, ?_⟩
    simp only [List.cons_ne_nil, if_false]
    omega

namespace Scene

/-- The selectors that the sockets of a worker may still be given: those that are queued, and one
for each socket that the session has still to hear of. -/
def owed (c : Scene) (k : Nat) (l : Line) : Nat :=
  l.queued.length + (c.ahead k l).count .opened

def owes (c : Scene) (k : Nat) : Nat := ((c.line? k).map (c.owed k)).getD 0

theorem count_opened_pos (events : List Event) (h : lastTransition events = some .opened) :
    0 < events.count .opened := by
  rw [List.count_pos_iff]
  exact (List.mem_filter.1 (List.mem_of_getLast? h)).1

/-- The session gives a selector only for an event that it handles. -/
theorem owed_quiet {c : Scene} {k : Nat} {a : Act} {l l' : Line} (hx : c.Quiet k a l l')
    (ha : ∀ q, a ≠ .submit q) : (c.act a).owed k l' ≤ c.owed k l := by
  have hcount := hx.sublist.count_le .opened
  rw [List.count_append] at hcount
  have hqueued := congrArg List.length hx.queued
  rw [List.length_append] at hqueued
  simp only [owed]
  split at hqueued
  · rename_i hk
    rw [c.offered_eq k a hk.1 ha] at hqueued
    split at hqueued
    · rename_i ht
      have hpos := count_opened_pos _ ht
      have hone : (c.session.lastQuery.toList.map selectorFrame).length ≤ 1 := by
        cases c.session.lastQuery <;> simp
      omega
    · simp only [Option.toList_none, List.map_nil, List.length_nil] at hqueued
      omega
  · rw [List.length_nil] at hqueued
    omega

/-- An exchange pays what it gives to a socket, and a socket that opens is owed one more. -/
theorem owed_advance {c : Scene} {k : Nat} {l l' : Line} {x : Exchange} (hx : l.Advance x l')
    (o : Reply) : x.given?.toList.length + (c.act (.step k o)).owed k l' ≤
      c.owed k l + x.news?.toList.count .opened := by
  have hcount := (c.ahead_advance k o l l' x hx).1.count_le .opened
  rw [List.count_append] at hcount
  have hqueued := hx.queued_sublist.length_le
  rw [List.length_append] at hqueued
  simp only [owed]
  omega

theorem paid_advance {c : Scene} {k : Nat} {l l' : Line} {x : Exchange} (hx : l.Advance x l')
    (o : Reply) : Paid (Tape.sockets l.tape) (c.owed k l) (Tape.sockets l'.tape)
      ((c.act (.step k o)).owed k l') := by
  have howed := owed_advance (c := c) (k := k) hx o
  rw [hx.sockets]
  by_cases hopen : x = ⟨.connect, .opened⟩
  · subst hopen
    exact .opened (by simpa [Exchange.given?, Exchange.news?] using howed)
  · have hnews : x.news?.toList.count .opened = 0 := by
      rw [List.count_eq_zero]
      intro hm
      exact hopen (x.eq_of_news_opened (Option.mem_toList.1 hm))
    cases hs : Tape.sockets l.tape with
    | nil =>
      rw [Tape.turnSockets_nil x hopen]
      exact .kept (by omega)
    | cons s older =>
      obtain ⟨s', hs', hlen, -, -⟩ := Tape.turnSockets_cons s older x hopen
      rw [hs']
      exact .given (by omega)

/-- Without submitted selectors every act changes the sockets of every worker in such a way. -/
theorem paid_act {c : Scene} (hc : c.Sound) (a : Act) (ha : ∀ q, a ≠ .submit q) (k : Nat) :
    Paid (Tape.sockets (c.tape k)) (c.owes k) (Tape.sockets ((c.act a).tape k))
      ((c.act a).owes k) := by
  by_cases hk : c.batch = none ∧ a = .connect ∧ k = c.session.connection.started
  · -- a worker that has just been started has no sockets and is owed nothing
    obtain ⟨hb, rfl, rfl⟩ := hk
    obtain ⟨hl, ht⟩ := hc.fresh _ (Nat.le_refl c.session.connection.started)
    rw [c.tape_act _ _ hl]
    have hl' := (c.act .connect).line?_attached _ (c.act_connect hb).1
    have hb' := (c.batch_act .connect (by simp) (by simp)).trans hb
    have hnew : (c.act .connect).owes c.session.connection.started = 0 := by
      rw [owes, show c.session.connection.started = (Link.start _ _).serial from rfl, hl']
      simp [owed, Line.queued, ahead, share, hb', Link.start, Worker.start, Worker.inHand,
        Worker.unposted]
    exact .kept (by omega)
  · have hne : c.batch = none → a = .connect → k ≠ c.session.connection.started :=
      fun hb ha hs => hk ⟨hb, ha, hs⟩
    cases hl' : (c.act a).line? k with
    | none =>
      have hl : c.line? k = none := by
        rwa [c.line?_act a k hne, Option.map_eq_none_iff] at hl'
      rw [c.tape_act a k hl]
      exact .kept (by simp [owes, hl'])
    | some l' =>
      obtain ⟨l, hl, hx⟩ := c.line_act_cases a k l' hne hl'
      have ht : c.tape k = l.tape := c.tape_of_line hl
      have ht' : (c.act a).tape k = l'.tape := (c.act a).tape_of_line hl'
      simp only [owes, hl, hl', Option.map_some, Option.getD_some, ht, ht']
      rcases hx with hx | ⟨⟨o, rfl⟩, x, hx⟩
      · rw [hx.tape]
        exact .kept (owed_quiet hx ha)
      · exact paid_advance hx o

theorem balanced_run (policy : ReconnectPolicy) (base : Instant) (maxRows : Nat) (acts : List Act)
    (h : ∀ q, .submit q ∉ acts) (k : Nat) :
    Balanced (Tape.sockets (((start policy base maxRows).run acts).tape k))
      (((start policy base maxRows).run acts).owes k) := by
  induction acts using List.reverseRecOn with
  | nil => exact ⟨fun r hr => by rw [List.suffix_nil.1 hr]; exact Nat.le_refl 0, Nat.le_refl 0⟩
  | append_singleton acts a ih =>
    have hparts : (∀ q, .submit q ∉ acts) ∧ ∀ q, a ≠ .submit q := by
      simpa [forall_and, eq_comm] using h
    rw [run_concat]
    exact (paid_act (sound_run policy base maxRows acts) a hparts.2 k).balanced (ih hparts.1)

theorem capped_run {c : Scene} (hc : c.Sound) (acts : List Act) (h : ∀ q, .submit q ∉ acts)
    (k : Nat) (bound : Nat) (earlier : List Socket)
    (hcap : Capped bound earlier (Tape.sockets (c.tape k)) (c.owes k)) :
    Capped bound earlier (Tape.sockets ((c.run acts).tape k)) ((c.run acts).owes k) := by
  induction acts generalizing c with
  | nil => exact hcap
  | cons a acts ih =>
    have hparts : (∀ q, a ≠ .submit q) ∧ ∀ q, .submit q ∉ acts := by
      simpa [forall_and, eq_comm] using h
    exact ih (hc.act a) hparts.2 ((paid_act hc a hparts.1 k).capped hcap)

/-- A socket that opens may get what is owed by then, and one of its own. -/
theorem capped_opened (c : Scene) (k : Nat) (l : Line) (hl : c.line? k = some l)
    (hp : l.link.worker.phase = .connecting) :
    Capped (c.owed k l + 1) (Tape.sockets l.tape)
      (Tape.sockets ((c.act (.step k .opened)).tape k)) ((c.act (.step k .opened)).owes k) := by
  have hx := l.advance_opened hp
  have hl' : (c.act (.step k .opened)).line? k = some (l.move (.step .opened)) := by
    rw [c.line?_act _ k (by simp), hl]
    simp [moves, Line.run]
  have howed := owed_advance (c := c) (k := k) hx .opened
  rw [tape_of_line _ hl', hx.sockets]
  refine ⟨[], {}, rfl, ?_⟩
  simpa [owes, hl', Socket.given, Exchange.given?, Exchange.news?] using howed

end Scene

/-- In a run in which no selector is submitted, the sockets of a worker that opened first were given
no more texts than they are many. A socket was given one text at most beyond those that were owed
when it opened, for sockets before it; so it was given one if nothing was owed. -/
theorem resends_bounded (policy : ReconnectPolicy) (base : Instant) (maxRows : Nat)
    (acts : List Act) (h : ∀ q, .submit q ∉ acts) (k : Nat) :
    (∀ r, r <:+ Tape.sockets (((Scene.start policy base maxRows).run acts).tape k) →
      (r.flatMap Socket.given).length ≤ r.length) ∧
    ∀ before after l, acts = before ++ .step k .opened :: after →
      ((Scene.start policy base maxRows).run before).line? k = some l →
      l.link.worker.phase = .connecting →
      ∃ newer s, Tape.sockets (((Scene.start policy base maxRows).run acts).tape k) =
          newer ++ s :: Tape.sockets l.tape ∧
        s.given.length ≤ ((Scene.start policy base maxRows).run before).owed k l + 1 := by
  refine ⟨(Scene.balanced_run policy base maxRows acts h k).first, ?_⟩
  rintro before after l rfl hl hp
  have hparts : (∀ q, .submit q ∉ before) ∧ ∀ q, .submit q ∉ after := by
    simpa [forall_and] using h
  have hsound := (Scene.sound_run policy base maxRows before).act (.step k .opened)
  have hrun : (Scene.start policy base maxRows).run (before ++ .step k .opened :: after) =
      (((Scene.start policy base maxRows).run before).act (.step k .opened)).run after := by
    simp [Scene.run]
  obtain ⟨newer, s, hs, hle⟩ := Scene.capped_run hsound after hparts.2 k _ _
    (Scene.capped_opened _ k l hl hp)
  rw [hrun]
  exact ⟨newer, s, hs, Nat.le_trans (Nat.le_add_right _ _) hle⟩

/-- A second socket opens before the session has handled the news of the first one. -/
theorem resends_bounded_of_two :
    let policy := ReconnectPolicy.withBackoff (.ofMillis 500) (.ofMillis 500)
    let before : List Act := [.queue "a", .connect, .step 0 .done, .step 0 .opened, .step 0 .done,
      .step 0 .nothing, .step 0 .ended, .step 0 .done, .step 0 .elapsed, .step 0 .done]
    let after : List Act := [.step 0 .done, .drain none, .handle, .step 0 .nothing, .step 0 .done]
    let c := (Scene.start policy .epoch 10).run before
    (∀ q, .submit q ∉ before ++ .step 0 .opened :: after) ∧
      ∃ l, c.line? 0 = some l ∧ l.link.worker.phase = .connecting ∧ c.owed 0 l = 1 ∧
        ∃ newer s, Tape.sockets
            (((Scene.start policy .epoch 10).run (before ++ .step 0 .opened :: after)).tape 0) =
            newer ++ s :: Tape.sockets l.tape ∧
          s.given.length ≤ 2 := by
  intro policy before after c
  have h : ∀ q, .submit q ∉ before ++ .step 0 .opened :: after := by
    simp [before, after]
  obtain ⟨l, hl⟩ := Option.isSome_iff_exists.1 (show (c.line? 0).isSome = true by decide +kernel)
  have hp : (c.line? 0).map (·.link.worker.phase) = some .connecting := by decide +kernel
  have ho : (c.line? 0).map (c.owed 0) = some 1 := by decide +kernel
  rw [hl, Option.map_some, Option.some_inj] at hp ho
  have hcap := (resends_bounded policy .epoch 10 _ h 0).2 before after l rfl hl hp
  rw [ho] at hcap
  exact ⟨h, l, hl, hp, ho, hcap⟩

/-- A socket that is replaced before the session has handled its news leaves a selector to the
socket after it, which then gets two if the news of the two come in different batches. -/
theorem socket_given_twice :
    ¬ ∀ (policy : ReconnectPolicy) (base : Instant) (maxRows : Nat) (acts : List Act),
      policy.enabled = true → (∀ q, .submit q ∉ acts) → ∀ k s q,
      s ∈ Tape.sockets (((Scene.start policy base maxRows).run acts).tape k) →
      s.given.count (selectorFrame q) ≤ 1 := by
  intro h
  let policy := ReconnectPolicy.withBackoff (.ofMillis 500) (.ofMillis 500)
  let acts : List Act := [.queue "a", .connect, .step 0 .done, .step 0 .opened, .step 0 .done,
    .step 0 .nothing, .step 0 .ended, .step 0 .done, .step 0 .elapsed, .step 0 .done,
    .step 0 .opened, .step 0 .done, .drain (some 2), .handle, .step 0 .nothing, .step 0 .done,
    .drain none, .handle, .step 0 .nothing, .step 0 .done]
  have hs : Tape.sockets (((Scene.start policy .epoch 10).run acts).tape 0) =
      [⟨[selectorFrame "a", selectorFrame "a"], none⟩, {}] := by
    decide +kernel
  have htwo := h policy .epoch 10 acts rfl (by simp [acts]) 0 _ "a" (hs ▸ List.mem_cons_self)
  simp [Socket.given] at htwo

end LiveTail
