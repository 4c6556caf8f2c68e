import LiveTail.Proofs.Ahead
import Mathlib.Data.List.Basic
/-! The workers of a run, taken one by one: each goes the way of a single line, whatever its session
and the other workers do. What all moves of a line keep is kept of every worker. -/
namespace LiveTail

namespace Line

/-- Of a move that is no exchange the worker and its tape know nothing. -/
theorem run_induction {P : Line → Prop} (l : Line) (start : P l)
    (quiet : ∀ l m, (∀ o, m ≠ .step o) → P l → P (l.move m))
    (step : ∀ l l' x, l.Advance x l' → P l → P l') (moves : List Move) : P (l.run moves) := by
  induction moves using List.reverseRecOn with
  | nil => exact start
  | append_singleton moves m ih =>
    rw [run_concat]
    by_cases hm : ∃ o, m = .step o
    · obtain ⟨o, rfl⟩ := hm
      rcases (l.run moves).step_cases o with hsame | ⟨x, hx⟩
      · rwa [hsame]
      · exact step _ _ x hx ih
    · exact quiet _ m (fun o ho => hm ⟨o, ho⟩) ih

/-- Each exchange on the tape was made by the worker as it was when the tape ended before it. -/
theorem exists_advance (serial : Nat) (policy : ReconnectPolicy) (moves : List Move)
    (before after : Tape) (x : Exchange)
    (h : ((start serial policy).run moves).tape = before ++ x :: after) :
    ∃ earlier l', ((start serial policy).run earlier).tape = before ∧
      ((start serial policy).run earlier).Advance x l' := by
  induction moves using List.reverseRecOn generalizing after with
  | nil => simp [start, run] at h
  | append_singleton moves m ih =>
    rw [run_concat] at h
    by_cases hm : ∃ o, m = .step o
    · obtain ⟨o, rfl⟩ := hm
      rcases step_cases ((start serial policy).run moves) o with hsame | ⟨y, hy⟩
      · rw [hsame] at h
        exact ih after h
      · rw [hy.tape] at h
        rcases List.eq_nil_or_concat' after with rfl | ⟨after, z, rfl⟩
        · obtain ⟨htape, hxy⟩ := List.append_inj' h rfl
          obtain rfl : y = x := List.singleton_injective hxy
          exact ⟨moves, _, htape, hy⟩
        · rw [← List.cons_append, ← List.append_assoc] at h
          exact ih after (List.append_inj' h rfl).1
    · rw [(move_quiet _ m fun o ho => hm ⟨o, ho⟩).2] at h
      exact ih after h

theorem heard_of_run (l : Line) (moves : List Move) (h : (l.run moves).link.heard = true) :
    l.link.heard = true := by
  induction moves using List.reverseRecOn with
  | nil => exact h
  | append_singleton moves m ih =>
    rw [run_concat] at h
    exact ih (heard_of_move _ m h)

end Line

namespace Scene

theorem moves_cases (c : Scene) (k : Nat) (a : Act) :
    c.moves k a = [] ∨ (∃ o, a = .step k o ∧ c.moves k a = [.step o]) ∨
      ∃ m, (∀ o, m ≠ .step o) ∧ c.moves k a = [m] := by
  cases a with
  | step j o =>
    by_cases hj : j = k
    · exact .inr (.inl ⟨o, by rw [hj], by simp [moves, hj]⟩)
    · exact .inl (by simp [moves, hj])
  | submit q =>
    cases ho : c.offered (.submit q) <;> by_cases ha : c.attached = some k <;>
      simp [moves, ho, ha]
  | handle =>
    cases ho : c.offered .handle <;> by_cases ha : c.attached = some k <;> simp [moves, ho, ha]
  | queue q => exact .inl (by simp [moves, offered])
  | connect | close | takeHook | drain | fire | dropHook =>
    simp only [moves]
    split <;> simp

theorem run_cons (c : Scene) (a : Act) (acts : List Act) : c.run (a :: acts) = (c.act a).run acts :=
  rfl

theorem run_append (c : Scene) (acts acts' : List Act) :
    c.run (acts ++ acts') = (c.run acts).run acts' := List.foldl_append

theorem started_run (c : Scene) (acts : List Act) :
    c.session.connection.started ≤ (c.run acts).session.connection.started := by
  induction acts generalizing c with
  | nil => exact Nat.le_refl _
  | cons a r ih => exact Nat.le_trans (c.started_act a).1 (ih (c.act a))

/-- What is true of each act of a run and the scene that it happens in. -/
def Throughout (Q : Scene → Act → Prop) (c : Scene) (acts : List Act) : Prop :=
  ∀ before a after, acts = before ++ a :: after → Q (c.run before) a

theorem throughout_iff (Q : Scene → Act → Prop) (c : Scene) (acts : List Act) :
    Throughout Q c acts ↔ ∀ i, (h : i < acts.length) → Q (c.run (acts.take i)) acts[i] := by
  constructor
  · intro h i hi
    apply h _ _ (acts.drop (i + 1))
    rw [← List.drop_eq_getElem_cons hi, List.take_append_drop]
  · rintro h before a after rfl
    have hi := h before.length (by simp)
    simpa using hi

instance (Q : Scene → Act → Prop) [∀ c a, Decidable (Q c a)] (c : Scene) (acts : List Act) :
    Decidable (Throughout Q c acts) := decidable_of_iff' _ (throughout_iff Q c acts)

theorem Throughout.tail {Q : Scene → Act → Prop} {c : Scene} {a : Act} {acts : List Act}
    (h : Throughout Q c (a :: acts)) : Throughout Q (c.act a) acts := by
  rintro before b after rfl
  exact h (a :: before) b after rfl

/-- What holds of a line and is kept by all that can happen to it. A step of the worker may be known
to happen in certain scenes only. -/
theorem line_run_induction {P : Line → Prop} {Q : Scene → Act → Prop} {k : Nat}
    (quiet : ∀ l m, (∀ o, m ≠ .step o) → P l → P (l.move m))
    (step : ∀ c l o x, c.line? k = some l → Q c (.step k o) → l.Advance x (l.move (.step o)) →
      P l → P (l.move (.step o))) (c : Scene) (hk : k < c.session.connection.started)
    (acts : List Act) (h : Throughout Q c acts) (l : Line) (hl : c.line? k = some l) (hp : P l) :
    ∃ l', (c.run acts).line? k = some l' ∧ P l' := by
  induction acts generalizing c l with
  | nil => exact ⟨l, hl, hp⟩
  | cons a r ih =>
    have hnew : c.batch = none → a = .connect → k ≠ c.session.connection.started :=
      fun _ _ => Nat.ne_of_lt hk
    have hl' : (c.act a).line? k = some (l.run (c.moves k a)) := by
      rw [c.line?_act a k hnew, hl]
      rfl
    refine ih (c.act a) (Nat.lt_of_lt_of_le hk (c.started_act a).1) h.tail _ hl' ?_
    rcases c.moves_cases k a with hm | ⟨o, rfl, hm⟩ | ⟨m, hne, hm⟩
    · rw [hm]
      exact hp
    · rw [hm]
      change P (l.move (.step o))
      rcases l.step_cases o with hsame | ⟨x, hx⟩
      · rwa [hsame]
      · exact step c l o x hl (h [] _ r rfl) hx hp
    · rw [hm]
      exact quiet l m hne hp

theorem policy_act (c : Scene) (a : Act) :
    (c.act a).session.connection.policy = c.session.connection.policy := by
  cases a with
  | connect | close =>
    simp only [act, call]
    split
    · rfl
    · simp only [Session.connect, Session.close, Connection.connect, Connection.close,
        Connection.detach]
      cases c.session.connection.current <;> rfl
  | submit q =>
    simp only [act, call]
    split
    · rfl
    · rw [Session.submit_connection]
      cases (if c.session.connection.state = .connected then some q else none) <;> rfl
  | queue q =>
    simp only [act, call]
    split <;> rfl
  | takeHook =>
    simp only [act, call]
    split
    · rfl
    · cases hc : c.session.connection.current <;> simp [Connection.hook, hc]
  | drain budget =>
    simp only [act]
    cases hc : c.session.connection.current <;> split <;> simp [change, Connection.drain, hc]
  | handle =>
    simp only [act]
    split
    · rw [Session.handleEvents_session]
      simp only
      split <;> cases c.session.lastQuery <;> rfl
    · rfl
  | fire | dropHook | step => rfl

theorem Sound.line?_connect {c : Scene} (hc : c.Sound) (hb : c.batch = none) :
    (c.act .connect).line? c.session.connection.started =
      some (.start c.session.connection.started c.session.connection.policy) := by
  obtain ⟨hnone, ht⟩ := hc.fresh _ (Nat.le_refl c.session.connection.started)
  have hl := (c.act .connect).line?_attached _ (c.act_connect hb).1
  simp only [Link.start] at hl
  rw [hl, c.tape_act _ _ hnone, ht]
  rfl

theorem Sound.lt_started {c : Scene} (hc : c.Sound) {k : Nat} {l : Line}
    (hl : c.line? k = some l) : k < c.session.connection.started := by
  by_contra hge
  rw [(hc.fresh k (Nat.not_lt.1 hge)).1] at hl
  cases hl

/-- Every worker that a run has started is a line of its own, from its start on. -/
theorem line_run (policy : ReconnectPolicy) (base : Instant) (maxRows : Nat) (acts : List Act)
    (c : Scene) (hc : c = (start policy base maxRows).run acts) :
    c.session.connection.policy = policy ∧ ∀ k < c.session.connection.started,
      ∃ moves, c.line? k = some ((Line.start k policy).run moves) := by
  subst hc
  refine kept_run (P := fun c => c.session.connection.policy = policy ∧
    ∀ k < c.session.connection.started,
      ∃ moves, c.line? k = some ((Line.start k policy).run moves)) ?_ ?_ acts
  · exact ⟨rfl, fun k hk => absurd hk (Nat.not_lt_zero k)⟩
  · rintro c hsound ⟨hp, hlines⟩ a
    refine ⟨(c.policy_act a).trans hp, ?_⟩
    intro k hk
    by_cases hold : k < c.session.connection.started
    · obtain ⟨moves, hl⟩ := hlines k hold
      refine ⟨moves ++ c.moves k a, ?_⟩
      rw [c.line?_act a k (fun _ _ => Nat.ne_of_lt hold), hl, Option.map_some]
      simp [Line.run]
    · -- the number of workers has grown, so this one has just been started
      have hr : c.reattaches a := by
        by_contra hr
        rw [(c.attached_act a hr).2.1] at hk
        exact hold hk
      rcases hr with ⟨hb, rfl | rfl⟩
      · rw [(c.act_connect hb).2.1] at hk
        obtain rfl : k = c.session.connection.started := by omega
        exact ⟨[], by rw [hsound.line?_connect hb, hp]; rfl⟩
      · rw [(c.act_close hb).2.1] at hk
        exact absurd hk hold

theorem exists_moves (policy : ReconnectPolicy) (base : Instant) (maxRows : Nat) (acts : List Act)
    (c : Scene) (hc : c = (start policy base maxRows).run acts) (k : Nat) (l : Line)
    (hl : c.line? k = some l) : ∃ moves, l = (Line.start k policy).run moves := by
  have hlt := (hc ▸ sound_run policy base maxRows acts).lt_started hl
  obtain ⟨moves, hm⟩ := (line_run policy base maxRows acts c hc).2 k hlt
  rw [hl] at hm
  exact ⟨moves, Option.some.inj hm⟩

end Scene

end LiveTail
