import LiveTail.Proofs.Lineage
/-! Scenes without the workers of the past. Once the session has let go of a worker, what that
worker does and what is done to it can be left out of the scene: the others go on as if it had
never been. -/
namespace LiveTail

/-- The worker that an act on the outside of the session is about. -/
def Act.worker? : Act → Option Nat
  | .fire h | .dropHook h => some h.serial
  | .step k _ => some k
  | _ => none

/-- Whether an act is left if the workers before a number are left out. -/
def Act.isSince (n : Nat) (a : Act) : Bool := a.worker?.all (n ≤ ·)

namespace Connection

/-- A connection without the workers before a number. -/
def since (c : Connection) (n : Nat) : Connection :=
  { c with former := c.former.filter (fun l => n ≤ l.serial) }

theorem since_detach (c : Connection) (n : Nat) (h : ∀ l, c.current = some l → n ≤ l.serial) :
    (c.since n).detach = c.detach.since n := by
  cases hc : c.current with
  | none => simp [detach, since, hc]
  | some l => simp [detach, since, hc, h l hc]

theorem since_offer (c : Connection) (n : Nat) (q : Option String) :
    (c.since n).offer q = (c.offer q).since n := by
  cases q <;> rfl

theorem since_sendQuery (c : Connection) (n : Nat) (q : String) :
    (c.since n).sendQuery q = ((c.sendQuery q).1, (c.sendQuery q).2.since n) := by
  by_cases hs : c.state = .connected
  · cases hc : c.current with
    | none => simp [sendQuery, since, hs, hc]
    | some l => simp [sendQuery, since, give, hs, hc]
  · simp [sendQuery, since, hs]

theorem since_modify (c : Connection) (n j : Nat) (f : Link → Link)
    (hf : ∀ l, (f l).serial = l.serial) : (c.since n).modify j f = (c.modify j f).since n := by
  have hkeep : ((fun l : Link => decide (n ≤ l.serial)) ∘ fun l =>
      if l.serial = j then f l else l) = fun l => decide (n ≤ l.serial) := by
    funext l
    by_cases hl : l.serial = j <;> simp [hl, hf]
  simp only [modify, since, List.filter_map, hkeep]

theorem modify_of_absent (c : Connection) (j : Nat) (f : Link → Link)
    (h : ∀ l ∈ c.current.toList ++ c.former, l.serial ≠ j) : c.modify j f = c := by
  obtain ⟨policy, state, current, former, started⟩ := c
  have hformer : former.map (fun l => if l.serial = j then f l else l) = former := by
    refine (List.map_congr_left ?_).trans (List.map_id _)
    intro l hl
    simp [h l (List.mem_append_right _ hl)]
  cases current with
  | none => simp [modify, hformer]
  | some l => simp [modify, hformer, h l (List.mem_append_left _ (by simp))]

theorem modify_since (c : Connection) (n j : Nat) (f : Link → Link)
    (hf : ∀ l, (f l).serial = l.serial) (hj : j < n)
    (h : ∀ l, c.current = some l → n ≤ l.serial) : (c.modify j f).since n = c.since n := by
  rw [← since_modify c n j f hf]
  apply modify_of_absent
  intro l hl
  have hle : n ≤ l.serial := by
    rcases List.mem_append.1 hl with hl | hl
    · exact h l (Option.mem_toList.1 hl)
    · simpa using (List.mem_filter.1 hl).2
  omega

theorem since_link? (c : Connection) (n k : Nat) (h : n ≤ k) :
    (c.since n).link? k = c.link? k := by
  have hp : (fun l : Link => decide (decide (n ≤ l.serial) = true ∧ (l.serial == k) = true)) =
      fun l => l.serial == k := by
    funext l
    by_cases hl : l.serial = k <;> simp [hl, h]
  simp only [link?, since, List.find?_append, List.find?_filter, hp]

end Connection

namespace Session

def since (s : Session) (n : Nat) : Session := { s with connection := s.connection.since n }

theorem since_handleEvents (s : Session) (n : Nat) (events : List Event) :
    ((s.since n).handleEvents events).2 = (s.handleEvents events).2.since n := by
  simp only [handleEvents_session, since]
  rw [← Connection.since_offer]
  rfl

theorem since_submit (s : Session) (n : Nat) (q : String) :
    ((s.since n).submit q).2 = (s.submit q).2.since n := by
  simp only [submit, since, Connection.since_sendQuery]
  rcases s.connection.sendQuery q with ⟨f | u, c⟩ <;> rfl

end Session

namespace Scene

/-- A scene without the workers before a number. -/
def since (c : Scene) (n : Nat) : Scene :=
  ⟨c.session.since n, c.batch, fun k => if n ≤ k then c.tape k else []⟩

/-- A scene whose attached worker has no other workers beside it. -/
def alone (c : Scene) : Scene :=
  { session := { c.session with connection := { c.session.connection with former := [] } }
    batch := c.batch
    tape := fun _ => [] }

theorem since_call (c : Scene) (n : Nat) (f : Session → Session)
    (h : f (c.session.since n) = (f c.session).since n) :
    (c.call f).since n = (c.since n).call f := by
  cases hb : c.batch <;> simp [call, since, hb, h]

theorem since_change (c : Scene) (n : Nat) (f : Connection → Connection)
    (h : f (c.session.connection.since n) = (f c.session.connection).since n) :
    (c.change f).since n = (c.since n).change f := by
  simp [change, since, Session.since, h]

/-- Acts on workers that are left are the same without the others. -/
theorem since_act (c : Scene) (n : Nat) (a : Act) (ha : a.isSince n = true)
    (h : ∀ l, c.session.connection.current = some l → n ≤ l.serial) :
    (c.act a).since n = (c.since n).act a := by
  have hdetach := c.session.connection.since_detach n h
  cases a with
  | connect =>
    refine c.since_call n _ ?_
    simp only [Session.connect, Session.since, Connection.connect, hdetach]
    rfl
  | close =>
    refine c.since_call n _ ?_
    simp only [Session.close, Session.since, Connection.close, hdetach]
    rfl
  | submit q =>
    exact c.since_call n (fun s => (s.submit q).2) (c.session.since_submit n q)
  | queue q => exact c.since_call n _ rfl
  | takeHook =>
    refine c.since_call n _ ?_
    cases hc : c.session.connection.current <;>
      simp [Session.since, Connection.since, Connection.hook, hc]
  | drain budget =>
    cases hb : c.batch with
    | some events => simp [act, since, hb]
    | none =>
      cases hc : c.session.connection.current <;>
        simp [act, since, hb, change, Session.since, Connection.since, Connection.drain, hc]
  | handle =>
    cases hb : c.batch with
    | none => simp [act, since, hb]
    | some events => simp [act, since, hb, Session.since_handleEvents]
  | fire hook =>
    exact c.since_change n _ (c.session.connection.since_modify n _ _ (fun l => l.give_serial _))
  | dropHook hook =>
    exact c.since_change n _ (c.session.connection.since_modify n _ _ (fun _ => rfl))
  | step j o =>
    have hj : n ≤ j := by simpa [Act.isSince, Act.worker?] using ha
    -- the step is a change of the connection and one more exchange on the tape of its worker
    have hc := c.since_change n (·.step j o)
      (c.session.connection.since_modify n j _ (fun l => l.step_serial o))
    have ht : (fun k => if n ≤ k then c.extend j o k else []) = (c.since n).extend j o := by
      funext k
      by_cases hk : n ≤ k
      · simp [extend, since, hk, Session.since, Connection.since_link?]
      · have hne : k ≠ j := by omega
        simp [extend, since, hk, hne]
    change { (c.change (·.step j o)).since n with
        tape := fun k => if n ≤ k then c.extend j o k else [] } = (c.since n).act (.step j o)
    rw [hc, ht]
    rfl

/-- Acts on the other workers do nothing to what is left. -/
theorem act_since (c : Scene) (n : Nat) (a : Act) (ha : a.isSince n = false)
    (h : ∀ l, c.session.connection.current = some l → n ≤ l.serial) :
    (c.act a).since n = c.since n := by
  have hmodify (j : Nat) (f : Link → Link) (hf : ∀ l, (f l).serial = l.serial) (hj : j < n) :
      (c.change (·.modify j f)).since n = c.since n := by
    simp [change, since, Session.since, c.session.connection.modify_since n j f hf hj h]
  cases a with
  | fire hook =>
    have hj : hook.serial < n := by simpa [Act.isSince, Act.worker?] using ha
    exact hmodify _ _ (fun l => l.give_serial _) hj
  | dropHook hook =>
    have hj : hook.serial < n := by simpa [Act.isSince, Act.worker?] using ha
    exact hmodify _ _ (fun _ => rfl) hj
  | step j o =>
    have hj : j < n := by simpa [Act.isSince, Act.worker?] using ha
    -- only a tape that is left out grows
    have hc : (c.change (·.step j o)).since n = c.since n :=
      hmodify j _ (fun l => l.step_serial o) hj
    have ht : (fun k => if n ≤ k then c.extend j o k else []) =
        fun k => if n ≤ k then c.tape k else [] := by
      funext k
      by_cases hk : n ≤ k
      · have hne : k ≠ j := by omega
        simp [extend, hk, hne]
      · simp [hk]
    change { (c.change (·.step j o)).since n with
        tape := fun k => if n ≤ k then c.extend j o k else [] } = c.since n
    rw [hc, ht]
    rfl
  | _ => simp [Act.isSince, Act.worker?] at ha

/-- The attached worker has one of the numbers from `n` on, and so has every later one. -/
structure Beyond (n : Nat) (c : Scene) : Prop where
  attached : ∀ l, c.session.connection.current = some l → n ≤ l.serial
  started : n ≤ c.session.connection.started

theorem Beyond.act {n : Nat} {c : Scene} (h : Beyond n c) (a : Act) : Beyond n (c.act a) := by
  refine ⟨?_, Nat.le_trans h.started (c.started_act a).1⟩
  intro l' hl'
  rcases c.attached_act_cases a l' hl' with ⟨-, -, rfl⟩ | ⟨-, -, l, hl, hs, -⟩
  · exact h.started
  · exact hs ▸ h.attached l hl

theorem Beyond.run {n : Nat} {c : Scene} (h : Beyond n c) (acts : List Act) :
    Beyond n (c.run acts) := by
  induction acts generalizing c with
  | nil => exact h
  | cons a r ih => exact ih (h.act a)

/-- A run goes on among the workers that are left as if only they and the session acted. -/
theorem since_run {n : Nat} {c : Scene} (h : Beyond n c) (acts : List Act) :
    (c.run acts).since n = (c.since n).run (acts.filter (Act.isSince n)) := by
  induction acts generalizing c with
  | nil => rfl
  | cons a r ih =>
    refine (ih (h.act a)).trans ?_
    cases ha : a.isSince n with
    | true =>
      rw [c.since_act n a ha h.attached, List.filter_cons_of_pos ha]
      rfl
    | false => rw [c.act_since n a ha h.attached, List.filter_cons_of_neg (by simp [ha])]

theorem Sound.serial_lt {c : Scene} (hc : c.Sound) (l : Link)
    (hl : l ∈ c.session.connection.current.toList ++ c.session.connection.former) :
    l.serial < c.session.connection.started := by
  by_contra hge
  have hnone := (hc.fresh l.serial (Nat.le_of_not_lt hge)).1
  rw [line?, Option.map_eq_none_iff] at hnone
  have hne := List.find?_eq_none.1 hnone l hl
  simp at hne

/-- When the session takes on a new worker or does without one, all workers so far are of the
past. -/
theorem Sound.since_reattached {c : Scene} (hc : c.Sound) (a : Act) (ha : c.reattaches a) :
    Beyond c.session.connection.started (c.act a) ∧
      (c.act a).since c.session.connection.started = (c.act a).alone := by
  have hformer : (c.act a).session.connection.former =
      (c.session.connection.current.map Link.detach).toList ++ c.session.connection.former := by
    rcases ha with ⟨hb, rfl | rfl⟩
    · exact (c.act_connect hb).2.2
    · exact (c.act_close hb).2.2
  have hpast : ∀ l ∈ (c.act a).session.connection.former,
      l.serial < c.session.connection.started := by
    rw [hformer]
    intro l hl
    rcases List.mem_append.1 hl with hl | hl
    · obtain ⟨m, hm, rfl⟩ := Option.map_eq_some_iff.1 (Option.mem_toList.1 hl)
      rw [Link.detach_serial]
      exact hc.serial_lt m (by simp [hm])
    · exact hc.serial_lt l (List.mem_append_right _ hl)
  constructor
  · -- if there is an attached worker at all, it has just got the next number
    refine ⟨?_, (c.started_act a).1⟩
    intro l hl
    rcases ha with ⟨hb, rfl | rfl⟩
    · rw [(c.act_connect hb).1] at hl
      obtain rfl := Option.some.inj hl
      exact Nat.le_refl _
    · rw [(c.act_close hb).1] at hl
      cases hl
  · have hnone : (c.act a).session.connection.former.filter
        (fun l => c.session.connection.started ≤ l.serial) = [] := by
      rw [List.filter_eq_nil_iff]
      intro l hl
      have hlt := hpast l hl
      simpa using hlt
    have htape : (fun k => if c.session.connection.started ≤ k then (c.act a).tape k else []) =
        fun _ => [] := by
      funext k
      by_cases hk : c.session.connection.started ≤ k
      · obtain ⟨hl, ht⟩ := hc.fresh k hk
        simp [hk, c.tape_act a k hl, ht]
      · simp [hk]
    simp only [since, alone, Session.since, Connection.since, hnone, htape]

/-- Only the attached worker is heard. -/
def HeardIfAttached (c : Scene) : Prop :=
  ∀ k l, c.line? k = some l → l.link.heard = true → c.attached = some k

theorem HeardIfAttached.act {c : Scene} (h : c.HeardIfAttached) (a : Act) :
    (c.act a).HeardIfAttached := by
  intro k l' hl' hh
  by_cases hnew : c.batch = none ∧ a = .connect ∧ k = c.session.connection.started
  · obtain ⟨hb, rfl, rfl⟩ := hnew
    rw [attached, (c.act_connect hb).1]
    rfl
  · have hne : c.batch = none → a = .connect → k ≠ c.session.connection.started :=
      fun hb ha hk => hnew ⟨hb, ha, hk⟩
    rw [c.line?_act a k hne] at hl'
    obtain ⟨l, hl, rfl⟩ := Option.map_eq_some_iff.1 hl'
    have hk := h k l hl (l.heard_of_run _ hh)
    by_cases hr : c.reattaches a
    · -- the worker has just been let go
      have hmoves : c.moves k a = [.detach] := by
        rcases hr with ⟨hb, rfl | rfl⟩ <;> simp [moves, hb, hk]
      rw [hmoves] at hh
      cases hh
    · rw [(c.attached_act a hr).1, hk]

theorem heardIfAttached_run (policy : ReconnectPolicy) (base : Instant) (maxRows : Nat)
    (acts : List Act) : ((start policy base maxRows).run acts).HeardIfAttached := by
  apply kept_run
  · intro k l hl
    cases hl
  · intro c _ h a
    exact h.act a

end Scene

end LiveTail
