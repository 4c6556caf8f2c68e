import LiveTail.Proofs.Scene
import Mathlib.Data.List.Induction
/-! What lies ahead of the session: the events of a worker that it has still to handle, be they
taken out, queued or not yet posted. An act either lets the worker make an exchange, or it hands
events on and queues a selector. -/
namespace LiveTail

theorem Connection.drain_append (c : Connection) (budget : Option Nat) (l : Link)
    (h : c.current = some l) :
    (c.drain budget).1 ++ l.events.drop (c.drain budget).1.length = l.events := by
  simp only [drain, h]
  exact List.prefix_iff_eq_append.1 (List.take_prefix _ _)

namespace Scene

def reattaches (c : Scene) (a : Act) : Prop := c.batch = none ∧ (a = .connect ∨ a = .close)

theorem attached_act (c : Scene) (a : Act) (h : ¬ c.reattaches a) :
    (c.act a).attached = c.attached ∧
      (c.act a).session.connection.started = c.session.connection.started ∧
      (c.act a).session.connection.former.length = c.session.connection.former.length := by
  cases a with
  | connect | close =>
    cases hb : c.batch with
    | none => simp [reattaches, hb] at h
    | some events => simp [act, call, hb]
  | submit q =>
    simp only [act, call]
    split
    · exact ⟨rfl, rfl, rfl⟩
    · simp [attached, Session.submit_connection, Connection.offer_serial, Connection.offer_started]
  | queue q =>
    simp only [act, call]
    split <;> exact ⟨rfl, rfl, rfl⟩
  | takeHook =>
    simp only [act, call]
    split
    · exact ⟨rfl, rfl, rfl⟩
    · cases hc : c.session.connection.current <;> simp [attached, Connection.hook, hc]
  | drain budget =>
    simp only [act]
    cases hc : c.session.connection.current <;> split <;>
      simp [change, attached, Connection.drain, hc]
  | handle =>
    simp only [act]
    split
    · simp [attached, Session.handleEvents_session, Connection.offer_serial,
        Connection.offer_started]
    · exact ⟨rfl, rfl, rfl⟩
  | fire hook =>
    exact ⟨Connection.modify_serial _ _ _ fun l => l.give_serial _, rfl, List.length_map _⟩
  | dropHook hook => exact ⟨Connection.modify_serial _ _ _ fun l => rfl, rfl, List.length_map _⟩
  | step k o =>
    exact ⟨Connection.modify_serial _ _ _ fun l => l.step_serial o, rfl, List.length_map _⟩

theorem act_connect (c : Scene) (h : c.batch = none) :
    (c.act .connect).session.connection.current =
        some (.start c.session.connection.started c.session.connection.policy) ∧
      (c.act .connect).session.connection.started = c.session.connection.started + 1 ∧
      (c.act .connect).session.connection.former =
        (c.session.connection.current.map Link.detach).toList ++ c.session.connection.former := by
  simp only [act, call, h, Option.isSome_none, Bool.false_eq_true, if_false, Session.connect,
    Connection.connect, Connection.detach]
  cases c.session.connection.current <;> exact ⟨rfl, rfl, rfl⟩

theorem act_close (c : Scene) (h : c.batch = none) :
    (c.act .close).session.connection.current = none ∧
      (c.act .close).session.connection.started = c.session.connection.started ∧
      (c.act .close).session.connection.former =
        (c.session.connection.current.map Link.detach).toList ++ c.session.connection.former := by
  simp only [act, call, h, Option.isSome_none, Bool.false_eq_true, if_false, Session.close,
    Connection.close, Connection.detach]
  cases hc : c.session.connection.current <;> simp [hc]

theorem line?_attached (c : Scene) (l : Link) (h : c.session.connection.current = some l) :
    c.line? l.serial = some ⟨l, c.tape l.serial⟩ := by
  simp [line?, c.session.connection.link?_attached l h]

/-- The part of the batch that comes from a worker. -/
def share (c : Scene) (k : Nat) : List Event :=
  if c.attached = some k then c.batch.getD [] else []

/-- The events of a worker that the session has still to handle, those included that the worker has
still to post. -/
def ahead (c : Scene) (k : Nat) (l : Line) : List Event :=
  c.share k ++ (l.link.events ++ l.link.worker.unposted)

def handled (c : Scene) (k : Nat) : Act → List Event
  | .handle => c.share k
  | _ => []

/-- Apart from new selectors of the user, a selector is given only after news of a socket. -/
theorem offered_eq (c : Scene) (k : Nat) (a : Act) (hk : c.attached = some k)
    (ha : ∀ q, a ≠ .submit q) : c.offered a =
      if lastTransition (c.handled k a) = some .opened then c.session.lastQuery else none := by
  cases a with
  | submit q => exact absurd rfl (ha q)
  | handle => cases hb : c.batch <;> simp [offered, handled, share, hk, hb]
  | _ => rfl

/-- What an act does to the line of a worker that makes no exchange in it. Events get lost only if
the worker is let go. -/
structure Quiet (c : Scene) (k : Nat) (a : Act) (l l' : Line) : Prop where
  worker : l'.link.worker = l.link.worker
  tape : l'.tape = l.tape
  sublist : (c.handled k a ++ (c.act a).ahead k l').Sublist (c.ahead k l)
  ahead : ¬ c.reattaches a → c.handled k a ++ (c.act a).ahead k l' = c.ahead k l
  heard : ¬ c.reattaches a → l'.link.heard = l.link.heard
  queued : l'.queued = l.queued ++
    if c.attached = some k ∧ l.link.worker.isGone = false then
      (c.offered a).toList.map selectorFrame
    else []

theorem quiet_of_events (c : Scene) (k : Nat) (a : Act) (l l' : Line)
    (hw : l'.link.worker = l.link.worker ∧ l'.tape = l.tape)
    (he : l'.link.events = l.link.events ∧ l'.link.heard = l.link.heard)
    (hs : c.handled k a ++ (c.act a).share k = c.share k)
    (hq : l'.queued = l.queued ++
      if c.attached = some k ∧ l.link.worker.isGone = false then
        (c.offered a).toList.map selectorFrame
      else []) : c.Quiet k a l l' := by
  have hall : c.handled k a ++ (c.act a).ahead k l' = c.ahead k l := by
    simp only [ahead, he.1, hw.1, ← hs, List.append_assoc]
  exact ⟨hw.1, hw.2, by simp [hall], fun _ => hall, fun _ => he.2, hq⟩

theorem quiet_same (c : Scene) (k : Nat) (a : Act) (l : Line)
    (hs : c.handled k a ++ (c.act a).share k = c.share k)
    (ho : c.attached = some k → c.offered a = none) : c.Quiet k a l l := by
  refine c.quiet_of_events k a l l ⟨rfl, rfl⟩ ⟨rfl, rfl⟩ hs ?_
  split
  · rename_i h
    simp [ho h.1]
  · simp

theorem batch_act (c : Scene) (a : Act) (hd : ∀ b, a ≠ .drain b) (hh : a ≠ .handle) :
    (c.act a).batch = c.batch := by
  cases a with
  | drain b => exact absurd rfl (hd b)
  | handle => exact absurd rfl hh
  | fire | dropHook | step => rfl
  | _ =>
    simp only [act, call]
    split <;> rfl

theorem share_act (c : Scene) (k : Nat) (a : Act) (h : ¬ c.reattaches a) (hd : ∀ b, a ≠ .drain b) :
    c.handled k a ++ (c.act a).share k = c.share k := by
  by_cases hh : a = .handle
  · subst hh
    cases hb : c.batch <;> simp [handled, share, act, hb]
  · have hn : c.handled k a = [] := by
      cases a <;> first | rfl | exact absurd rfl hh
    simp only [hn, share, c.batch_act a hd hh, (c.attached_act a h).1, List.nil_append]

theorem run_offer (c : Scene) (k : Nat) (l : Line) (q : Option String) :
    let l' := l.run (if c.attached = some k then
      q.toList.map (fun q => .give (.send (selectorFrame q))) else [])
    (l'.link.worker = l.link.worker ∧ l'.tape = l.tape) ∧
      (l'.link.events = l.link.events ∧ l'.link.heard = l.link.heard) ∧
      l'.queued = l.queued ++
        if c.attached = some k ∧ l.link.worker.isGone = false then q.toList.map selectorFrame
        else [] := by
  cases q with
  | none => simp [Line.run]
  | some q =>
    by_cases ha : c.attached = some k
    · simp only [ha, if_true, true_and, Option.toList_some, List.map_cons, List.map_nil, Line.run,
        List.foldl_cons, List.foldl_nil]
      refine ⟨l.move_quiet _ (by simp), l.events_give _, ?_⟩
      cases hg : l.link.worker.isGone <;> simp [Line.queued_give, Command.text?, hg]
    · simp [ha, Line.run]

theorem quiet_detach (c : Scene) (k : Nat) (a : Act) (l : Line) (h : a = .connect ∨ a = .close) :
    c.Quiet k a l (l.run (c.moves k a)) := by
  have hn : c.offered a = none ∧ c.handled k a = [] := by
    rcases h with rfl | rfl <;> exact ⟨rfl, rfl⟩
  have hb' : (c.act a).batch = c.batch := by
    rcases h with rfl | rfl <;> exact c.batch_act _ (by simp) (by simp)
  have hm : c.moves k a = if c.batch = none ∧ c.attached = some k then [.detach] else [] := by
    rcases h with rfl | rfl <;> rfl
  by_cases hd : c.batch = none ∧ c.attached = some k
  · obtain ⟨hw, ht⟩ := l.move_quiet .detach (by simp)
    simp only [hm, hd, and_self, if_true, Line.run, List.foldl_cons, List.foldl_nil]
    refine ⟨hw, ht, ?_, fun hr => absurd ⟨hd.1, h⟩ hr, fun hr => absurd ⟨hd.1, h⟩ hr, ?_⟩
    · -- nothing is taken out, and what was queued is dropped
      simp only [hn.2, ahead, share, hb', hd.1, Option.getD_none, ite_self, hw, List.nil_append]
      exact List.sublist_append_right _ _
    · exact (l.queued_give .close).trans (by simp [hn.1, Command.text?])
  · simp only [hm, hd, if_false, Line.run, List.foldl_nil]
    refine c.quiet_same k a l ?_ (fun _ => hn.1)
    cases hb : c.batch with
    | none => simp [hn.2, share, hb', hb]
    | some events =>
      rw [share_act c k a (by simp [reattaches, hb])]
      rcases h with rfl | rfl <;> simp

theorem quiet_drain (c : Scene) (k : Nat) (budget : Option Nat) (l : Line)
    (hl : c.line? k = some l) :
    c.Quiet k (.drain budget) l (l.run (c.moves k (.drain budget))) := by
  cases hb : c.batch with
  | some events =>
    have hm : l.run (c.moves k (.drain budget)) = l := by simp [moves, hb, Line.run]
    rw [hm]
    exact c.quiet_same k _ l (by simp [handled, share, act, hb]) (fun _ => rfl)
  | none =>
    have hs := (c.attached_act (.drain budget) (by simp [reattaches])).1
    have hb' : (c.act (.drain budget)).batch = some (c.session.connection.drain budget).1 := by
      simp only [act, hb]
    by_cases ha : c.attached = some k
    · obtain ⟨m, hc, hk⟩ := Option.map_eq_some_iff.1 ha
      have hml : m = l.link := by
        have hline := c.line?_attached m hc
        rw [hk, hl] at hline
        exact (congrArg Line.link (Option.some.inj hline)).symm
      have hd := c.session.connection.drain_append budget m hc
      rw [hml] at hd
      simp only [moves, hb, ha, and_self, if_true, Line.run, List.foldl_cons, List.foldl_nil]
      have hall : (c.act (.drain budget)).ahead k
          (l.move (.take (c.session.connection.drain budget).1.length)) = c.ahead k l := by
        simp only [ahead, share, hs, ha, hb', hb, if_true, Option.getD_some, Option.getD_none,
          Line.move, List.nil_append]
        rw [← List.append_assoc, hd]
      refine ⟨rfl, rfl, by simp [handled, hall], fun _ => hall, fun _ => rfl, ?_⟩
      simp only [offered, Option.toList_none, List.map_nil, ite_self, List.append_nil]
      rfl
    · simp only [moves, ha, and_false, if_false, Line.run, List.foldl_nil]
      exact c.quiet_same k _ l (by simp [handled, share, hs, ha]) (fun _ => rfl)

/-- What an act does to the line of a worker: nothing but to hand things on, or one exchange. -/
theorem line_act_cases (c : Scene) (a : Act) (k : Nat) (l' : Line)
    (h : c.batch = none → a = .connect → k ≠ c.session.connection.started)
    (h' : (c.act a).line? k = some l') : ∃ l, c.line? k = some l ∧
      (c.Quiet k a l l' ∨ (∃ o, a = .step k o) ∧ ∃ x, l.Advance x l') := by
  rw [c.line?_act a k h] at h'
  obtain ⟨l, hl, rfl⟩ := Option.map_eq_some_iff.1 h'
  refine ⟨l, hl, ?_⟩
  have hkeep : c.offered a = none → ¬ c.reattaches a → (∀ b, a ≠ .drain b) → ∀ m : Line,
      m.link.worker = l.link.worker ∧ m.tape = l.tape →
      m.link.events = l.link.events ∧ m.link.heard = l.link.heard →
      m.queued = l.queued → c.Quiet k a l m := by
    intro ho hr hd m hw he hq
    -- nothing is given and nothing is taken out
    exact c.quiet_of_events k a l m hw he (c.share_act k a hr hd) (by simp [ho, hq])
  cases a with
  | connect => exact .inl (c.quiet_detach k _ l (.inl rfl))
  | close => exact .inl (c.quiet_detach k _ l (.inr rfl))
  | submit q =>
    obtain ⟨hw, he, hq⟩ := c.run_offer k l (c.offered (.submit q))
    exact .inl (c.quiet_of_events k _ l _ hw he
      (c.share_act k _ (by simp [reattaches]) (by simp)) hq)
  | handle =>
    obtain ⟨hw, he, hq⟩ := c.run_offer k l (c.offered .handle)
    exact .inl (c.quiet_of_events k _ l _ hw he
      (c.share_act k _ (by simp [reattaches]) (by simp)) hq)
  | queue q =>
    refine .inl (hkeep rfl (by simp [reattaches]) (by simp) _ ?_ ?_ ?_) <;>
      simp [moves, offered, Line.run]
  | takeHook =>
    refine .inl (hkeep rfl (by simp [reattaches]) (by simp) _ ?_ ?_ ?_) <;>
      simp only [moves] <;> split <;> first | rfl | exact ⟨rfl, rfl⟩
  | drain budget => exact .inl (c.quiet_drain k budget l hl)
  | fire hook =>
    by_cases hk : hook.serial = k
    · simp only [moves, hk, if_true, Line.run, List.foldl_cons, List.foldl_nil]
      refine .inl (hkeep rfl (by simp [reattaches]) (by simp) _ (l.move_quiet _ (by simp))
        (l.events_give _) ?_)
      simp [Line.queued_give, Command.text?]
    · simp only [moves, hk, if_false, Line.run, List.foldl_nil]
      exact .inl (hkeep rfl (by simp [reattaches]) (by simp) l ⟨rfl, rfl⟩ ⟨rfl, rfl⟩ rfl)
  | dropHook hook =>
    refine .inl (hkeep rfl (by simp [reattaches]) (by simp) _ ?_ ?_ ?_) <;>
      simp only [moves] <;> split <;> first | rfl | exact ⟨rfl, rfl⟩
  | step j o =>
    by_cases hj : j = k
    · subst hj
      simp only [moves, if_true, Line.run, List.foldl_cons, List.foldl_nil]
      rcases l.step_cases o with hm | ⟨x, hx⟩
      · rw [hm]
        exact .inl (hkeep rfl (by simp [reattaches]) (by simp) l ⟨rfl, rfl⟩ ⟨rfl, rfl⟩ rfl)
      · exact .inr ⟨⟨o, rfl⟩, x, hx⟩
    · refine .inl (hkeep rfl (by simp [reattaches]) (by simp) _ ?_ ?_ ?_) <;>
        simp [moves, hj, Line.run]

/-- The worker that is attached after an act has just been started, or it was attached before; then
the act only hands things on to it and from it, or lets it make an exchange. -/
theorem attached_act_cases (c : Scene) (a : Act) (l' : Link)
    (h' : (c.act a).session.connection.current = some l') :
    (c.batch = none ∧ a = .connect ∧
      l' = .start c.session.connection.started c.session.connection.policy) ∨
    ¬ c.reattaches a ∧ c.attached = some l'.serial ∧
      ∃ l, c.session.connection.current = some l ∧ l.serial = l'.serial ∧
        (c.Quiet l'.serial a ⟨l, c.tape l'.serial⟩ ⟨l', (c.act a).tape l'.serial⟩ ∨
          (∃ o, a = .step l'.serial o) ∧
            ∃ x, (⟨l, c.tape l'.serial⟩ : Line).Advance x ⟨l', (c.act a).tape l'.serial⟩) := by
  by_cases hr : c.reattaches a
  · left
    rcases hr with ⟨hb, rfl | rfl⟩
    · rw [(c.act_connect hb).1] at h'
      exact ⟨hb, rfl, (Option.some.inj h').symm⟩
    · rw [(c.act_close hb).1] at h'
      cases h'
  · right
    have ha : c.attached = some l'.serial := by
      rw [← (c.attached_act a hr).1, attached, h', Option.map_some]
    obtain ⟨l, hl, hs⟩ := Option.map_eq_some_iff.1 ha
    obtain ⟨m, hm, hcases⟩ := c.line_act_cases a l'.serial _
      (fun hb hq => absurd ⟨hb, .inl hq⟩ hr) ((c.act a).line?_attached l' h')
    have hml := c.line?_attached l hl
    rw [hs, hm] at hml
    cases Option.some.inj hml
    exact ⟨hr, ha, l, hl, hs, hcases⟩

theorem tape_act (c : Scene) (a : Act) (k : Nat) (h : c.line? k = none) :
    (c.act a).tape k = c.tape k := by
  cases a with
  | step j o =>
    have hl : c.session.connection.link? k = none := by simpa [line?] using h
    simp [act, extend, hl]
  | drain budget | handle =>
    simp only [act]
    split <;> rfl
  | fire | dropHook => rfl
  | _ =>
    simp only [act, call]
    split <;> rfl

/-- What every scene of a run keeps: workers have numbers in the order in which they start, and the
attached one is heard. -/
structure Sound (c : Scene) : Prop where
  fresh : ∀ k, c.session.connection.started ≤ k → c.line? k = none ∧ c.tape k = []
  heard : ∀ l, c.session.connection.current = some l → l.heard = true

theorem sound_start (policy : ReconnectPolicy) (base : Instant) (maxRows : Nat) :
    (start policy base maxRows).Sound :=
  ⟨fun _ _ => ⟨rfl, rfl⟩, fun _ hl => nomatch hl⟩

theorem started_act (c : Scene) (a : Act) :
    c.session.connection.started ≤ (c.act a).session.connection.started ∧
      (c.batch = none → a = .connect →
        c.session.connection.started < (c.act a).session.connection.started) := by
  by_cases hr : c.reattaches a
  · rcases hr with ⟨hb, rfl | rfl⟩
    · rw [(c.act_connect hb).2.1]
      exact ⟨Nat.le_succ _, fun _ _ => Nat.lt_succ_self _⟩
    · exact ⟨Nat.le_of_eq (c.act_close hb).2.1.symm, fun _ h => nomatch h⟩
  · exact ⟨Nat.le_of_eq (c.attached_act a hr).2.1.symm, fun hb ha => absurd ⟨hb, .inl ha⟩ hr⟩

theorem Sound.act {c : Scene} (hc : c.Sound) (a : Act) : (c.act a).Sound := by
  constructor
  · intro k hk
    have hs := c.started_act a
    obtain ⟨hl, ht⟩ := hc.fresh k (Nat.le_trans hs.1 hk)
    have hne : c.batch = none → a = .connect → k ≠ c.session.connection.started := by
      intro hb ha he
      have hlt := hs.2 hb ha
      omega
    exact ⟨by rw [c.line?_act a k hne, hl]; rfl, (c.tape_act a k hl).trans ht⟩
  · intro l' hl'
    rcases c.attached_act_cases a l' hl' with ⟨-, -, rfl⟩ | ⟨hr, -, l, hl, -, hq | ⟨-, x, hx⟩⟩
    · rfl
    · exact (hq.heard hr).trans (hc.heard l hl)
    · exact hx.heard.trans (hc.heard l hl)

theorem sound_run (policy : ReconnectPolicy) (base : Instant) (maxRows : Nat) (acts : List Act) :
    ((start policy base maxRows).run acts).Sound := by
  induction acts using List.reverseRecOn with
  | nil => exact sound_start policy base maxRows
  | append_singleton acts a ih =>
    rw [run_concat]
    exact ih.act a

/-- What holds at the start and is kept by each act holds after every run. -/
theorem kept_run {P : Scene → Prop} {policy : ReconnectPolicy} {base : Instant} {maxRows : Nat}
    (hstart : P (start policy base maxRows))
    (hact : ∀ c : Scene, c.Sound → P c → ∀ a, P (c.act a)) (acts : List Act) :
    P ((start policy base maxRows).run acts) := by
  induction acts using List.reverseRecOn with
  | nil => exact hstart
  | append_singleton acts a ih =>
    rw [run_concat]
    exact hact _ (sound_run policy base maxRows acts) ih a

/-- The news of an exchange comes behind everything else; what nobody hears is lost. -/
theorem ahead_advance (c : Scene) (k : Nat) (o : Reply) (l l' : Line) (x : Exchange)
    (h : l.Advance x l') :
    ((c.act (.step k o)).ahead k l').Sublist (c.ahead k l ++ x.news?.toList) ∧
      (l.link.heard = true →
        (c.act (.step k o)).ahead k l' = c.ahead k l ++ x.news?.toList) := by
  have hs : (c.act (.step k o)).share k = c.share k :=
    c.share_act k (.step k o) (by simp [reattaches]) (by simp)
  constructor
  · simp only [ahead, hs, h.events, List.append_assoc]
    exact ((h.turn.posted_sublist).append_left _).append_left _
  · intro hh
    simp only [ahead, hs, h.events, List.append_assoc,
      h.turn.posted_unposted (h.reply_ne_lost hh)]

end Scene

end LiveTail
