import LiveTail.Proofs.Cuts
import LiveTail.Proofs.Standing
import LiveTail.Screen.State
/-! What the status line tells about a connection that is gone. It is written when a pump reports
another state, and then it tells the reason. Where a whole attempt falls into one pump, from the
loss of one socket to the loss of the next, the state is the same before and after it, so the line
keeps the old reason. -/
namespace LiveTail

/-! ### What may follow -/

/-- What a worker may post next, by what its events have come to. Only with reconnection is there
another attempt after the loss of a socket. -/
inductive ConnectionState.MayPost (again : Bool) : ConnectionState → Event → Prop where
  | announced (n : ℕ) : MayPost again .connecting (.connecting n)
  | opened : MayPost again .connecting .opened
  | refused (m : String) : MayPost again .connecting (.error m)
  | frame (text : String) : MayPost again .connected (.frame text)
  | failed (m : String) : MayPost again .connected (.error m)
  | ended (r : CloseReason) : MayPost again .connected (.closed r)
  | lost (r : CloseReason) : MayPost again .disconnected (.closed r)
  | retried (n : ℕ) (h : again = true) : MayPost again .disconnected (.connecting n)

/-- Events of which each may follow those before it. -/
def ConnectionState.Goes (again : Bool) : ConnectionState → List Event → Prop
  | _, [] => True
  | s, e :: r => s.MayPost again e ∧ (s.after e).Goes again r

namespace ConnectionState

variable {again : Bool} {s : ConnectionState}

theorem goes_append (a b : List Event) :
    s.Goes again (a ++ b) ↔ s.Goes again a ∧ (a.foldl after s).Goes again b := by
  induction a generalizing s with
  | nil => exact (iff_of_eq (true_and _)).symm
  | cons e r ih =>
    rw [List.cons_append, Goes, ih, Goes, and_assoc]
    rfl

theorem Goes.of_isPrefix {a b : List Event} (h : s.Goes again b) (hab : a <+: b) :
    s.Goes again a := by
  obtain ⟨rest, rfl⟩ := hab
  exact ((goes_append a rest).1 h).1

theorem goes_frames (texts : List String) : connected.Goes again (texts.map .frame) := by
  induction texts with
  | nil => trivial
  | cons t r ih => exact ⟨.frame t, ih⟩

/-- An attempt goes from its announcement to the loss of its socket. -/
theorem goes_attempt (a : Attempt) {k : ℕ} (h : s.MayPost again (.connecting k)) :
    s.Goes again (a.events k) ∧ (a.events k).foldl after s = .disconnected := by
  cases a with
  | refused m => exact ⟨⟨h, .refused m, .lost _, trivial⟩, rfl⟩
  | opened texts ending =>
    have hframes := foldl_after_frames connected texts
    have hending : connected.Goes again ending.events ∧
        ending.events.foldl after connected = .disconnected := by
      cases ending with
      | here => exact ⟨⟨.ended _, trivial⟩, rfl⟩
      | remote => exact ⟨⟨.ended _, trivial⟩, rfl⟩
      | failed m => exact ⟨⟨.failed m, .lost _, trivial⟩, rfl⟩
    constructor
    · refine ⟨h, .opened, (goes_append _ _).2 ⟨goes_frames texts, ?_⟩⟩
      exact hframes.symm ▸ hending.1
    · calc (Attempt.events k (.opened texts ending)).foldl after s
          = ending.events.foldl after ((texts.map Event.frame).foldl after connected) :=
            List.foldl_append
        _ = .disconnected := by rw [hframes, hending.2]

theorem goes_numbered {earlier : List Attempt} (last : Attempt)
    (h : ∀ a ∈ earlier, a.Again again) (k : ℕ) (hs : ∀ n, s.MayPost again (.connecting n)) :
    s.Goes again (Attempt.numbered k (earlier ++ [last])) ∧
      (Attempt.numbered k (earlier ++ [last])).foldl after s = .disconnected := by
  induction earlier generalizing k s with
  | nil =>
    rw [List.nil_append, Attempt.numbered, Attempt.numbered, List.append_nil]
    exact goes_attempt last (hs k)
  | cons a r ih =>
    obtain ⟨hgoes, hover⟩ := goes_attempt a (hs k)
    -- the rest goes on from the loss of this socket, which takes reconnection
    have hagain : again = true := (h a List.mem_cons_self).1
    obtain ⟨hrest, hend⟩ := ih (fun b hb => h b (List.mem_cons_of_mem a hb)) (a.next k)
      (fun n => .retried n hagain)
    rw [List.cons_append, Attempt.numbered, goes_append, List.foldl_append, hover]
    exact ⟨⟨hgoes, hrest⟩, hend⟩

theorem goes_word {word : List Event} (h : IsWord again word) : connecting.Goes again word := by
  cases h with
  | ended earlier last ha => exact (goes_numbered last ha 1 .announced).1
  | stopped earlier last ha hl =>
    obtain ⟨hgoes, hover⟩ := goes_numbered last ha 1 .announced
    refine (goes_append _ _).2 ⟨hgoes, ?_⟩
    rw [hover]
    exact ⟨.lost _, trivial⟩

/-- After the loss of a socket nothing but word that it is closed comes before the next attempt. -/
theorem Goes.transportError_eq {events : List Event} (h : disconnected.Goes again events)
    (hnone : ∀ k, .connecting k ∉ events) (old : Option String) :
    events.foldl Event.transportErrorAfter old = old := by
  induction events with
  | nil => rfl
  | cons e r ih =>
    obtain ⟨hfirst, hrest⟩ := h
    cases hfirst with
    | lost reason => exact ih hrest fun k hk => hnone k (List.mem_cons_of_mem _ hk)
    | retried n => exact absurd List.mem_cons_self (hnone n)

/-- Without reconnection there is no other attempt. -/
theorem Goes.connecting_not_mem {events : List Event} (h : disconnected.Goes false events) (k : ℕ) :
    .connecting k ∉ events := by
  induction events with
  | nil => exact List.not_mem_nil
  | cons e r ih =>
    obtain ⟨hfirst, hrest⟩ := h
    cases hfirst with
    | lost reason => exact List.not_mem_cons_of_ne_of_not_mem (by simp) (ih hrest)
    | retried n hagain => cases hagain

end ConnectionState

namespace Scene

/-- The events in the queue go on from the state of the session. -/
theorem goes_drain (policy : ReconnectPolicy) (base : Instant) (maxRows : ℕ) (acts : List Act)
    (c : Scene) (hc : c = (start policy base maxRows).run acts) (hb : c.batch = none)
    (budget : Option ℕ) :
    c.session.state.Goes policy.enabled (c.session.connection.drain budget).1 := by
  cases hl : c.session.connection.current with
  | none =>
    rw [Connection.drain, hl]
    trivial
  | some l =>
    obtain ⟨handled, hposted, hstate⟩ :=
      (hc ▸ abreast_run policy base maxRows acts : c.Abreast) l hl
    rw [hb, Option.getD_none, List.nil_append] at hposted
    obtain ⟨moves, hm⟩ := exists_moves policy base maxRows acts c hc _ _ (c.line?_attached l hl)
    have hspoken := spoken_run l.serial policy moves
    rw [← hm] at hspoken
    obtain ⟨word, hword, hsaid⟩ := hspoken.stage.isPrefix
    rw [hspoken.policy] at hword
    have hgoes : ConnectionState.connecting.Goes policy.enabled (Tape.posted (c.tape l.serial)) :=
      (ConnectionState.goes_word hword).of_isPrefix (hspoken.posted.trans hsaid)
    rw [hposted, ConnectionState.goes_append, ← hstate] at hgoes
    rw [Connection.drain, hl]
    exact hgoes.2.of_isPrefix (List.take_prefix _ _)

end Scene

/-! ### One pump -/

/-- The text for a connection that is gone. -/
def reasonText : Option String → String
  | some reason => "Disconnected: " ++ reason
  | none => "Disconnected."

theorem reasonText_inj {a b : Option String} : reasonText a = reasonText b ↔ a = b := by
  constructor
  · intro h
    have hchars := congrArg String.toList h
    cases a <;> cases b <;> simp [reasonText] at hchars ⊢
    exact String.toList_inj.1 hchars
  · rintro rfl
    rfl

theorem Connection.state_drain (c : Connection) (budget : Option ℕ) :
    (c.drain budget).2.state = c.state := by
  rw [drain]
  cases c.current <;> rfl

theorem Connection.state_hook (c : Connection) : c.hook.2.state = c.state := by
  rw [hook]
  cases c.current <;> rfl

namespace Screen

/-- The batch of the next pump. -/
def batch (s : Screen) (budget : Option ℕ) : List Event := (s.session.connection.drain budget).1

theorem session_pump_eq (s : Screen) (budget : Option ℕ) :
    (s.pump budget).2.session = (s.session.pump budget).2 := by
  simp only [pump, apply_ite Screen.session, ite_self]

theorem knowledge_pump (s : Screen) (budget : Option ℕ) :
    (s.pump budget).2.session.knowledge = s.session.knowledge.after (s.batch budget) := by
  rw [session_pump_eq, Session.pump, Session.handleEvents_knowledge]
  simp only [Session.knowledge, Session.state, Connection.state_drain]
  rfl

theorem state_pump (s : Screen) (budget : Option ℕ) : (s.pump budget).2.session.state =
    (s.batch budget).foldl ConnectionState.after s.session.state :=
  congrArg Knowledge.state (s.knowledge_pump budget)

theorem transportError_pump (s : Screen) (budget : Option ℕ) :
    (s.pump budget).2.session.transportError =
      (s.batch budget).foldl Event.transportErrorAfter s.session.transportError :=
  congrArg Knowledge.transportError (s.knowledge_pump budget)

theorem stateChanged_pump (s : Screen) (budget : Option ℕ) :
    (s.pump budget).1.stateChanged = true ↔
      (s.pump budget).2.session.state ≠ s.session.state := by
  have hdrained : (s.session.connection.drain budget).2.state = s.session.state :=
    s.session.connection.state_drain budget
  rw [session_pump_eq, ← hdrained]
  exact decide_eq_true_iff

/-- The line is written anew exactly if the state has changed. -/
theorem status_pump (s : Screen) (budget : Option ℕ) : (s.pump budget).2.status =
    if (s.pump budget).1.stateChanged then (s.pump budget).2.stateStatus else s.status := by
  simp only [pump, apply_ite Screen.status]
  split <;> rfl

theorem stateStatus_of_disconnected {s : Screen} (h : s.session.state = .disconnected) :
    s.stateStatus = reasonText s.session.transportError := by
  rw [stateStatus, h]
  cases s.session.transportError <;> rfl

end Screen

/-! ### A window that is watched -/

/-- The reason at the last pump that reported another state, and the events that were handled
since. -/
structure Notice where
  reason : Option String
  since : List Event
  deriving DecidableEq, Repr

/-- A window, and what its status line was last written for; none if no pump has reported another
state since the connection was opened again. -/
structure Watch where
  screen : Screen
  told : Option Notice

/-- What happens to a window that is only watched: it is reconnected, events are taken from the
worker, a hook is handed out, or the workers go on. -/
inductive Glance where
  | reconnect
  | pump (budget : Option ℕ)
  | takeHook
  | stir (stir : Stir)
  deriving DecidableEq, Repr

namespace Watch

def start (session : Session) (endpoint pageUrl : String) : Watch :=
  ⟨.new session endpoint pageUrl, none⟩

def change (v : Watch) (f : Connection → Connection) : Watch :=
  { v with screen := { v.screen with
      session := { v.screen.session with connection := f v.screen.session.connection } } }

def pump (v : Watch) (budget : Option ℕ) : Watch :=
  let (summary, screen) := v.screen.pump budget
  ⟨screen,
    if summary.stateChanged then some ⟨screen.session.transportError, []⟩
    else v.told.map (fun n => { n with since := n.since ++ v.screen.batch budget })⟩

def act (v : Watch) : Glance → Watch
  | .reconnect => ⟨v.screen.reconnect, none⟩
  | .pump budget => v.pump budget
  | .takeHook => v.change (fun c => c.hook.2)
  | .stir a => v.change (·.stir a)

def run (v : Watch) (glances : List Glance) : Watch := glances.foldl act v

@[simp] theorem run_concat (v : Watch) (glances : List Glance) (g : Glance) :
    v.run (glances ++ [g]) = (v.run glances).act g := by
  simp [run]

/-- What is kept of a notice: the line shows its reason as long as the connection is gone, and what
was handled since goes from its state back to it. -/
structure Kept (again : Bool) (v : Watch) (n : Notice) : Prop where
  status : v.screen.session.state = .disconnected → v.screen.status = reasonText n.reason
  reason : v.screen.session.transportError = n.since.foldl Event.transportErrorAfter n.reason
  goes : v.screen.session.state.Goes again n.since
  state : n.since.foldl ConnectionState.after v.screen.session.state = v.screen.session.state

theorem kept_of_changed (again : Bool) (v : Watch) (budget : Option ℕ)
    (h : (v.screen.pump budget).1.stateChanged = true) :
    Kept again (v.pump budget) ⟨(v.pump budget).screen.session.transportError, []⟩ := by
  refine ⟨?_, rfl, trivial, rfl⟩
  intro hgone
  calc (v.pump budget).screen.status
      = (v.screen.pump budget).2.stateStatus := by
        rw [pump, v.screen.status_pump, if_pos h]
    _ = reasonText (v.pump budget).screen.session.transportError :=
        Screen.stateStatus_of_disconnected hgone

theorem state_pump_of_same {v : Watch} {budget : Option ℕ}
    (h : (v.screen.pump budget).1.stateChanged = false) :
    (v.pump budget).screen.session.state = v.screen.session.state := by
  by_contra hne
  rw [(v.screen.stateChanged_pump budget).2 hne] at h
  cases h

theorem Kept.pumped {again : Bool} {v : Watch} {n : Notice} (h : v.Kept again n) (budget : Option ℕ)
    (hbatch : v.screen.session.state.Goes again (v.screen.batch budget))
    (hsame : (v.screen.pump budget).1.stateChanged = false) :
    Kept again (v.pump budget) { n with since := n.since ++ v.screen.batch budget } := by
  have hstate := state_pump_of_same hsame
  have hback := v.screen.state_pump budget
  constructor
  · intro hgone
    -- the connection was gone before, so the line is about the notice already
    rw [hstate] at hgone
    rw [pump, v.screen.status_pump, hsame]
    exact h.status hgone
  · rw [List.foldl_append, ← h.reason]
    exact v.screen.transportError_pump budget
  · rw [hstate, ConnectionState.goes_append, h.state]
    exact ⟨h.goes, hbatch⟩
  · rw [hstate, List.foldl_append, h.state, ← hback]
    exact hstate

/-- What leaves the line, the state and the reason as they are keeps a notice. -/
theorem Kept.of_same {again : Bool} {v v' : Watch} {n : Notice} (h : v.Kept again n)
    (hstatus : v'.screen.status = v.screen.status)
    (hstate : v'.screen.session.state = v.screen.session.state)
    (hreason : v'.screen.session.transportError = v.screen.session.transportError) :
    v'.Kept again n := by
  constructor
  · rw [hstate, hstatus]
    exact h.status
  · rw [hreason]
    exact h.reason
  · rw [hstate]
    exact h.goes
  · rw [hstate]
    exact h.state

/-- The notice after a pump is a new one if the state has changed, and otherwise the one before,
with the batch added. -/
theorem told_pump_cases {v : Watch} {budget : Option ℕ} {n : Notice}
    (h : (v.pump budget).told = some n) :
    ((v.screen.pump budget).1.stateChanged = true ∧
      n = ⟨(v.pump budget).screen.session.transportError, []⟩) ∨
    ((v.screen.pump budget).1.stateChanged = false ∧ ∃ old, v.told = some old ∧
      n = { old with since := old.since ++ v.screen.batch budget }) := by
  have htold : (v.pump budget).told = if (v.screen.pump budget).1.stateChanged then
      some ⟨(v.pump budget).screen.session.transportError, []⟩
    else v.told.map (fun n => { n with since := n.since ++ v.screen.batch budget }) := rfl
  rw [htold] at h
  cases hchanged : (v.screen.pump budget).1.stateChanged with
  | true =>
    rw [hchanged, if_pos rfl] at h
    exact .inl ⟨rfl, (Option.some.inj h).symm⟩
  | false =>
    rw [hchanged, if_neg Bool.false_ne_true, Option.map_eq_some_iff] at h
    obtain ⟨old, hold, hn⟩ := h
    exact .inr ⟨rfl, old, hold, hn.symm⟩

/-- A pump of one event at most that leaves the connection gone did not take the announcement of an
attempt. -/
theorem connecting_not_mem_batch {s : Screen} {b : ℕ} (hb : b ≤ 1)
    (hgone : (s.pump (some b)).2.session.state = .disconnected) (k : ℕ) :
    .connecting k ∉ s.batch (some b) := by
  intro hk
  have hlength : (s.batch (some b)).length ≤ 1 := by
    rw [Screen.batch, Connection.drain]
    cases s.session.connection.current with
    | none => exact Nat.zero_le 1
    | some l => exact Nat.le_trans (List.length_take_le _ _) hb
  have hbatch : s.batch (some b) = [.connecting k] := by
    obtain ⟨e, he⟩ := List.length_eq_one_iff.1
      (Nat.le_antisymm hlength (List.length_pos_of_mem hk))
    rw [he, List.mem_singleton] at hk
    rw [he, ← hk]
  rw [s.state_pump, hbatch] at hgone
  cases hgone

theorem connecting_not_mem_of_one (session : Session) (endpoint pageUrl : String)
    (glances : List Glance) (hone : ∀ budget, .pump budget ∈ glances → ∃ b ≤ 1, budget = some b)
    (n : Notice) (hn : ((start session endpoint pageUrl).run glances).told = some n)
    (hgone : ((start session endpoint pageUrl).run glances).screen.session.state = .disconnected)
    (k : ℕ) : .connecting k ∉ n.since := by
  induction glances using List.reverseRecOn generalizing n with
  | nil => cases hn
  | append_singleton glances g ih =>
    have hbefore := ih fun budget h => hone budget (List.mem_append_left _ h)
    rw [run_concat] at hn hgone
    generalize (start session endpoint pageUrl).run glances = v at hbefore hn hgone
    cases g with
    | reconnect => cases hn
    | pump budget =>
      obtain ⟨b, hb, rfl⟩ := hone budget (List.mem_append_right _ List.mem_cons_self)
      obtain ⟨-, rfl⟩ | ⟨hsame, old, hold, rfl⟩ := told_pump_cases hn
      · exact List.not_mem_nil
      · have hgone' := (state_pump_of_same hsame).symm.trans hgone
        rw [List.mem_append]
        rintro (hk | hk)
        · exact hbefore old hold hgone' hk
        · exact connecting_not_mem_batch hb hgone k hk
    | takeHook => exact hbefore n hn ((Connection.state_hook _).symm.trans hgone)
    | stir a => exact hbefore n hn ((Session.state_stir _ a).symm.trans hgone)

end Watch

section

/-! A session that has come to be in a run of scenes, and the window that is opened on it then. -/

variable (policy : ReconnectPolicy) (base : Instant) (maxRows : ℕ) (setup : List Act) (c : Scene)
  (hc : c = (Scene.start policy base maxRows).run setup) (hb : c.batch = none)
  (endpoint pageUrl : String) (glances : List Glance)
include hc hb

namespace Watch

/-- The session of a window goes the way of a session among its workers. -/
theorem exists_scene : ∃ acts, ((Scene.start policy base maxRows).run acts).batch = none ∧
    ((start c.session endpoint pageUrl).run glances).screen.session =
      ((Scene.start policy base maxRows).run acts).session := by
  induction glances using List.reverseRecOn with
  | nil => exact ⟨setup, hc ▸ hb, hc ▸ rfl⟩
  | append_singleton glances g ih =>
    obtain ⟨acts, hb', hsession⟩ := ih
    rw [run_concat]
    generalize (start c.session endpoint pageUrl).run glances = v at hsession
    cases g with
    | reconnect =>
      refine ⟨acts ++ [.connect], ?_⟩
      rw [Scene.run_concat]
      simp only [Scene.act, Scene.call, hb', Option.isSome_none, Bool.false_eq_true, if_false,
        ← hsession]
      exact ⟨trivial, rfl⟩
    | pump budget =>
      refine ⟨acts ++ [.drain budget] ++ [.handle], ?_⟩
      rw [Scene.run_concat, Scene.run_concat, Scene.act_drain_handle _ _ hb', ← hsession]
      exact ⟨hb', v.screen.session_pump_eq budget⟩
    | takeHook =>
      refine ⟨acts ++ [.takeHook], ?_⟩
      rw [Scene.run_concat]
      simp only [Scene.act, Scene.call, hb', Option.isSome_none, Bool.false_eq_true, if_false,
        ← hsession]
      exact ⟨trivial, rfl⟩
    | stir a =>
      obtain ⟨b, hact⟩ : ∃ b : Act, ∀ c : Scene, (c.act b).batch = c.batch ∧
          (c.act b).session = { c.session with connection := c.session.connection.stir a } := by
        cases a with
        | fire hook => exact ⟨.fire hook, fun c => ⟨rfl, rfl⟩⟩
        | dropHook hook => exact ⟨.dropHook hook, fun c => ⟨rfl, rfl⟩⟩
        | step k o => exact ⟨.step k o, fun c => ⟨rfl, rfl⟩⟩
      refine ⟨acts ++ [b], ?_⟩
      rw [Scene.run_concat, (hact _).1, (hact _).2, ← hsession]
      exact ⟨hb', rfl⟩

theorem goes_batch (v : Watch) (hv : v = (start c.session endpoint pageUrl).run glances)
    (budget : Option ℕ) :
    v.screen.session.state.Goes policy.enabled (v.screen.batch budget) := by
  obtain ⟨acts, hb', hsession⟩ :=
    exists_scene policy base maxRows setup c hc hb endpoint pageUrl glances
  rw [← hv] at hsession
  rw [Screen.batch, hsession]
  exact Scene.goes_drain policy base maxRows acts _ rfl hb' budget

/-- In every run the last notice is kept. -/
theorem kept_run (n : Notice)
    (hn : ((start c.session endpoint pageUrl).run glances).told = some n) :
    ((start c.session endpoint pageUrl).run glances).Kept policy.enabled n := by
  induction glances using List.reverseRecOn generalizing n with
  | nil => cases hn
  | append_singleton glances g ih =>
    have hbatch := goes_batch policy base maxRows setup c hc hb endpoint pageUrl glances _ rfl
    rw [run_concat] at hn ⊢
    generalize (start c.session endpoint pageUrl).run glances = v at ih hbatch hn ⊢
    cases g with
    | reconnect => cases hn
    | pump budget =>
      obtain ⟨hchanged, rfl⟩ | ⟨hsame, old, hold, rfl⟩ := told_pump_cases hn
      · exact kept_of_changed _ v budget hchanged
      · exact (ih old hold).pumped budget (hbatch budget) hsame
    | takeHook => exact (ih n hn).of_same rfl (Connection.state_hook _) rfl
    | stir a => exact (ih n hn).of_same rfl (Session.state_stir _ a) rfl

end Watch

/-- Once a pump has reported another state, the line of a connection that is gone shows the reason
at the last such pump. The events that were handled since then may have changed the reason, and then
the line is out of date; but only a further attempt changes it, so the line is right if none was
announced since, without reconnection, and where every pump takes one event at most. -/
theorem status_tells_notice (v : Watch)
    (hv : v = (Watch.start c.session endpoint pageUrl).run glances) (n : Notice)
    (hn : v.told = some n) (hgone : v.screen.session.state = .disconnected) :
    v.screen.status = reasonText n.reason ∧
    v.screen.session.transportError = n.since.foldl Event.transportErrorAfter n.reason ∧
    (v.screen.status = reasonText v.screen.session.transportError ↔
      v.screen.session.transportError = n.reason) ∧
    ((∀ k, .connecting k ∉ n.since) → v.screen.session.transportError = n.reason) ∧
    (policy.enabled = false ∨ (∀ budget, .pump budget ∈ glances → ∃ b ≤ 1, budget = some b) →
      ∀ k, .connecting k ∉ n.since) := by
  subst hv
  have hkept := Watch.kept_run policy base maxRows setup c hc hb endpoint pageUrl glances n hn
  have hgoes := hkept.goes
  rw [hgone] at hgoes
  refine ⟨hkept.status hgone, hkept.reason, ?_, ?_, ?_⟩
  · rw [hkept.status hgone, reasonText_inj]
    exact eq_comm
  · intro hnone
    rw [hkept.reason]
    exact hgoes.transportError_eq hnone n.reason
  · rintro (hdisabled | hone) k
    · rw [hdisabled] at hgoes
      exact hgoes.connecting_not_mem k
    · exact Watch.connecting_not_mem_of_one c.session endpoint pageUrl glances hone n hn hgone k

end

/-- The second socket is refused for another reason than the first one, and all that the worker says
about it is in one pump: the line keeps the reason that was told. -/
theorem status_tells_notice_of_two :
    let policy := ReconnectPolicy.withBackoff (.ofMillis 500) (.ofMillis 500)
    let step (r : Reply) : Glance := .stir (.step 0 r)
    let refused (m : String) := [step .done, step (.failed m), step .done, step .done]
    let v := (Watch.start (Scene.start policy .epoch 10).session "" "").run
      (.reconnect :: refused "first" ++ .pump none :: step .elapsed :: refused "second" ++
        [.pump none])
    let n : Notice := ⟨some "first", [.connecting 2, .error "second", .closed .failed]⟩
    v.told = some n ∧ v.screen.session.state = .disconnected ∧
      v.screen.status = "Disconnected: first" ∧
      v.screen.session.transportError = some "second" := by
  intro policy step refused v n
  have hn : v.told = some n := by decide +kernel
  have hgone : v.screen.session.state = .disconnected := by decide +kernel
  obtain ⟨hstatus, hreason, -⟩ := status_tells_notice policy .epoch 10 [] _ rfl rfl "" "" _ v rfl n
    hn hgone
  exact ⟨hn, hgone, hstatus, hreason⟩

/-- So the line may be about another failure than the one that the connection is gone for. -/
theorem status_out_of_date :
    let policy := ReconnectPolicy.withBackoff (.ofMillis 500) (.ofMillis 500)
    let step (r : Reply) : Glance := .stir (.step 0 r)
    let refused (m : String) := [step .done, step (.failed m), step .done, step .done]
    let v := (Watch.start (Scene.start policy .epoch 10).session "" "").run
      (.reconnect :: refused "first" ++ .pump (some 3) :: step .elapsed :: refused "second" ++
        [.pump (some 3)])
    v.told.isSome = true ∧ v.screen.session.state = .disconnected ∧
      v.screen.session.transportError = some "second" ∧
      v.screen.status ≠ reasonText (some "second") := by
  decide +kernel

end LiveTail
