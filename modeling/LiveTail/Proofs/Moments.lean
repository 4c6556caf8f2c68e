import LiveTail.Proofs.Cuts
import Mathlib.Data.List.Induction
/-! A batch taken event by event, while the workers go on in between. Which of its sockets counts as
the current one is told by the whole batch; whether the worker still takes the selector is told by
the moment at which that socket is handled. -/
namespace LiveTail

/-- An event of a batch, and what happens to the workers just before it is handled. -/
structure Moment where
  before : List Stir
  event : Event
  deriving DecidableEq, Repr

namespace Session

/-- The batch once the workers have gone on to a moment. -/
def Batch.enter (b : Batch) (m : Moment) : Batch :=
  { b with session := b.session.enter ⟨m.before, [m.event]⟩ }

/-- Whether an event is the last one of its batch that opens or closes a socket. -/
def isLatest (m : Moment) (later : List Moment) (rest : List Event) : Bool :=
  isTransition m.event && !(later.map Moment.event ++ rest).any isTransition

/-- Handles the events of moments; `rest` are those of the same batch that come after them. -/
def handleMoments (b : Batch) : List Moment → List Event → Batch
  | [], _ => b
  | m :: r, rest => handleMoments (handleOne (b.enter m) m.event (isLatest m r rest)) r rest

/-- The commands that the attached worker is given for one event. -/
def given (b : Batch) (e : Event) (current : Bool) : List Command :=
  (handleOne b e current).session.connection.backlog.drop b.session.connection.backlog.length

/-- The commands that the attached worker is given for the events of moments. -/
def givenAmid (b : Batch) : List Moment → List Event → List Command
  | [], _ => []
  | m :: r, rest => given (b.enter m) m.event (isLatest m r rest) ++
      givenAmid (handleOne (b.enter m) m.event (isLatest m r rest)) r rest

/-- For an event that opened the current socket the worker is given the last selector, if there is
one and the worker takes commands at that moment. -/
theorem backlog_handleOne (b : Batch) (e : Event) (current : Bool) :
    given b e current = (if e = .opened ∧ current = true ∧ b.session.connection.takes = true then
      b.session.lastQuery.toList.map (.send <| selectorFrame ·) else []) ∧
    (handleOne b e current).session.connection.backlog =
      b.session.connection.backlog ++ given b e current := by
  let c := b.session.connection.apply e
  have htakes : c.takes = b.session.connection.takes := rfl
  have hbacklog : c.backlog = b.session.connection.backlog := rfl
  have hall : (handleOne b e current).session.connection.backlog = b.session.connection.backlog ++
      if e = .opened ∧ current = true ∧ b.session.connection.takes = true then
        b.session.lastQuery.toList.map (.send <| selectorFrame ·) else [] := by
    rw [handleOne_session]
    change (c.offer _).backlog = _
    rw [Connection.offer_eq, Connection.extended_backlog, htakes, hbacklog]
    -- without a worker nothing is given, and nothing would be
    cases hc : b.session.connection.current with
    | none =>
      have hnone : b.session.connection.takes = false := by simp [Connection.takes, hc]
      simp [hnone]
    | some l =>
      have hsome : c.current.isSome = true := by simp [c, Connection.apply, hc]
      rw [hsome]
      cases b.session.connection.takes <;> by_cases he : e = .opened ∧ current = true <;>
        simp [he]
  have hgiven : given b e current =
      if e = .opened ∧ current = true ∧ b.session.connection.takes = true then
        b.session.lastQuery.toList.map (.send <| selectorFrame ·) else [] := by
    rw [given, hall, List.drop_left]
  exact ⟨hgiven, hgiven ▸ hall⟩

theorem isLatest_append (m : Moment) (earlier later : List Moment) (rest : List Event) :
    isLatest m (earlier ++ later) rest = isLatest m earlier (later.map Moment.event ++ rest) := by
  rw [isLatest, isLatest, List.map_append, List.append_assoc]

theorem givenAmid_append (b : Batch) (earlier later : List Moment) (rest : List Event) :
    givenAmid b (earlier ++ later) rest =
      givenAmid b earlier (later.map Moment.event ++ rest) ++
        givenAmid (handleMoments b earlier (later.map Moment.event ++ rest)) later rest := by
  induction earlier generalizing b with
  | nil => rfl
  | cons m r ih =>
    rw [List.cons_append, givenAmid, givenAmid, handleMoments, isLatest_append, ih,
      List.append_assoc]

/-- Events that are not the last ones to open or close a socket have nothing sent. -/
theorem givenAmid_eq_nil (b : Batch) (moments : List Moment) (rest : List Event)
    (h : rest.any isTransition = true ∨ (moments.map Moment.event).any isTransition = false) :
    givenAmid b moments rest = [] := by
  induction moments generalizing b with
  | nil => rfl
  | cons m r ih =>
    have hlatest : isLatest m r rest = false := by
      rcases h with hrest | hnone
      · simp [isLatest, hrest]
      · rw [List.map_cons, List.any_cons, Bool.or_eq_false_iff] at hnone
        simp [isLatest, hnone.1]
    have hlater : rest.any isTransition = true ∨ (r.map Moment.event).any isTransition = false := by
      refine h.imp_right ?_
      intro hnone
      rw [List.map_cons, List.any_cons, Bool.or_eq_false_iff] at hnone
      exact hnone.2
    rw [givenAmid, (backlog_handleOne _ _ _).1, hlatest, ih _ hlater]
    simp

theorem lastQuery_handleMoments (b : Batch) (moments : List Moment) (rest : List Event) :
    (handleMoments b moments rest).session.lastQuery = b.session.lastQuery := by
  induction moments generalizing b with
  | nil => rfl
  | cons m r ih =>
    rw [handleMoments, ih, handleOne_session]
    rfl

/-- The session at the moment at which an event of its batch is handled. -/
def reached (s : Session) (earlier : List Moment) (m : Moment) (later : List Moment) : Session :=
  ((handleMoments { session := s } earlier (m.event :: later.map Moment.event)).enter m).session

theorem lastQuery_reached (s : Session) (earlier : List Moment) (m : Moment)
    (later : List Moment) : (s.reached earlier m later).lastQuery = s.lastQuery :=
  lastQuery_handleMoments { session := s } earlier _

/-- What is given for a whole batch is given for the last event that opens or closes a socket. -/
theorem givenAmid_of_latest (s : Session) (earlier later : List Moment) (m : Moment)
    (hm : isTransition m.event = true)
    (hlater : (later.map Moment.event).any isTransition = false) :
    givenAmid { session := s } (earlier ++ m :: later) [] =
      if m.event = .opened ∧ (s.reached earlier m later).connection.takes = true then
        s.lastQuery.toList.map (.send <| selectorFrame ·) else [] := by
  have hlatest : isLatest m later [] = true := by
    simp only [isLatest, List.append_nil, hm, hlater, Bool.not_false, Bool.and_self]
  have hrest : ((m :: later).map Moment.event ++ []).any isTransition = true := by
    simp [hm]
  have hreached : ((handleMoments { session := s } earlier ((m :: later).map Moment.event)).enter
      m).session = s.reached earlier m later := rfl
  rw [givenAmid_append, givenAmid_eq_nil _ earlier _ (.inl hrest), givenAmid, hlatest,
    givenAmid_eq_nil _ later [] (.inr hlater), List.nil_append, List.append_nil, List.append_nil,
    (backlog_handleOne _ _ _).1, hreached, lastQuery_reached]
  simp only [true_and]

/-- The last event of a batch that opens or closes a socket, unless there is none. -/
theorem exists_latest (moments : List Moment) :
    (moments.map Moment.event).any isTransition = false ∨
      ∃ earlier m later, moments = earlier ++ m :: later ∧ isTransition m.event = true ∧
        (later.map Moment.event).any isTransition = false := by
  induction moments using List.reverseRecOn with
  | nil => exact .inl rfl
  | append_singleton moments x ih =>
    cases hx : isTransition x.event with
    | true => exact .inr ⟨moments, x, [], rfl, hx, rfl⟩
    | false =>
      rcases ih with hnone | ⟨earlier, m, later, rfl, hm, hlater⟩
      · left
        simp [hnone, hx]
      · refine .inr ⟨earlier, m, later ++ [x], by simp, hm, ?_⟩
        simp [hlater, hx]

/-- A batch whose workers do nothing in between is handled as a whole. -/
theorem handleMoments_undisturbed (b : Batch) (moments : List Moment)
    (h : ∀ m ∈ moments, m.before = []) :
    handleMoments b moments [] = handleAll b (moments.map Moment.event) ∧
      (handleMoments b moments []).session.connection.backlog =
        b.session.connection.backlog ++ givenAmid b moments [] := by
  induction moments generalizing b with
  | nil => exact ⟨rfl, (List.append_nil _).symm⟩
  | cons m r ih =>
    have henter : b.enter m = b := by
      rw [Batch.enter, enter, h m List.mem_cons_self]
      rfl
    obtain ⟨hall, hbacklog⟩ := ih (handleOne b m.event (isLatest m r []))
      fun x hx => h x (List.mem_cons_of_mem _ hx)
    have hlatest : isLatest m r [] =
        (isTransition m.event && !(r.map Moment.event).any isTransition) := by
      rw [isLatest, List.append_nil]
    constructor
    · rw [handleMoments, henter, hall, List.map_cons, handleAll, hlatest]
    · rw [handleMoments, givenAmid, henter, hbacklog, (backlog_handleOne b _ _).2,
        List.append_assoc]

end Session

open Session

theorem any_isTransition_eq_false_iff (moments : List Moment) :
    (moments.map Moment.event).any isTransition = false ↔
      ∀ m ∈ moments, m.event ≠ .opened ∧ ∀ r, m.event ≠ .closed r := by
  have hone (e : Event) : isTransition e = false ↔ e ≠ .opened ∧ ∀ r, e ≠ .closed r := by
    cases e <;> simp [isTransition]
  rw [List.any_eq_false, List.forall_mem_map]
  refine forall₂_congr fun m _ => ?_
  rw [Bool.not_eq_true, hone]

theorem givenAmid_of_opened (s : Session) (earlier later : List Moment) (m : Moment) (q : String)
    (hm : m.event = .opened) (hlater : ∀ x ∈ later, x.event ≠ .opened ∧ ∀ r, x.event ≠ .closed r)
    (hq : s.lastQuery = some q) (htakes : (s.reached earlier m later).connection.takes = true) :
    givenAmid { session := s } (earlier ++ m :: later) [] = [.send (selectorFrame q)] := by
  have htransition : isTransition m.event = true := by
    rw [hm]
    rfl
  rw [givenAmid_of_latest s earlier later m htransition
    ((any_isTransition_eq_false_iff later).2 hlater), if_pos ⟨hm, htakes⟩, hq]
  rfl

/-- A batch has nothing sent unless its last word on sockets is one that opened. -/
theorem givenAmid_cases (s : Session) (moments : List Moment) :
    givenAmid { session := s } moments [] = [] ∨
      ∃ earlier m later q, moments = earlier ++ m :: later ∧ m.event = .opened ∧
        (∀ x ∈ later, x.event ≠ .opened ∧ ∀ r, x.event ≠ .closed r) ∧ s.lastQuery = some q ∧
        (s.reached earlier m later).connection.takes = true := by
  rcases exists_latest moments with hnone | ⟨earlier, m, later, rfl, hm, hlater⟩
  · exact .inl (givenAmid_eq_nil _ moments [] (.inr hnone))
  · have hquiet := (any_isTransition_eq_false_iff later).1 hlater
    by_cases hopen : m.event = .opened ∧ (s.reached earlier m later).connection.takes = true
    · cases hq : s.lastQuery with
      | none =>
        left
        rw [givenAmid_of_latest s earlier later m hm hlater, if_pos hopen, hq]
        rfl
      | some q => exact .inr ⟨earlier, m, later, q, rfl, hopen.1, hquiet, rfl, hopen.2⟩
    · left
      rw [givenAmid_of_latest s earlier later m hm hlater, if_neg hopen]

/-- However a batch looks and whatever the workers do while it is handled: it gives the attached
worker one command at most. It gives one exactly if the batch tells of a socket that opened and
tells after that of no other one and of no end, a selector is remembered, and at the moment at which
that event is handled there is a worker that takes commands; then the command is to send that
selector. The selector that is remembered stays the same. If the workers do nothing in between, the
command is all that is added to those that wait for the worker. -/
theorem selector_given_once (s : Session) (moments : List Moment) :
    let b := handleMoments { session := s } moments []
    let commands := givenAmid { session := s } moments []
    commands.length ≤ 1 ∧
    (∀ c, c ∈ commands ↔ ∃ earlier m later q, moments = earlier ++ m :: later ∧
      m.event = .opened ∧ (∀ x ∈ later, x.event ≠ .opened ∧ ∀ r, x.event ≠ .closed r) ∧
      s.lastQuery = some q ∧ (s.reached earlier m later).connection.takes = true ∧
      c = .send (selectorFrame q)) ∧
    b.session.lastQuery = s.lastQuery ∧
    ((∀ m ∈ moments, m.before = []) →
      b.session = (s.handleEvents (moments.map Moment.event)).2 ∧
      b.session.connection.backlog = s.connection.backlog ++ commands) := by
  intro b commands
  refine ⟨?_, ?_, lastQuery_handleMoments _ moments [], ?_⟩
  · change (givenAmid _ _ _).length ≤ 1
    rcases givenAmid_cases s moments with
      hnone | ⟨earlier, m, later, q, rfl, hm, hlater, hq, htakes⟩
    · rw [hnone]
      exact Nat.zero_le 1
    · rw [givenAmid_of_opened s earlier later m q hm hlater hq htakes]
      exact Nat.le_refl 1
  · intro c
    change c ∈ givenAmid _ _ _ ↔ _
    constructor
    · intro hc
      rcases givenAmid_cases s moments with
        hnone | ⟨earlier, m, later, q, rfl, hm, hlater, hq, htakes⟩
      · rw [hnone] at hc
        cases hc
      · rw [givenAmid_of_opened s earlier later m q hm hlater hq htakes, List.mem_singleton] at hc
        exact ⟨earlier, m, later, q, rfl, hm, hlater, hq, htakes, hc⟩
    · rintro ⟨earlier, m, later, q, rfl, hm, hlater, hq, htakes, rfl⟩
      rw [givenAmid_of_opened s earlier later m q hm hlater hq htakes]
      exact List.mem_singleton.2 rfl
  · intro hbefore
    obtain ⟨hall, hbacklog⟩ := handleMoments_undisturbed { session := s } moments hbefore
    exact ⟨congrArg Batch.session hall, hbacklog⟩

/-- The worker is there when the second socket opens. Had it ended by then, nothing would be
given. -/
theorem selector_given_once_of_four :
    let s := (Session.new (.new .disabled) .epoch 10).connect.queue "a"
    let refused : List Stir := [.step 0 .done, .step 0 (.failed "no"), .step 0 .done, .step 0 .done]
    let batch (before : List Stir) : List Moment :=
      [⟨[], .opened⟩, ⟨[], .closed .remote⟩, ⟨before, .opened⟩, ⟨refused, .error "broken"⟩]
    givenAmid { session := s } (batch []) [] = [.send (selectorFrame "a")] ∧
      givenAmid { session := s } (batch refused) [] = [] := by
  intro s refused batch
  have hquiet : ∀ x ∈ [(⟨refused, .error "broken"⟩ : Moment)],
      x.event ≠ .opened ∧ ∀ r, x.event ≠ .closed r := by
    simp
  have htakes : (s.reached [⟨[], .opened⟩, ⟨[], .closed .remote⟩] ⟨[], .opened⟩
      [⟨refused, .error "broken"⟩]).connection.takes = true := by decide +kernel
  obtain ⟨hlength, hmem, -⟩ := selector_given_once s (batch [])
  have hgiven := (hmem _).2 ⟨_, _, _, "a", rfl, rfl, hquiet, rfl, htakes, rfl⟩
  refine ⟨?_, by decide +kernel⟩
  obtain ⟨c, hc⟩ := List.length_eq_one_iff.1
    (Nat.le_antisymm hlength (List.length_pos_of_mem hgiven))
  rw [hc, List.mem_singleton] at hgiven
  rw [hc, hgiven]

end LiveTail
