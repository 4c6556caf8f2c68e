import LiveTail.Proofs.Line
import Mathlib.Data.List.Induction
/-! The grammar of the events that a worker posts: attempts one after the other, each with its
number, and at the end perhaps word that it was told to stop while it waited. The numbers have no
bound, but none is greater than how many attempts have been announced by then. -/
namespace LiveTail

/-- The event that a worker posts, whether it is heard or not. -/
def Exchange.said? : Exchange → Option Event
  | ⟨.post e, _⟩ => some e
  | _ => none

def Tape.said (t : Tape) : List Event := t.filterMap Exchange.said?

@[simp] theorem Tape.said_concat (t : Tape) (x : Exchange) :
    said (t ++ [x]) = said t ++ x.said?.toList := by
  cases h : x.said? <;> simp [said, h]

/-- The number of the attempt that an event announces. -/
def Event.attempt? : Event → Option Nat
  | .connecting k => some k
  | _ => none

/-- The numbers of the attempts whose announcement was heard. -/
def Tape.numbers (t : Tape) : List Nat := t.posted.filterMap Event.attempt?

theorem Tape.numbers_concat (t : Tape) (x : Exchange) :
    numbers (t ++ [x]) = numbers t ++ (x.posted?.bind Event.attempt?).toList := by
  rw [numbers, posted_concat, List.filterMap_append, numbers]
  cases hx : x.posted? with
  | none => rfl
  | some e => cases he : e.attempt? <;> simp [he]

/-- How an open socket ends. -/
inductive Ending where
  | here
  | remote
  | failed (message : String)
  deriving DecidableEq, Repr

namespace Ending

def events : Ending → List Event
  | here => [.closed .here]
  | remote => [.closed .remote]
  | failed m => [.error m, .closed .failed]

def reason : Ending → CloseReason
  | here => .here
  | remote => .remote
  | failed _ => .failed

end Ending

/-- An attempt: the connector refuses, or a socket opens, brings frames and ends. -/
inductive Attempt where
  | refused (message : String)
  | opened (texts : List String) (ending : Ending)
  deriving DecidableEq, Repr

namespace Attempt

def events (k : Nat) : Attempt → List Event
  | refused m => [.connecting k, .error m, .closed .failed]
  | opened texts e => .connecting k :: .opened :: texts.map .frame ++ e.events

def reason : Attempt → CloseReason
  | refused _ => .failed
  | opened _ e => e.reason

/-- The number of the attempt after one of a number: one more than that, until an attempt opens. -/
def next (k : Nat) : Attempt → Nat
  | refused _ => k + 1
  | opened _ _ => 1

def Again (enabled : Bool) (a : Attempt) : Prop := enabled = true ∧ a.reason ≠ .here

/-- The number of the attempt that comes after others, of which the first has number 1. -/
def number (attempts : List Attempt) : Nat := attempts.foldl next 1

/-- The events of attempts one after the other. -/
def numbered (k : Nat) : List Attempt → List Event
  | [] => []
  | a :: r => a.events k ++ numbered (a.next k) r

theorem numbered_concat (attempts : List Attempt) (a : Attempt) :
    numbered 1 (attempts ++ [a]) = numbered 1 attempts ++ a.events (number attempts) := by
  suffices h : ∀ k, numbered k (attempts ++ [a]) =
      numbered k attempts ++ a.events (attempts.foldl next k) from h 1
  induction attempts with
  | nil => simp [numbered]
  | cons b r ih => simp [numbered, ih]

@[simp] theorem number_concat (attempts : List Attempt) (a : Attempt) :
    number (attempts ++ [a]) = a.next (number attempts) := by
  simp [number]

end Attempt

open Attempt

/-- The words that a worker may say: one attempt or more, each but the last one such that another
may follow; and if one may follow the last one as well, perhaps that it stopped instead. -/
inductive IsWord (enabled : Bool) : List Event → Prop where
  | ended (earlier : List Attempt) (last : Attempt) (h : ∀ a ∈ earlier, a.Again enabled) :
      IsWord enabled (numbered 1 (earlier ++ [last]))
  | stopped (earlier : List Attempt) (last : Attempt) (h : ∀ a ∈ earlier, a.Again enabled)
      (hl : last.Again enabled) :
      IsWord enabled (numbered 1 (earlier ++ [last]) ++ [.closed .here])

/-- What a worker has said by the time it is in a phase. -/
def Stage (heard : Bool) (said : List Event) (w : Worker) : Prop :=
  match w.phase with
  | .announcing => ∃ earlier : List Attempt, (∀ a ∈ earlier, a.Again w.policy.enabled) ∧
      said = numbered 1 earlier ∧ w.attempt + 1 = number earlier
  | .connecting | .refused _ => ∃ earlier : List Attempt,
      (∀ a ∈ earlier, a.Again w.policy.enabled) ∧
      said = numbered 1 earlier ++ [.connecting (number earlier)] ∧ w.attempt = number earlier
  | .opening => ∃ earlier : List Attempt, (∀ a ∈ earlier, a.Again w.policy.enabled) ∧
      said = numbered 1 earlier ++ [.connecting (number earlier)] ∧ w.attempt = 0
  | .polling | .sending _ | .receiving | .forwarding _ | .breaking _ =>
      ∃ (earlier : List Attempt) (texts : List String),
      (∀ a ∈ earlier, a.Again w.policy.enabled) ∧
      said = numbered 1 earlier ++ .connecting (number earlier) :: .opened :: texts.map .frame ∧
      w.attempt = 0
  | .hangingUp r | .ended r => ∃ (earlier : List Attempt) (last : Attempt),
      (∀ a ∈ earlier, a.Again w.policy.enabled) ∧ last.reason = r ∧
      said ++ [.closed r] = numbered 1 (earlier ++ [last]) ∧
      w.attempt + 1 = number (earlier ++ [last])
  | .waiting | .stopping => ∃ (earlier : List Attempt) (last : Attempt),
      (∀ a ∈ earlier ++ [last], a.Again w.policy.enabled) ∧
      said = numbered 1 (earlier ++ [last]) ∧
      w.attempt + 1 = number (earlier ++ [last])
  | .gone => (∃ word, IsWord w.policy.enabled word ∧ said <+: word) ∧
      (heard = true → IsWord w.policy.enabled said)

/-- What a worker has said can be completed in every phase: an attempt that is under way fails, and
a socket that is open is closed. -/
theorem Stage.isPrefix {heard : Bool} {said : List Event} {w : Worker} (h : Stage heard said w) :
    ∃ word, IsWord w.policy.enabled word ∧ said <+: word := by
  obtain ⟨p, phase, n, b⟩ := w
  cases phase with
  | announcing =>
    obtain ⟨earlier, ha, rfl, -⟩ := h
    refine ⟨_, .ended earlier (.refused "") ha, ?_⟩
    rw [numbered_concat]
    exact List.prefix_append _ _
  | connecting | refused | opening =>
    obtain ⟨earlier, ha, rfl, -⟩ := h
    refine ⟨_, .ended earlier (.refused "") ha, ?_⟩
    rw [numbered_concat, List.prefix_append_right_inj]
    exact ⟨_, rfl⟩
  | polling | sending | receiving | forwarding | breaking =>
    obtain ⟨earlier, texts, ha, rfl, -⟩ := h
    refine ⟨_, .ended earlier (.opened texts .here) ha, ?_⟩
    rw [numbered_concat, List.prefix_append_right_inj]
    exact ⟨_, rfl⟩
  | hangingUp r | ended r =>
    obtain ⟨earlier, last, ha, -, hs, -⟩ := h
    exact ⟨_, .ended earlier last ha, hs ▸ List.prefix_append _ _⟩
  | waiting | stopping =>
    obtain ⟨earlier, last, ha, rfl, -⟩ := h
    exact ⟨_, .ended earlier last fun a hm => ha a (List.mem_append_left _ hm), List.prefix_refl _⟩
  | gone => exact h.1

/-- A turn takes what a worker has said to the next phase, if the worker is heard or goes on all the
same. -/
theorem Stage.turn {heard : Bool} {said : List Event} {w w' : Worker} {x : Exchange}
    (h : Stage heard said w) (hx : w.Turn x w') (hl : x.reply = .lost → w'.isGone = false) :
    Stage heard (said ++ x.said?.toList) w' := by
  cases hx with
  -- the attempt gets its number
  | announced p n b =>
    obtain ⟨earlier, ha, rfl, hn⟩ := h
    exact ⟨earlier, ha, by rw [← hn]; rfl, hn⟩
  | opened p n b =>
    obtain ⟨earlier, ha, rfl, -⟩ := h
    exact ⟨earlier, ha, List.append_nil _, rfl⟩
  | refused p n b m =>
    obtain ⟨earlier, ha, rfl, hn⟩ := h
    exact ⟨earlier, ha, List.append_nil _, hn⟩
  | entered p n b =>
    obtain ⟨earlier, ha, rfl, hn⟩ := h
    exact ⟨earlier, [], ha, List.append_assoc _ _ _, hn⟩
  | excused p n b m =>
    obtain ⟨earlier, ha, rfl, hn⟩ := h
    refine ⟨earlier, .refused m, ha, rfl, ?_, ?_⟩
    · rw [numbered_concat, List.append_assoc, List.append_assoc]
      rfl
    · rw [number_concat, ← hn]
      rfl
  -- turns that say nothing while the socket is open
  | picked p n b t | polled p n b | sent p n b t | unsent p n b t m | received p n b f | idled p n b
  | broke p n b m =>
    obtain ⟨earlier, texts, ha, rfl, hn⟩ := h
    exact ⟨earlier, texts, ha, List.append_nil _, hn⟩
  -- the end of the socket completes the attempt, and the next one has number 1
  | toldToClose p n b | leftAlone p n b =>
    obtain ⟨earlier, texts, ha, rfl, rfl⟩ := h
    refine ⟨earlier, .opened texts .here, ha, rfl, ?_, by rw [number_concat]; rfl⟩
    rw [numbered_concat]
    simp [Exchange.said?, Attempt.events, Ending.events]
  | closedBeyond p n b =>
    obtain ⟨earlier, texts, ha, rfl, rfl⟩ := h
    refine ⟨earlier, .opened texts .remote, ha, rfl, ?_, by rw [number_concat]; rfl⟩
    rw [numbered_concat]
    simp [Exchange.said?, Attempt.events, Ending.events]
  | forwarded p n b f =>
    obtain ⟨earlier, texts, ha, rfl, hn⟩ := h
    exact ⟨earlier, texts ++ [f], ha, by simp [Exchange.said?], hn⟩
  | unheardFrame p n b f =>
    obtain ⟨earlier, texts, ha, rfl, rfl⟩ := h
    refine ⟨earlier, .opened (texts ++ [f]) .here, ha, rfl, ?_, by rw [number_concat]; rfl⟩
    rw [numbered_concat]
    simp [Exchange.said?, Attempt.events, Ending.events]
  | complained p n b m | unheardError p n b m =>
    obtain ⟨earlier, texts, ha, rfl, rfl⟩ := h
    refine ⟨earlier, .opened texts (.failed m), ha, rfl, ?_, by rw [number_concat]; rfl⟩
    rw [numbered_concat]
    simp [Exchange.said?, Attempt.events, Ending.events]
  -- the reason tells whether this attempt is the last one
  | hungUp p n b r =>
    obtain ⟨earlier, last, ha, hr, hs, hn⟩ := h
    exact ⟨earlier, last, ha, hr, by rw [← hs]; simp [Exchange.said?], hn⟩
  | paused p n b r on again =>
    obtain ⟨earlier, last, ha, rfl, hs, hn⟩ := h
    refine ⟨earlier, last, ?_, hs, hn⟩
    intro a hm
    rcases List.mem_append.1 hm with hm | hm
    · exact ha a hm
    · rw [List.mem_singleton.1 hm]
      exact ⟨on, again⟩
  | finished p n b r last =>
    obtain ⟨earlier, last, ha, -, hs, -⟩ := h
    have hw : IsWord p.enabled (said ++ [.closed r]) := hs ▸ .ended earlier last ha
    exact ⟨⟨_, hw, List.prefix_refl _⟩, fun _ => hw⟩
  | elapsed p n b =>
    obtain ⟨earlier, last, ha, rfl, hn⟩ := h
    exact ⟨earlier ++ [last], ha, List.append_nil _, hn⟩
  | dropped p n b t | toldToStop p n b | leftWaiting p n b =>
    obtain ⟨earlier, last, ha, rfl, hn⟩ := h
    exact ⟨earlier, last, ha, List.append_nil _, hn⟩
  | stopped p n b =>
    obtain ⟨earlier, last, ha, rfl, -⟩ := h
    have hw := IsWord.stopped earlier last (fun a hm => ha a (List.mem_append_left _ hm))
      (ha last (List.mem_append_right _ List.mem_cons_self))
    exact ⟨⟨_, hw, List.prefix_refl _⟩, fun _ => hw⟩
  | unheardAttempt | unheardOpen | unheardRefusal | unheardEnd | unheardStop =>
    exact absurd (hl rfl) (by simp [Worker.isGone])

/-- A worker that ends since nobody hears it has said what it would have said anyway. -/
theorem Stage.turn_unheard {heard : Bool} {said : List Event} {w w' : Worker} {x : Exchange}
    (h : Stage heard said w) (hx : w.Turn x w') (hl : x.reply = .lost) (hg : w'.isGone = true) :
    ∃ word, IsWord w'.policy.enabled word ∧ said ++ x.said?.toList <+: word := by
  cases hx with
  | unheardAttempt p n b => exact (h.turn (.announced p n b) (by simp)).isPrefix
  | unheardOpen p n b => exact (h.turn (.entered p n b) (by simp)).isPrefix
  | unheardRefusal p n b m => exact (h.turn (.excused p n b m) (by simp)).isPrefix
  | unheardEnd p n b r =>
    obtain ⟨earlier, last, ha, -, hs, -⟩ := h
    exact ⟨_, .ended earlier last ha, hs ▸ List.prefix_refl _⟩
  | unheardStop p n b => exact (h.turn (.stopped p n b) (by simp)).isPrefix
  | unheardFrame | unheardError => cases hg
  | _ => cases hl

theorem stage_of_gone {heard : Bool} {said : List Event} {w : Worker} (h : w.isGone = true) :
    Stage heard said w ↔ (∃ word, IsWord w.policy.enabled word ∧ said <+: word) ∧
      (heard = true → IsWord w.policy.enabled said) := by
  obtain ⟨p, phase, n, b⟩ := w
  obtain rfl : phase = .gone := by simpa [Worker.isGone] using h
  exact Iff.rfl

theorem Stage.mono {heard heard' : Bool} {said : List Event} {w : Worker} (h : Stage heard said w)
    (hh : heard' = true → heard = true) : Stage heard' said w := by
  obtain ⟨p, phase, n, b⟩ := w
  cases phase with
  | gone => exact ⟨h.1, fun h' => h.2 (hh h')⟩
  | _ => exact h

/-- A turn counts on by at most one, and then the new number is announced. -/
theorem Worker.Turn.attempt_cases {w w' : Worker} {x : Exchange} (h : w.Turn x w') :
    x.posted?.bind Event.attempt? = none ∧ w'.attempt ≤ w.attempt ∨
      x.posted?.bind Event.attempt? = some (w.attempt + 1) ∧ w'.attempt = w.attempt + 1 := by
  cases h with
  | announced p n b => exact .inr ⟨rfl, rfl⟩
  | opened p n b => exact .inl ⟨rfl, Nat.zero_le n⟩
  | _ => exact .inl ⟨rfl, Nat.le_refl _⟩

/-- What is kept on a line: the worker keeps its policy and to the grammar, and what has been heard
of it is all that it has said, up to the moment when nobody listened any more. It counts no further
than it has announced attempts. -/
structure Spoken (policy : ReconnectPolicy) (l : Line) : Prop where
  policy : l.link.worker.policy = policy
  stage : Stage l.link.heard (Tape.said l.tape) l.link.worker
  posted : Tape.posted l.tape <+: Tape.said l.tape
  all : l.link.heard = true → Tape.posted l.tape = Tape.said l.tape
  attempt : l.link.worker.attempt ≤ (Tape.numbers l.tape).length
  numbers : ∀ k ∈ Tape.numbers l.tape, k ≤ (Tape.numbers l.tape).length

theorem spoken_start (serial : Nat) (policy : ReconnectPolicy) :
    Spoken policy (.start serial policy) :=
  ⟨rfl, ⟨[], by simp, rfl, rfl⟩, List.prefix_refl _, fun _ => rfl, Nat.le_refl 0, by
    intro k hk
    cases hk⟩

theorem Spoken.advance {policy : ReconnectPolicy} {l l' : Line} {x : Exchange}
    (h : Spoken policy l) (hx : l.Advance x l') : Spoken policy l' := by
  have hposted : x.posted? = if l.link.heard then x.said? else none := by
    have hp := hx.posts
    obtain ⟨call, reply⟩ := x
    cases call with
    | post e =>
      obtain rfl : reply = _ := hp e rfl
      cases l.link.heard <;> rfl
    | _ => exact (ite_self none).symm
  have hstage : Stage l.link.heard (Tape.said l.tape ++ x.said?.toList) l'.link.worker := by
    by_cases hl : x.reply = .lost ∧ l'.link.worker.isGone = true
    · refine (stage_of_gone hl.2).2 ⟨h.stage.turn_unheard hx.turn hl.1 hl.2, fun hh => ?_⟩
      exact absurd hl.1 (hx.reply_ne_lost hh)
    · exact h.stage.turn hx.turn fun hr => by simpa using fun hg => hl ⟨hr, hg⟩
  have hattempt := h.attempt
  have hcount : l'.link.worker.attempt ≤ (Tape.numbers l'.tape).length ∧
      ∀ k ∈ Tape.numbers l'.tape, k ≤ (Tape.numbers l'.tape).length := by
    rw [hx.tape, Tape.numbers_concat]
    rcases hx.turn.attempt_cases with ⟨hnone, hle⟩ | ⟨hsome, heq⟩
    · rw [hnone, Option.toList_none, List.append_nil]
      exact ⟨Nat.le_trans hle hattempt, h.numbers⟩
    · rw [hsome, Option.toList_some, List.length_append, List.length_singleton]
      refine ⟨by omega, ?_⟩
      intro k hk
      rcases List.mem_append.1 hk with hold | hnew
      · have hle := h.numbers k hold
        omega
      · rw [List.mem_singleton.1 hnew]
        omega
  refine ⟨hx.turn.policy_eq.trans h.policy, ?_, ?_, ?_, hcount.1, hcount.2⟩
  · rw [hx.heard, hx.tape, Tape.said_concat]
    exact hstage
  · rw [hx.tape, Tape.said_concat, Tape.posted_concat, hposted]
    cases hh : l.link.heard with
    | true =>
      rw [h.all hh]
      exact List.prefix_refl _
    | false =>
      simp only [Bool.false_eq_true, if_false, Option.toList_none, List.append_nil]
      exact h.posted.trans (List.prefix_append _ _)
  · intro hh
    rw [hx.heard] at hh
    rw [hx.tape, Tape.said_concat, Tape.posted_concat, hposted, h.all hh, hh, if_pos rfl]

theorem Spoken.move {policy : ReconnectPolicy} {l : Line} (h : Spoken policy l) (m : Move) :
    Spoken policy (l.move m) := by
  by_cases hm : ∃ o, m = .step o
  · obtain ⟨o, rfl⟩ := hm
    rcases l.step_cases o with hm | ⟨x, hx⟩
    · rwa [hm]
    · exact h.advance hx
  · obtain ⟨hw, ht⟩ := l.move_quiet m fun o ho => hm ⟨o, ho⟩
    have hh := l.heard_of_move m
    refine ⟨hw ▸ h.policy, ?_, ?_, ?_, ?_, ?_⟩
    · rw [hw, ht]
      exact h.stage.mono hh
    · rw [ht]
      exact h.posted
    · intro hh'
      rw [ht]
      exact h.all (hh hh')
    · rw [hw, ht]
      exact h.attempt
    · rw [ht]
      exact h.numbers

theorem spoken_run (serial : Nat) (policy : ReconnectPolicy) (moves : List Move) :
    Spoken policy ((Line.start serial policy).run moves) := by
  induction moves using List.reverseRecOn with
  | nil => exact spoken_start serial policy
  | append_singleton moves m ih =>
    rw [Line.run_concat]
    exact ih.move m

end LiveTail
