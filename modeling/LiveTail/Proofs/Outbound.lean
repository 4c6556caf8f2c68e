import LiveTail.Proofs.Conduct
import LiveTail.Proofs.Shutdown
/-! What becomes of the commands that a worker has accepted. They are read in their order, by any of
its sockets or by a wait; a text is written to the socket that it was read for, and nothing is read
after a request to close. -/
namespace LiveTail

theorem texts_sublist {a b : List Command} (h : a <+: b) :
    (texts a).Sublist (texts b) := (h.filterMap Command.text?).sublist

namespace Tape

/-- The commands that the worker has read. -/
def taken (t : Tape) : List Command := t.filterMap Exchange.taken?

/-- The texts that the sockets have been given to send. -/
def given (t : Tape) : List String := t.filterMap Exchange.given?

@[simp] theorem taken_nil : taken [] = [] := rfl

@[simp] theorem taken_append (t u : Tape) : taken (t ++ u) = taken t ++ taken u :=
  List.filterMap_append

theorem taken_cons (x : Exchange) (t : Tape) : taken (x :: t) = x.taken?.toList ++ taken t := by
  cases h : x.taken? <;> simp [taken, h]

@[simp] theorem taken_concat (t : Tape) (x : Exchange) :
    taken (t ++ [x]) = taken t ++ x.taken?.toList := by
  rw [taken_append, taken_cons, taken_nil, List.append_nil]

@[simp] theorem given_concat (t : Tape) (x : Exchange) :
    given (t ++ [x]) = given t ++ x.given?.toList := by
  cases h : x.given? <;> simp [given, h]

/-- Only calls of a socket give it a text. -/
theorem given_filter_onSocket (t : Tape) : given (t.filter Exchange.onSocket) = given t := by
  rw [given, List.filterMap_filter, given]
  apply List.filterMap_congr
  intro x _
  cases hx : x.onSocket with
  | true => rfl
  | false =>
    obtain ⟨call, reply⟩ := x
    cases call <;> first | rfl | cases hx

end Tape

namespace Worker

theorem Turn.taken_of_parts {w w' : Worker} {x : Exchange} (h : w.Turn x w')
    (hw : w.parts = true) : x.taken? = none := by
  cases h <;> first | rfl | cases hw

/-- As long as a socket serves, each command that is read for it is a text, and it is given that
text next. -/
theorem Turn.taken_eq {w w' : Worker} {x : Exchange} (h : w.Turn x w') (hw : w.talks = true)
    (hw' : w'.talks = true) : x.call ≠ .close ∧
      w.inHand.map Command.send ++ x.taken?.toList =
        (x.given?.toList ++ w'.inHand).map Command.send := by
  cases h <;> simp [talks, inHand, Exchange.taken?, Exchange.given?] at hw hw' ⊢

theorem Turn.phase_of_close {w w' : Worker} {x : Exchange} (h : w.Turn x w')
    (hx : x = ⟨.poll, .command .close⟩) : w.phase = .polling := by
  cases h <;> first | rfl | cases hx

end Worker

namespace Line

/-- The command that a move adds to the queue of the worker. A worker that is gone accepts none. -/
def accepts? (l : Line) : Move → Option Command
  | .give c => if l.link.worker.isGone then none else some c
  | .detach => if l.link.worker.isGone then none else some .close
  | _ => none

/-- The commands that the worker accepts in the course of some moves. -/
def accepted (l : Line) : List Move → List Command
  | [] => []
  | m :: r => (l.accepts? m).toList ++ (l.move m).accepted r

theorem accepted_concat (l : Line) (moves : List Move) (m : Move) :
    l.accepted (moves ++ [m]) = l.accepted moves ++ ((l.run moves).accepts? m).toList := by
  induction moves generalizing l with
  | nil => simp [accepted, run]
  | cons n r ih => simp [accepted, ih, run]

theorem commands_accepts (l : Line) (m : Move) (h : ∀ o, m ≠ .step o) :
    (l.move m).link.commands = l.link.commands ++ (l.accepts? m).toList := by
  cases m with
  | step o => exact absurd rfl (h o)
  | give c | detach =>
    cases hg : l.link.worker.isGone <;> simp [move, accepts?, Link.detach, Link.give, hg]
  | _ => exact (List.append_nil _).symm

/-- How a worker stands with the commands that it has accepted. Those that it has not read wait in
its queue, unless it is gone; and it has read nothing after a request to close. -/
structure Served (accepted : List Command) (l : Line) : Prop where
  waiting : l.link.worker.isGone = false → accepted = Tape.taken l.tape ++ l.link.commands
  taken : Tape.taken l.tape <+: accepted
  given : (Tape.given l.tape ++ l.link.worker.inHand).Sublist (texts (Tape.taken l.tape))
  parting : .close ∈ Tape.taken l.tape → l.link.worker.parts = true
  once : .close ∉ (Tape.taken l.tape).dropLast

theorem served_start (serial : Nat) (policy : ReconnectPolicy) :
    Served [] (start serial policy) :=
  ⟨fun _ => rfl, List.nil_prefix, List.Sublist.slnil, fun h => (nomatch h), by simp [start]⟩

theorem Served.quiet {accepted : List Command} {l : Line} (h : Served accepted l) (m : Move)
    (hm : ∀ o, m ≠ .step o) : Served (accepted ++ (l.accepts? m).toList) (l.move m) := by
  obtain ⟨hw, ht⟩ := l.move_quiet m hm
  constructor
  case waiting =>
    rw [hw, ht, l.commands_accepts m hm, ← List.append_assoc]
    exact fun hg => congrArg (· ++ _) (h.waiting hg)
  case taken =>
    rw [ht]
    exact h.taken.trans (List.prefix_append _ _)
  case given =>
    rw [hw, ht]
    exact h.given
  case parting =>
    rw [hw, ht]
    exact h.parting
  case once =>
    rw [ht]
    exact h.once

theorem Served.advance {accepted : List Command} {l l' : Line} {x : Exchange}
    (h : Served accepted l) (hx : l.Advance x l') : Served accepted l' := by
  obtain ⟨rest, hc, hc'⟩ := hx.commands
  have hall : accepted = Tape.taken l'.tape ++ rest := by
    rw [hx.tape, Tape.taken_concat, List.append_assoc, ← hc]
    exact h.waiting hx.turn.isGone_eq_false
  -- a worker that reads a command has not been asked to close before
  have hopen : x.taken? ≠ none → .close ∉ Tape.taken l.tape := fun hread hmem =>
    hread (hx.turn.taken_of_parts (h.parting hmem))
  constructor
  case waiting =>
    intro hg
    rw [hc', hg, if_neg Bool.false_ne_true]
    exact hall
  case taken => exact ⟨rest, hall.symm⟩
  case given =>
    rw [hx.tape, Tape.given_concat, Tape.taken_concat, texts_append, List.append_assoc]
    refine (hx.turn.given_sublist.append_left _).trans ?_
    rw [← List.append_assoc]
    exact h.given.append_right _
  case parting =>
    rw [hx.tape, Tape.taken_concat, List.mem_append]
    rintro (hold | hnew)
    · exact hx.turn.parts_of_parts (h.parting hold)
    · exact hx.turn.parts_of_close (Option.mem_toList.1 hnew)
  case once =>
    rw [hx.tape, Tape.taken_concat]
    cases hread : x.taken? with
    | none =>
      rw [Option.toList_none, List.append_nil]
      exact h.once
    | some c =>
      rw [Option.toList_some, List.dropLast_concat]
      exact hopen (by simp [hread])

theorem served_run (serial : Nat) (policy : ReconnectPolicy) (moves : List Move) :
    Served ((start serial policy).accepted moves) ((start serial policy).run moves) := by
  induction moves using List.reverseRecOn with
  | nil => exact served_start serial policy
  | append_singleton moves m ih =>
    rw [run_concat, accepted_concat]
    by_cases hm : ∃ o, m = .step o
    · obtain ⟨o, rfl⟩ := hm
      rw [show ((start serial policy).run moves).accepts? (.step o) = none from rfl,
        Option.toList_none, List.append_nil]
      rcases step_cases ((start serial policy).run moves) o with hsame | ⟨x, hx⟩
      · rwa [hsame]
      · exact ih.advance hx
    · exact ih.quiet m fun o ho => hm ⟨o, ho⟩

/-- What was accepted after a request to close is not read. -/
theorem Served.taken_prefix_close {earlier later : List Command} {l : Line}
    (h : Served (earlier ++ .close :: later) l) : Tape.taken l.tape <+: earlier ++ [.close] := by
  have hclose : earlier ++ [.close] <+: earlier ++ .close :: later := ⟨later, by simp⟩
  rcases List.prefix_or_prefix_of_prefix h.taken hclose with hshort | ⟨beyond, hlong⟩
  · exact hshort
  · by_cases hb : beyond = []
    · exact ⟨[], by rw [← hlong, hb, List.append_nil, List.append_nil]⟩
    · -- the request would have been read before the last command
      have hinit : (Tape.taken l.tape).dropLast = earlier ++ [.close] ++ beyond.dropLast := by
        rw [← hlong, List.dropLast_append_of_ne_nil hb]
      exact absurd (by simp [hinit]) h.once

/-- All that has been read since the present socket opened are texts that it was given, and perhaps
one that it is given next. -/
def Serving (l : Line) : Prop :=
  l.link.worker.talks = true → ∀ before during,
    l.tape = before ++ ⟨.connect, .opened⟩ :: during → ⟨.connect, .opened⟩ ∉ during →
    (∀ x ∈ during, x.call ≠ .close) ∧
      Tape.taken during = (Tape.given during ++ l.link.worker.inHand).map Command.send

theorem Serving.advance {l l' : Line} {x : Exchange} (h : l.Serving) (hx : l.Advance x l') :
    l'.Serving := by
  intro htalks' before during ht hnone
  rw [hx.tape] at ht
  rcases List.eq_nil_or_concat' during with rfl | ⟨during, y, rfl⟩
  · -- the socket has just been opened
    have hopen : x = ⟨.connect, .opened⟩ := List.singleton_injective (List.append_inj' ht rfl).2
    have hphase := (hx.turn.phases_of_connected hopen).2
    simp [Tape.given, Worker.inHand, hphase]
  · rw [← List.cons_append, ← List.append_assoc] at ht
    obtain ⟨htape, hxy⟩ := List.append_inj' ht rfl
    obtain rfl : x = y := List.singleton_injective hxy
    rw [List.mem_append, List.mem_singleton, not_or] at hnone
    rcases hx.turn.talks_cases htalks' with hopen | ⟨htalks, -⟩
    · exact absurd hopen.symm hnone.2
    · obtain ⟨hclose, heq⟩ := hx.turn.taken_eq htalks htalks'
      obtain ⟨hcloses, hall⟩ := h htalks before during htape hnone.1
      constructor
      · intro z hz
        rcases List.mem_append.1 hz with hz | hz
        · exact hcloses z hz
        · rwa [List.mem_singleton.1 hz]
      · rw [Tape.taken_concat, Tape.given_concat, hall, List.map_append, List.append_assoc, heq,
          ← List.map_append, List.append_assoc]

theorem serving_run (serial : Nat) (policy : ReconnectPolicy) (moves : List Move) :
    ((start serial policy).run moves).Serving := by
  refine run_induction _ ?_ ?_ (fun _ _ _ hx h => h.advance hx) moves
  · intro htalks
    cases htalks
  · intro l m hm h
    obtain ⟨hw, ht⟩ := l.move_quiet m hm
    rw [Serving, hw, ht]
    exact h

end Line

/-- In every run of a worker, over all its sockets: the texts that they are given, socket by socket,
are a subsequence of those that were accepted. A socket that is closed on request is given all that
was accepted before the request and had not been read when the socket opened, and only then is it
closed. What is accepted after a request to close is not read, so no socket is given it. -/
theorem texts_given_in_order (serial : Nat) (policy : ReconnectPolicy) (moves : List Move)
    (l : Line) (hl : l = (Line.start serial policy).run moves) (accepted : List Command)
    (ha : accepted = (Line.start serial policy).accepted moves) :
    ((Tape.visits l.tape).reverse.flatMap Tape.given).Sublist (texts accepted) ∧
    (∀ before during after, l.tape =
        before ++ ⟨.connect, .opened⟩ :: (during ++ ⟨.poll, .command .close⟩ :: after) →
      ⟨.connect, .opened⟩ ∉ during →
      (∀ x ∈ during, x.call ≠ .close) ∧ ∃ later, accepted =
        Tape.taken before ++ (Tape.given during).map .send ++ .close :: later) ∧
    ∀ earlier later, accepted = earlier ++ .close :: later →
      Tape.taken l.tape <+: earlier ++ [.close] ∧
      ((Tape.visits l.tape).reverse.flatMap Tape.given).Sublist (texts earlier) := by
  subst hl ha
  have hserved := Line.served_run serial policy moves
  have hgiven : (Tape.visits ((Line.start serial policy).run moves).tape).reverse.flatMap
      Tape.given = Tape.given ((Line.start serial policy).run moves).tape := by
    rw [← Tape.given_filter_onSocket, ← Line.visits_flatten, Tape.given, List.filterMap_flatten,
      List.flatMap]
    rfl
  have htexts := (List.sublist_append_left _ _).trans hserved.given
  rw [hgiven]
  refine ⟨htexts.trans (texts_sublist hserved.taken), ?_, ?_⟩
  · intro before during after ht hnone
    rw [← List.cons_append, ← List.append_assoc] at ht
    obtain ⟨before', l', htape, hx⟩ := Line.exists_advance serial policy moves _ _ _ ht
    have hphase := hx.turn.phase_of_close rfl
    obtain ⟨hcloses, hread⟩ := Line.serving_run serial policy before'
      (by simp [Worker.talks, hphase]) before during htape hnone
    rw [Worker.inHand, hphase, List.append_nil] at hread
    obtain ⟨later, hlater⟩ := hserved.taken
    refine ⟨hcloses, Tape.taken after ++ later, ?_⟩
    rw [← hlater, ht]
    simp [Tape.taken_cons, Exchange.taken?, hread]
  · intro earlier later hclose
    rw [hclose] at hserved
    have htaken := hserved.taken_prefix_close
    have hsub := texts_sublist htaken
    rw [texts_append, show texts [.close] = [] from rfl, List.append_nil] at hsub
    exact ⟨htaken, htexts.trans hsub⟩

/-- The first socket fails on the first text, and the request to close comes between the third text
and the fourth. -/
theorem texts_given_in_order_of_two :
    let policy := ReconnectPolicy.withBackoff (.ofMillis 500) (.ofMillis 500)
    let first : List Move := [.step .done, .step .opened, .step .done, .give (.send "a"),
      .give (.send "b"), .step .nothing, .step (.failed "reset"), .step .done, .step .done,
      .step .done, .step .elapsed, .step .done]
    let second : List Move := [.step .opened, .step .done, .give (.send "c"), .give .close,
      .give (.send "d"), .step .nothing, .step .done, .step .nothing, .step .done, .step .nothing,
      .step .done]
    let l := (Line.start 0 policy).run (first ++ second)
    let accepted : List Command := [.send "a", .send "b", .send "c", .close, .send "d"]
    (Line.start 0 policy).accepted (first ++ second) = accepted ∧
      (Tape.visits l.tape).map Tape.given = [["b", "c"], ["a"]] ∧
      ((Tape.visits l.tape).reverse.flatMap Tape.given).Sublist (texts [.send "a", .send "b",
        .send "c"]) ∧
      ∃ later, accepted = [.send "a"] ++ ["b", "c"].map .send ++ .close :: later := by
  intro policy first second l accepted
  have ha : (Line.start 0 policy).accepted (first ++ second) = accepted := by decide +kernel
  let before := ((Line.start 0 policy).run first).tape
  let during : Tape := [⟨.post .opened, .done⟩, ⟨.poll, .command (.send "b")⟩, ⟨.send "b", .done⟩,
    ⟨.poll, .command (.send "c")⟩, ⟨.send "c", .done⟩]
  have ht : l.tape = before ++ ⟨.connect, .opened⟩ ::
      (during ++ ⟨.poll, .command .close⟩ :: [⟨.close, .done⟩]) := by decide +kernel
  obtain ⟨-, hclosed, hbeyond⟩ :=
    texts_given_in_order 0 policy (first ++ second) l rfl accepted ha.symm
  have htaken : Tape.taken before = [.send "a"] := by decide +kernel
  have hall := (hclosed before during _ ht (by decide +kernel)).2
  rw [htaken] at hall
  exact ⟨ha, by decide +kernel, (hbeyond [.send "a", .send "b", .send "c"] _ rfl).2, hall⟩

end LiveTail
