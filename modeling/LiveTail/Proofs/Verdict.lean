import LiveTail.Proofs.Milliseconds
import LiveTail.Proofs.Nesting
import LiveTail.Protocol.Message
/-! What a frame says: the messages that there are, each with what its members have to hold, and the
reason why any other text is none of them. -/
namespace LiveTail

namespace Entries

variable {α : Type}

/-- The value of the last entry of a name. -/
def last? (key : String) (l : List (String × α)) : Option α := l.reverse.lookup key

theorem get?_ofList (key : String) (l : List (String × α)) :
    Entries.get? key (Entries.ofList l) = last? key l := by
  induction l using List.reverseRecOn with
  | nil => rfl
  | append_singleton l e ih =>
    obtain ⟨k, v⟩ := e
    have hlast : last? key (l ++ [(k, v)]) = if key = k then some v else last? key l := by
      rw [last?, List.reverse_concat, List.lookup_cons, last?]
      by_cases hk : key = k
      · simp [hk]
      · simp [hk, beq_false_of_ne hk]
    rw [ofList_concat, hlast, ← ih]
    by_cases hk : key = k
    · rw [if_pos hk, hk, Entries.get?_insert_self]
    · rw [if_neg hk, Entries.get?_insert_of_ne v _ (Ne.symm hk)]

end Entries

namespace Json

/-- The members of the object that a text is, in the order of the text. -/
def written? (text : String) : Option (List (String × Json)) :=
  match ofText text, skipSpace text.toList with
  | .ok (.object _), _ :: r =>
    (readMembers (enough text.toList - 1) (depthLimit - 1) true r).toOption.map Prod.fst
  | _, _ => none

theorem readScalar_ne_object {c : Char} {r left : List Char} {m : List (String × Json)} :
    readScalar c r ≠ .ok (.object m, left) := by
  intro h
  cases readable_of_readScalar h

theorem readValue_object (fuel depth : Nat) {cs left : List Char} {m : List (String × Json)}
    (h : readValue (fuel + 1) (depth + 1) cs = .ok (.object m, left)) :
    ∃ c r members end', skipSpace cs = c :: r ∧
      readMembers fuel depth true r = .ok (members, end') ∧ m = Entries.ofList members := by
  rw [readValue] at h
  split at h
  · cases h
  case h_2 c r hskip =>
    split at h
    · simp only [bind, Except.bind] at h
      split at h
      · cases h
      · split at h <;> cases h
    split at h
    · simp only [bind, Except.bind] at h
      split at h
      · cases h
      case h_2 p hp =>
        split at h
        · cases h
        · injection h with h
          injection h with hm
          injection hm with hm
          exact ⟨c, r, p.1, p.2, hskip, hp, hm.symm⟩
    · exact absurd h readScalar_ne_object

theorem exists_written {text : String} {m : List (String × Json)}
    (h : ofText text = .ok (.object m)) :
    ∃ members, written? text = some members ∧ m = Entries.ofList members := by
  obtain ⟨left, hvalue⟩ := readEnd_eq_ok h
  obtain ⟨c, r, members, end', hskip, hread, hm⟩ :=
    readValue_object (enough text.toList - 1) (depthLimit - 1) hvalue
  refine ⟨members, ?_, hm⟩
  rw [written?, h, hskip]
  dsimp only
  rw [hread]
  rfl

theorem ofText_of_written {text : String} {members : List (String × Json)}
    (h : written? text = some members) :
    ofText text = .ok (.object (Entries.ofList members)) := by
  cases hread : ofText text with
  | error f =>
    rw [written?, hread] at h
    cases h
  | ok v =>
    cases v with
    | object m =>
      obtain ⟨ms, hms, hm⟩ := exists_written hread
      rw [h] at hms
      injection hms with hms
      rw [hm, hms]
    | _ =>
      rw [written?, hread] at h
      cases h

end Json

namespace LogEvent

/-- The value that a part of an event has: by its name in an object, by its place in an array. -/
def part? (v : Json) (name : String) (place : Nat) : Option Json :=
  match v with
  | .object members => Entries.get? name members
  | .array items => items[place]?
  | _ => none

/-- An object, or an array of one to four values. -/
def HasParts : Json → Prop
  | .object _ => True
  | .array items => 1 ≤ items.length ∧ items.length ≤ 4
  | _ => False

/-- The fields that a value holds: it may be absent or null, or an object. -/
inductive FieldsIn : Option Json → Entries String → Prop
  | absent : FieldsIn none []
  | null : FieldsIn (some .null) []
  | object {members} : FieldsIn (some (.object members)) (fieldTexts members)

/-- The event that a value holds. -/
structure ToldBy (v : Json) (e : LogEvent) : Prop where
  form : HasParts v
  time : ∃ w, part? v "time" 0 = some w ∧ Instant.ToldBy w e.time
  level : e.level = (part? v "level" 1).bind valueText
  message : e.message = (part? v "message" 2).bind valueText
  fields : FieldsIn (part? v "fields" 3) e.fields

theorem timeOfJson_eq_ok_iff (v : Json) (t : Instant) :
    timeOfJson v = .ok t ↔ Instant.ToldBy v t := by
  rw [← Instant.ofJson_eq_ok_iff, timeOfJson]
  cases Instant.ofJson v <;> simp [Except.mapError]

theorem fieldsOfJson_eq_ok_iff (v : Json) (fields : Entries String) :
    fieldsOfJson v = .ok fields ↔ FieldsIn (some v) fields := by
  constructor
  · intro h
    cases v with
    | null =>
      injection h with h
      exact h ▸ .null
    | object members =>
      injection h with h
      exact h ▸ .object
    | _ => cases h
  · rintro (_ | _ | _)
    · rfl
    · rfl

/-- The fields of an event, for which there may be no value. -/
def fieldsOfPart : Option Json → Except Json.ShapeFault (Entries String)
  | some v => fieldsOfJson v
  | none => .ok []

theorem fieldsOfPart_eq_ok_iff (part : Option Json) (fields : Entries String) :
    fieldsOfPart part = .ok fields ↔ FieldsIn part fields := by
  cases part with
  | some v => exact fieldsOfJson_eq_ok_iff v fields
  | none =>
    constructor
    · intro h
      injection h with h
      exact h ▸ .absent
    · rintro ⟨⟩
      rfl

/-- The time of an event, for which there has to be a value. -/
def timeOfPart : Option Json → Except Json.ShapeFault Instant
  | some v => timeOfJson v
  | none => .error (.missingField "time")

theorem timeOfPart_eq_ok_iff (part : Option Json) (t : Instant) :
    timeOfPart part = .ok t ↔ ∃ v, part = some v ∧ Instant.ToldBy v t := by
  cases part with
  | some v => simp [timeOfPart, timeOfJson_eq_ok_iff]
  | none => simp [timeOfPart]

theorem ofObject_eq (members : Entries Json) : ofObject members =
    (fieldsOfPart (part? (.object members) "fields" 3)).bind fun fields =>
      (timeOfPart (part? (.object members) "time" 0)).bind fun time =>
        .ok ⟨time, (part? (.object members) "level" 1).bind valueText,
          (part? (.object members) "message" 2).bind valueText, fields⟩ := by
  unfold ofObject part?
  dsimp only
  cases members.get? "fields" <;> cases members.get? "time" <;> rfl

theorem ofArray_eq (v : Json) (r : List Json) : ofArray (v :: r) =
    (timeOfPart (part? (.array (v :: r)) "time" 0)).bind fun time =>
      (fieldsOfPart (part? (.array (v :: r)) "fields" 3)).bind fun fields =>
        if 3 < r.length then .error (.invalidLength (r.length + 1) "fewer elements in array")
        else .ok ⟨time, (part? (.array (v :: r)) "level" 1).bind valueText,
          (part? (.array (v :: r)) "message" 2).bind valueText, fields⟩ := by
  unfold ofArray part?
  simp only [bind, Except.bind, timeOfPart, List.getElem?_cons_zero, List.getElem?_cons_succ]
  cases timeOfJson v with
  | error f => rfl
  | ok t =>
    cases r[2]? with
    | none =>
      dsimp only [fieldsOfPart, pure, Except.pure]
      split <;> rfl
    | some w =>
      dsimp only [fieldsOfPart, pure, Except.pure]
      cases fieldsOfJson w with
      | error f => rfl
      | ok fields => split <;> rfl

theorem ofObject_eq_ok_iff (members : Entries Json) (e : LogEvent) :
    ofObject members = .ok e ↔ ToldBy (.object members) e := by
  rw [ofObject_eq]
  constructor
  · intro h
    obtain ⟨fields, hfields, h⟩ := bind_eq_ok_iff.1 h
    obtain ⟨time, htime, h⟩ := bind_eq_ok_iff.1 h
    injection h with h
    subst h
    exact ⟨trivial, (timeOfPart_eq_ok_iff _ _).1 htime, rfl, rfl,
      (fieldsOfPart_eq_ok_iff _ _).1 hfields⟩
  · rintro ⟨-, htime, hlevel, hmessage, hfields⟩
    rw [(fieldsOfPart_eq_ok_iff _ _).2 hfields, (timeOfPart_eq_ok_iff _ _).2 htime, ← hlevel,
      ← hmessage]
    rfl

theorem ofArray_eq_ok_iff (items : List Json) (e : LogEvent) :
    ofArray items = .ok e ↔ ToldBy (.array items) e := by
  cases items with
  | nil =>
    constructor
    · intro h
      cases h
    · intro h
      cases h.form.1
  | cons v r =>
    rw [ofArray_eq]
    constructor
    · intro h
      obtain ⟨time, htime, h⟩ := bind_eq_ok_iff.1 h
      obtain ⟨fields, hfields, h⟩ := bind_eq_ok_iff.1 h
      by_cases hlength : 3 < r.length
      · rw [if_pos hlength] at h
        cases h
      · rw [if_neg hlength] at h
        injection h with h
        subst h
        have hform : HasParts (.array (v :: r)) := ⟨by simp, by simp; omega⟩
        exact ⟨hform, (timeOfPart_eq_ok_iff _ _).1 htime, rfl, rfl,
          (fieldsOfPart_eq_ok_iff _ _).1 hfields⟩
    · rintro ⟨⟨-, hlength⟩, htime, hlevel, hmessage, hfields⟩
      have hr : ¬ 3 < r.length := by simp at hlength; omega
      rw [(fieldsOfPart_eq_ok_iff _ _).2 hfields, (timeOfPart_eq_ok_iff _ _).2 htime, ← hlevel,
        ← hmessage]
      simp only [Except.bind, if_neg hr]

theorem ofJson_eq_ok_iff (v : Json) (e : LogEvent) : ofJson v = .ok e ↔ ToldBy v e := by
  cases v with
  | object members => exact ofObject_eq_ok_iff members e
  | array items => exact ofArray_eq_ok_iff items e
  | _ =>
    constructor
    · intro h
      cases h
    · intro h
      exact h.form.elim

end LogEvent

namespace Message

/-- A text that may be absent or null. -/
inductive TextIn : Option Json → Option String → Prop
  | absent : TextIn none none
  | null : TextIn (some .null) none
  | text {s} : TextIn (some (.text s)) (some s)

/-- A frame is an object with these members, of which the last one named `type` gives its kind. -/
structure HasKind (frame : String) (members : List (String × Json)) (kind : String) : Prop where
  written : Json.written? frame = some members
  kind : Entries.last? "type" members = some (.text kind)

/-- The kinds of message there are. -/
def kinds : List String := ["clear", "basetime", "log", "error"]

/-- The message that a frame tells. A member that counts is the last one of its name; others do not
matter. -/
inductive ToldBy (frame : String) : Message → Prop
  | clear {members} : HasKind frame members "clear" → ToldBy frame .clear
  | baseTime {members v t} : HasKind frame members "basetime" →
      Entries.last? "basetime" members = some v → Instant.ToldBy v t → ToldBy frame (.baseTime t)
  | log {members v e} : HasKind frame members "log" →
      Entries.last? "log" members = some v → LogEvent.ToldBy v e → ToldBy frame (.log e)
  | serverError {members text detail} : HasKind frame members "error" →
      TextIn (Entries.last? "message" members) text →
      TextIn (Entries.last? "error" members) detail →
      ToldBy frame (.serverError (text.getD "backend reported an error") detail)

theorem require_eq_ok_iff (members : List (String × Json)) (key : String) (v : Json) :
    require (Entries.ofList members) key = .ok v ↔ Entries.last? key members = some v := by
  rw [require, Entries.get?_ofList]
  cases Entries.last? key members <;> simp

theorem optionalText_eq_ok_iff (members : List (String × Json)) (key : String)
    (text : Option String) : optionalText (Entries.ofList members) key = .ok text ↔
      TextIn (Entries.last? key members) text := by
  rw [optionalText, Entries.get?_ofList]
  constructor
  · intro h
    split at h
    · injection h with h
      rename_i hv
      rw [hv, ← h]
      exact .absent
    · injection h with h
      rename_i hv
      rw [hv, ← h]
      exact .null
    · injection h with h
      rename_i hv
      rw [hv, ← h]
      exact .text
    · cases h
  · intro h
    generalize Entries.last? key members = part at h
    cases h <;> rfl

theorem readBaseTime_eq_ok_iff (members : List (String × Json)) (t : Instant) :
    readBaseTime (Entries.ofList members) = .ok t ↔
      ∃ v, Entries.last? "basetime" members = some v ∧ Instant.ToldBy v t := by
  refine bind_eq_ok_iff.trans (exists_congr fun v => ?_)
  rw [require_eq_ok_iff, LogEvent.timeOfJson_eq_ok_iff]

theorem readLog_eq_ok_iff (members : List (String × Json)) (e : LogEvent) :
    readLog (Entries.ofList members) = .ok e ↔
      ∃ v, Entries.last? "log" members = some v ∧ LogEvent.ToldBy v e := by
  refine bind_eq_ok_iff.trans (exists_congr fun v => ?_)
  rw [require_eq_ok_iff, LogEvent.ofJson_eq_ok_iff]

theorem readError_eq_ok_iff (members : List (String × Json)) (p : String × Option String) :
    readError (Entries.ofList members) = .ok p ↔
      ∃ text detail, TextIn (Entries.last? "message" members) text ∧
        TextIn (Entries.last? "error" members) detail ∧
        p = (text.getD "backend reported an error", detail) := by
  constructor
  · intro h
    obtain ⟨detail, hdetail, h⟩ := bind_eq_ok_iff.1 h
    obtain ⟨text, htext, h⟩ := bind_eq_ok_iff.1 h
    injection h with h
    exact ⟨text, detail, (optionalText_eq_ok_iff _ _ _).1 htext,
      (optionalText_eq_ok_iff _ _ _).1 hdetail, h.symm⟩
  · rintro ⟨text, detail, htext, hdetail, rfl⟩
    refine bind_eq_ok_iff.2 ⟨detail, (optionalText_eq_ok_iff _ _ _).2 hdetail, ?_⟩
    exact bind_eq_ok_iff.2 ⟨text, (optionalText_eq_ok_iff _ _ _).2 htext, rfl⟩

/-- What the content of a frame of a kind gives. -/
def ofKind (kind : String) (members : List (String × Json)) : Except ProtocolFault Message :=
  if kind = "clear" then .ok .clear
  else if kind = "basetime" then
    (malformed kind (readBaseTime (Entries.ofList members))).map baseTime
  else if kind = "log" then (malformed kind (readLog (Entries.ofList members))).map log
  else if kind = "error" then
    (malformed kind (readError (Entries.ofList members))).map (fun p => serverError p.1 p.2)
  else .error (.unknownType kind)

theorem decode_of_written {frame : String} {members : List (String × Json)}
    (h : Json.written? frame = some members) :
    decode frame = ofMembers (Entries.ofList members) := by
  rw [decode, Json.ofText_of_written h]

theorem decode_of_hasKind {frame : String} {members : List (String × Json)} {kind : String}
    (h : HasKind frame members kind) : decode frame = ofKind kind members := by
  rw [decode_of_written h.written, ofMembers, Entries.get?_ofList, h.kind]
  rfl

theorem malformed_map_cases {α : Type} (kind : String) (r : Except Json.ShapeFault α)
    (f : α → Message) : (∃ a, r = .ok a ∧ (malformed kind r).map f = .ok (f a)) ∨
      ∃ fault, (malformed kind r).map f = .error (.malformed kind fault) := by
  cases r with
  | ok a => exact .inl ⟨a, rfl, rfl⟩
  | error f => exact .inr ⟨f.toFault, rfl⟩

/-- A frame of a kind there is tells a message, or its content is at fault. -/
theorem ofKind_cases {frame : String} {members : List (String × Json)} {kind : String}
    (h : HasKind frame members kind) :
    (kind ∈ kinds ∧ ∃ m, ToldBy frame m ∧ ofKind kind members = .ok m) ∨
    (kind ∈ kinds ∧ ∃ fault, ofKind kind members = .error (.malformed kind fault)) ∨
    (kind ∉ kinds ∧ ofKind kind members = .error (.unknownType kind)) := by
  by_cases hclear : kind = "clear"
  · subst hclear
    exact .inl ⟨by decide, .clear, .clear h, rfl⟩
  by_cases hbase : kind = "basetime"
  · subst hbase
    rcases malformed_map_cases "basetime" (readBaseTime (Entries.ofList members)) baseTime with
      ⟨t, ht, hm⟩ | hfault
    · obtain ⟨v, hv, ht⟩ := (readBaseTime_eq_ok_iff members t).1 ht
      exact .inl ⟨by decide, .baseTime t, .baseTime h hv ht, hm⟩
    · exact .inr (.inl ⟨by decide, hfault⟩)
  by_cases hlog : kind = "log"
  · subst hlog
    rcases malformed_map_cases "log" (readLog (Entries.ofList members)) log with
      ⟨e, he, hm⟩ | hfault
    · obtain ⟨v, hv, he⟩ := (readLog_eq_ok_iff members e).1 he
      exact .inl ⟨by decide, .log e, .log h hv he, hm⟩
    · exact .inr (.inl ⟨by decide, hfault⟩)
  by_cases herror : kind = "error"
  · subst herror
    rcases malformed_map_cases "error" (readError (Entries.ofList members))
      (fun p => serverError p.1 p.2) with ⟨p, hp, hm⟩ | hfault
    · obtain ⟨text, detail, htext, hdetail, rfl⟩ := (readError_eq_ok_iff members p).1 hp
      exact .inl ⟨by decide, _, .serverError h htext hdetail, hm⟩
    · exact .inr (.inl ⟨by decide, hfault⟩)
  · refine .inr (.inr ⟨by simp [kinds, hclear, hbase, hlog, herror], ?_⟩)
    simp [ofKind, hclear, hbase, hlog, herror]

theorem decode_of_toldBy {frame : String} {m : Message} (h : ToldBy frame m) :
    decode frame = .ok m := by
  cases h with
  | clear h => exact decode_of_hasKind h
  | @baseTime members v t h hv ht =>
    have hread := (readBaseTime_eq_ok_iff members t).2 ⟨v, hv, ht⟩
    rw [decode_of_hasKind h]
    simp [ofKind, hread, malformed, Except.mapError, Except.map]
  | @log members v e h hv he =>
    have hread := (readLog_eq_ok_iff members e).2 ⟨v, hv, he⟩
    rw [decode_of_hasKind h]
    simp [ofKind, hread, malformed, Except.mapError, Except.map]
  | @serverError members text detail h htext hdetail =>
    have hread := (readError_eq_ok_iff members _).2 ⟨text, detail, htext, hdetail, rfl⟩
    rw [decode_of_hasKind h]
    simp [ofKind, hread, malformed, Except.mapError, Except.map]

theorem decode_of_unwritten {frame : String} {v : Json} (hread : Json.ofText frame = .ok v)
    (h : Json.written? frame = none) : decode frame = .error .notAnObject := by
  rw [decode, hread]
  cases v with
  | object m =>
    obtain ⟨members, hmembers, -⟩ := Json.exists_written hread
    rw [h] at hmembers
    cases hmembers
  | _ => rfl

theorem decode_of_untyped {frame : String} {members : List (String × Json)}
    (h : Json.written? frame = some members)
    (htype : ∀ k, Entries.last? "type" members ≠ some (.text k)) :
    decode frame = .error .missingType := by
  rw [decode_of_written h, ofMembers, Entries.get?_ofList]
  split
  · rename_i k hk
    exact absurd hk (htype k)
  · rfl

theorem exists_malformed {frame : String} {members : List (String × Json)} {kind : String}
    (h : HasKind frame members kind) (hkind : kind ∈ kinds) (htold : ¬ ∃ m, ToldBy frame m) :
    ∃ fault, decode frame = .error (.malformed kind fault) := by
  rw [decode_of_hasKind h]
  rcases ofKind_cases h with ⟨-, m, hm, -⟩ | ⟨-, hfault⟩ | ⟨hunknown, -⟩
  · exact absurd ⟨m, hm⟩ htold
  · exact hfault
  · exact absurd hkind hunknown

theorem decode_of_unknown {frame : String} {members : List (String × Json)} {kind : String}
    (h : HasKind frame members kind) (hkind : kind ∉ kinds) :
    decode frame = .error (.unknownType kind) := by
  rw [decode_of_hasKind h]
  rcases ofKind_cases h with ⟨hknown, -⟩ | ⟨hknown, -⟩ | ⟨-, hunknown⟩
  · exact absurd hknown hkind
  · exact absurd hknown hkind
  · exact hunknown

/-- What is found out about a frame with the result of decoding it. -/
inductive Verdict (frame : String) : Except ProtocolFault Message → Prop
  | invalidJson {f} : Json.ofText frame = .error f → Verdict frame (.error (.invalidJson frame f))
  | notAnObject {v} : Json.ofText frame = .ok v → Json.written? frame = none →
      Verdict frame (.error .notAnObject)
  | missingType {members} : Json.written? frame = some members →
      (∀ k, Entries.last? "type" members ≠ some (.text k)) → Verdict frame (.error .missingType)
  | unknownType {members kind} : HasKind frame members kind → kind ∉ kinds →
      Verdict frame (.error (.unknownType kind))
  | malformed {members kind f} : HasKind frame members kind → kind ∈ kinds →
      (¬ ∃ m, ToldBy frame m) → Verdict frame (.error (.malformed kind f))
  | told {m} : ToldBy frame m → Verdict frame (.ok m)

theorem verdict_decode (frame : String) : Verdict frame (decode frame) := by
  by_cases htold : ∃ m, ToldBy frame m
  · obtain ⟨m, hm⟩ := htold
    rw [decode_of_toldBy hm]
    exact .told hm
  cases hread : Json.ofText frame with
  | error f =>
    rw [decode, hread]
    exact .invalidJson hread
  | ok v =>
    cases hwritten : Json.written? frame with
    | none =>
      rw [decode_of_unwritten hread hwritten]
      exact .notAnObject hread hwritten
    | some members =>
      by_cases htype : ∃ k, Entries.last? "type" members = some (.text k)
      · obtain ⟨k, hk⟩ := htype
        have h : HasKind frame members k := ⟨hwritten, hk⟩
        by_cases hkind : k ∈ kinds
        · obtain ⟨f, hf⟩ := exists_malformed h hkind htold
          rw [hf]
          exact .malformed h hkind htold
        · rw [decode_of_unknown h hkind]
          exact .unknownType h hkind
      · have huntyped : ∀ k, Entries.last? "type" members ≠ some (.text k) :=
          fun k hk => htype ⟨k, hk⟩
        rw [decode_of_untyped hwritten huntyped]
        exact .missingType hwritten huntyped

theorem decode_eq_ok_iff (frame : String) (m : Message) :
    decode frame = .ok m ↔ ToldBy frame m := by
  constructor
  · intro h
    have hverdict := verdict_decode frame
    rw [h] at hverdict
    cases hverdict with
    | told hm => exact hm
  · exact decode_of_toldBy

/-- A frame of a kind, with the value of the member that has the name of the kind. -/
def Carries (kind frame : String) (v : Json) : Prop :=
  ∃ members, HasKind frame members kind ∧ Entries.last? kind members = some v

variable {kind frame : String} {v : Json}

theorem HasKind.unique {members members' : List (String × Json)} {kind' : String}
    (h : HasKind frame members kind) (h' : HasKind frame members' kind') :
    members' = members ∧ kind' = kind := by
  obtain rfl : members' = members := Option.some.inj (h'.written.symm.trans h.written)
  have hkind := h'.kind.symm.trans h.kind
  injection hkind with hkind
  injection hkind with hkind
  exact ⟨rfl, hkind⟩

theorem Carries.of_ofText {members : Entries Json} (h : Json.ofText frame = .ok (.object members))
    (hkind : members.get? "type" = some (.text kind)) (hv : members.get? kind = some v) :
    Carries kind frame v := by
  obtain ⟨written, hwritten, rfl⟩ := Json.exists_written h
  rw [Entries.get?_ofList] at hkind hv
  exact ⟨written, ⟨hwritten, hkind⟩, hv⟩

theorem Carries.decode_log_iff (h : Carries "log" frame v) (m : Message) :
    decode frame = .ok m ↔ ∃ e, m = .log e ∧ LogEvent.ToldBy v e := by
  obtain ⟨members, hkind, hv⟩ := h
  rw [decode_eq_ok_iff]
  constructor
  · intro htold
    cases htold with
    | clear h => exact absurd (hkind.unique h).2 (by decide)
    | baseTime h => exact absurd (hkind.unique h).2 (by decide)
    | serverError h => exact absurd (hkind.unique h).2 (by decide)
    | @log _ w e h hw htold =>
      rw [(hkind.unique h).1, hv] at hw
      exact ⟨e, rfl, Option.some.inj hw ▸ htold⟩
  · rintro ⟨e, rfl, htold⟩
    exact .log hkind hv htold

theorem Carries.decode_baseTime_iff (h : Carries "basetime" frame v) (m : Message) :
    decode frame = .ok m ↔ ∃ t, m = .baseTime t ∧ Instant.ToldBy v t := by
  obtain ⟨members, hkind, hv⟩ := h
  rw [decode_eq_ok_iff]
  constructor
  · intro htold
    cases htold with
    | clear h => exact absurd (hkind.unique h).2 (by decide)
    | log h => exact absurd (hkind.unique h).2 (by decide)
    | serverError h => exact absurd (hkind.unique h).2 (by decide)
    | @baseTime _ w t h hw htold =>
      rw [(hkind.unique h).1, hv] at hw
      exact ⟨t, rfl, Option.some.inj hw ▸ htold⟩
  · rintro ⟨t, rfl, htold⟩
    exact .baseTime hkind hv htold

/-- A frame of a kind there is that tells no message is malformed. -/
theorem Carries.exists_malformed (h : Carries kind frame v) (hkind : kind ∈ kinds)
    (hnone : ∀ m, decode frame ≠ .ok m) :
    ∃ fault, decode frame = .error (.malformed kind fault) := by
  obtain ⟨members, hmembers, -⟩ := h
  exact Message.exists_malformed hmembers hkind fun ⟨m, hm⟩ => hnone m (decode_of_toldBy hm)

end Message

/-- What decoding a frame gives, for every text. A frame is refused as no JSON if it is none, as no
object if it is another value, and for its type if the last member of that name is no text. Of a
kind there is it tells exactly the message that its members hold, or else it is malformed; any other
kind is unknown. A time is a whole number of milliseconds in range, another number whose rounding is
in range, or a text that can be read. -/
theorem frame_verdicts (frame : String) :
    ((∃ f, Message.decode frame = .error (.invalidJson frame f)) ↔
      ¬ ∃ v, Json.ofText frame = .ok v) ∧
    (Message.decode frame = .error .notAnObject ↔
      (∃ v, Json.ofText frame = .ok v) ∧ ¬ ∃ members, Json.ofText frame = .ok (.object members)) ∧
    (Message.decode frame = .error .missingType ↔
      ∃ members, Json.written? frame = some members ∧
        ∀ k, Entries.last? "type" members ≠ some (.text k)) ∧
    (∀ k, Message.decode frame = .error (.unknownType k) ↔
      (∃ members, Message.HasKind frame members k) ∧ k ∉ ["clear", "basetime", "log", "error"]) ∧
    (∀ m, Message.decode frame = .ok m ↔ Message.ToldBy frame m) ∧
    (∀ k, (∃ f, Message.decode frame = .error (.malformed k f)) ↔
      (∃ members, Message.HasKind frame members k) ∧ k ∈ ["clear", "basetime", "log", "error"] ∧
        ¬ ∃ m, Message.ToldBy frame m) ∧
    ∀ v, (∃ t, Instant.ToldBy v t) ↔
      (∃ n, v = .number (.integer n) ∧ Word.holdsSigned n = true ∧ Instant.InRange n) ∨
      (∃ x q n, v = .number x ∧ ¬ x.IsSigned ∧ x.value? = some q ∧ RoundsTo q n ∧
        Instant.InRange n) ∨
      ∃ s, v = .text s ∧ (Instant.ofText? s).isSome = true := by
  have hverdict := Message.verdict_decode frame
  refine ⟨?_, ?_, ?_, ?_, ?_, ?_, Instant.exists_toldBy_iff⟩
  · constructor
    · rintro ⟨f, h⟩
      rw [h] at hverdict
      cases hverdict with
      | invalidJson hread => simp [hread]
    · intro h
      cases hread : Json.ofText frame with
      | error f => exact ⟨f, by rw [Message.decode, hread]⟩
      | ok v => exact absurd ⟨v, hread⟩ h
  · constructor
    · intro h
      rw [h] at hverdict
      cases hverdict with
      | notAnObject hread hwritten =>
        refine ⟨⟨_, hread⟩, ?_⟩
        rintro ⟨m, hm⟩
        obtain ⟨members, hmembers, -⟩ := Json.exists_written hm
        rw [hwritten] at hmembers
        cases hmembers
    · rintro ⟨⟨v, hread⟩, hobject⟩
      apply Message.decode_of_unwritten hread
      cases hwritten : Json.written? frame with
      | none => rfl
      | some members => exact absurd ⟨_, Json.ofText_of_written hwritten⟩ hobject
  · constructor
    · intro h
      rw [h] at hverdict
      cases hverdict with
      | missingType hwritten htype => exact ⟨_, hwritten, htype⟩
    · rintro ⟨members, hwritten, htype⟩
      exact Message.decode_of_untyped hwritten htype
  · intro k
    constructor
    · intro h
      rw [h] at hverdict
      cases hverdict with
      | unknownType hkind hunknown => exact ⟨⟨_, hkind⟩, hunknown⟩
    · rintro ⟨⟨members, hkind⟩, hunknown⟩
      exact Message.decode_of_unknown hkind hunknown
  · intro m
    constructor
    · intro h
      rw [h] at hverdict
      cases hverdict with
      | told hm => exact hm
    · exact Message.decode_of_toldBy
  · intro k
    constructor
    · rintro ⟨f, h⟩
      rw [h] at hverdict
      cases hverdict with
      | malformed hkind hknown htold => exact ⟨⟨_, hkind⟩, hknown, htold⟩
    · rintro ⟨⟨members, hkind⟩, hknown, htold⟩
      exact Message.exists_malformed hkind hknown htold

end LiveTail
