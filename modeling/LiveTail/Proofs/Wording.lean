import LiveTail.Proofs.Verdict
/-! Level, message and fields of an event are texts, and the values that stand for them keep their
meaning: from the text of a value that was no text the value can be read again. -/
namespace LiveTail

namespace Entries

variable {α β : Type}

theorem get?_eq_none_of_lt {key : String} {m : Entries α} (h : ∀ e ∈ m, key < e.1) :
    m.get? key = none := by
  cases hget : m.get? key with
  | none => rfl
  | some value => exact absurd (h _ (mem_of_get? hget)) (String.lt_irrefl key)

/-- The entries whose values have an image, with the image. -/
theorem get?_filterMap (f : α → Option β) (key : String) {m : Entries α} (h : m.Sorted) :
    get? key (m.filterMap fun e => (f e.2).map (e.1, ·)) = (m.get? key).bind f := by
  induction m with
  | nil => rfl
  | cons e r ih =>
    obtain ⟨k, v⟩ := e
    obtain ⟨hfirst, hr⟩ := List.pairwise_cons.mp h
    have hrest := ih hr
    by_cases hk : k = key
    · -- the keys behind are greater, so none of them stands in for one without an image
      subst hk
      have hnone : Entries.get? k r = none := get?_eq_none_of_lt hfirst
      rw [hnone] at hrest
      cases hv : f v with
      | none => simpa [get?, hv] using hrest
      | some w => simp [get?, hv]
    · cases hv : f v with
      | none => simpa [get?, hv, hk] using hrest
      | some w => simpa [get?, hv, hk] using hrest

theorem sorted_filterMap (f : α → Option β) {m : Entries α} (h : m.Sorted) :
    Sorted (m.filterMap fun e => (f e.2).map (e.1, ·)) := by
  refine List.Pairwise.filterMap _ ?_ h
  intro a b hlt c hc d hd
  obtain ⟨_, -, rfl⟩ := Option.map_eq_some_iff.mp hc
  obtain ⟨_, -, rfl⟩ := Option.map_eq_some_iff.mp hd
  exact hlt

end Entries

namespace Json

/-- A value that stands right inside an array or object. -/
inductive Holds : Json → Json → Prop
  | item {items v} : v ∈ items → Holds (.array items) v
  | member {members k v} : (k, v) ∈ members → Holds (.object members) v

theorem Holds.readable {v w : Json} {depth : Nat} (h : Holds v w) (hv : Readable depth v) :
    Readable depth w := by
  cases h with
  | item hw =>
    cases hv with
    | array hitems => exact (hitems _ hw).mono (Nat.le_succ _)
  | member hw =>
    cases hv with
    | object _ hmembers => exact (hmembers _ hw).mono (Nat.le_succ _)

theorem Holds.whole {v w : Json} (h : Holds v w) (hv : Whole v) : Whole w := by
  cases h with
  | item hw =>
    cases hv with
    | array hitems => exact hitems _ hw
  | member hw =>
    cases hv with
    | object hmembers => exact hmembers _ hw

theorem holds_of_get? {key : String} {v w : Json} (h : v.get? key = some w) : Holds v w := by
  cases v with
  | object members => exact .member (Entries.mem_of_get? h)
  | _ => cases h

end Json

namespace LogEvent

theorem holds_of_part? {v w : Json} {name : String} {place : Nat}
    (h : part? v name place = some w) : v.Holds w := by
  cases v with
  | object members => exact .member (Entries.mem_of_get? h)
  | array items => exact .item (List.mem_of_getElem? h)
  | _ => cases h

/-- The value that the fields of an event have for a key. -/
def field? (v : Json) (key : String) : Option Json := (part? v "fields" 3).bind (Json.get? key)

/-- The values that an event keeps as texts: its level, its message and those of its fields. -/
inductive Worded (v : Json) : Json → Prop
  | level {w} : part? v "level" 1 = some w → Worded v w
  | message {w} : part? v "message" 2 = some w → Worded v w
  | field {key w} : field? v key = some w → Worded v w

theorem Worded.holds {v w : Json} (h : Worded v w) :
    v.Holds w ∨ ∃ fields, v.Holds fields ∧ fields.Holds w := by
  cases h with
  | level h => exact .inl (holds_of_part? h)
  | message h => exact .inl (holds_of_part? h)
  | field h =>
    obtain ⟨fields, hfields, hw⟩ := Option.bind_eq_some_iff.mp h
    exact .inr ⟨fields, holds_of_part? hfields, Json.holds_of_get? hw⟩

theorem Worded.readable {v w : Json} {depth : Nat} (h : Worded v w) (hv : v.Readable depth) :
    w.Readable depth := by
  rcases h.holds with hw | ⟨fields, hfields, hw⟩
  · exact hw.readable hv
  · exact hw.readable (hfields.readable hv)

theorem Worded.whole {v w : Json} (h : Worded v w) (hv : v.Whole) : w.Whole := by
  rcases h.holds with hw | ⟨fields, hfields, hw⟩
  · exact hw.whole hv
  · exact hw.whole (hfields.whole hv)

/-- How a value is kept as a text: an absent one and null as none, a text as it is, and any other
value as a text that is read as this value. -/
inductive KeptAs : Option Json → Option String → Prop
  | absent : KeptAs none none
  | null : KeptAs (some .null) none
  | text {s} : KeptAs (some (.text s)) (some s)
  | written {v s} : v ≠ .null → (∀ t, v ≠ .text t) → Json.ofText s = .ok v →
      KeptAs (some v) (some s)

theorem keptAs_valueText {v : Json} (hread : v.Readable Json.depthLimit) (hwhole : v.Whole) :
    KeptAs (some v) (valueText v) := by
  have hback := hread.ofText_toText hwhole
  cases v with
  | null => exact .null
  | text s => exact .text
  | boolean b => exact .written (by simp) (by simp) hback
  | number n => exact .written (by simp) (by simp) hback
  | array items => exact .written (by simp) (by simp) hback
  | object members => exact .written (by simp) (by simp) hback

theorem keptAs_bind {part : Option Json}
    (h : ∀ w, part = some w → w.Readable Json.depthLimit ∧ w.Whole) :
    KeptAs part (part.bind valueText) := by
  cases part with
  | none => exact .absent
  | some w =>
    obtain ⟨hread, hwhole⟩ := h w rfl
    exact keptAs_valueText hread hwhole

theorem KeptAs.eq_none_iff {part : Option Json} {s : Option String} (h : KeptAs part s) :
    s = none ↔ part = none ∨ part = some .null := by
  cases h with
  | absent => simp
  | null => simp
  | text => simp
  | written hnull => simpa using hnull

/-- Two values that are no texts are one value if they are kept as one text. -/
theorem KeptAs.unique {v w : Json} {s : Option String} (hv : KeptAs (some v) s)
    (hw : KeptAs (some w) s) (hvtext : ∀ t, v ≠ .text t) (hwtext : ∀ t, w ≠ .text t) : v = w := by
  cases hv with
  | null =>
    cases hw with
    | null => rfl
  | text => exact absurd rfl (hvtext _)
  | written _ _ hreadv =>
    cases hw with
    | text => exact absurd rfl (hwtext _)
    | written _ _ hreadw =>
      rw [hreadv] at hreadw
      exact Except.ok.inj hreadw

/-- The fields of an event have the keys in order, and each key the text of its value. -/
theorem fields_spec {v : Json} {depth : Nat} {fields : Entries String} (hv : v.Readable depth)
    (h : FieldsIn (part? v "fields" 3) fields) :
    fields.Sorted ∧ ∀ key, fields.get? key = (field? v key).bind valueText := by
  unfold field?
  generalize hpart : part? v "fields" 3 = part at h
  cases h with
  | absent => exact ⟨List.Pairwise.nil, fun _ => rfl⟩
  | null => exact ⟨List.Pairwise.nil, fun _ => rfl⟩
  | @object members =>
    have hsorted : Entries.Sorted members := by
      cases (holds_of_part? hpart).readable hv with
      | object hsorted _ => exact hsorted
    exact ⟨Entries.sorted_filterMap valueText hsorted,
      fun key => Entries.get?_filterMap valueText key hsorted⟩

end LogEvent

theorem Message.Carries.readable {kind frame : String} {v : Json}
    (h : Message.Carries kind frame v) : v.Readable Json.depthLimit := by
  obtain ⟨members, hkind, hv⟩ := h
  have hframe := Json.readable_of_ofText (Json.ofText_of_written hkind.written)
  rw [← Entries.get?_ofList] at hv
  exact (Json.Holds.member (Entries.mem_of_get? hv)).readable hframe

/-- Level, message and field values never have a frame refused, and if their numbers are whole, none
of them loses its meaning. An absent value and null are kept as none, a text as itself, and any
other value as a text that is read as this value again. So the fields are the keys with another
value than null, the prefix among them, and two values that are no texts are never kept as one text,
in whatever frames they are. -/
theorem log_values_keep_meaning {frame : String} {v : Json} (hframe : Message.Carries "log" frame v)
    (hwhole : ∀ w, LogEvent.Worded v w → w.Whole) :
    ((∃ e, Message.decode frame = .ok (.log e)) ↔
      LogEvent.HasParts v ∧
      (∃ w t, LogEvent.part? v "time" 0 = some w ∧ Instant.ToldBy w t) ∧
      ∃ fields, LogEvent.FieldsIn (LogEvent.part? v "fields" 3) fields) ∧
    (∀ e, Message.decode frame = .ok (.log e) →
      LogEvent.KeptAs (LogEvent.part? v "level" 1) e.level ∧
      LogEvent.KeptAs (LogEvent.part? v "message" 2) e.message ∧
      (∀ key, LogEvent.KeptAs (LogEvent.field? v key) (Entries.get? key e.fields)) ∧
      Entries.Sorted e.fields ∧
      LogEvent.KeptAs (LogEvent.field? v "prefix") e.lead?) ∧
    ∀ frame' v' w w', Message.Carries "log" frame' v' →
      LogEvent.Worded v w → LogEvent.Worded v' w' → w'.Whole →
      (∀ s, w ≠ .text s) → (∀ s, w' ≠ .text s) →
      LogEvent.valueText w = LogEvent.valueText w' → w = w' := by
  have hread := hframe.readable
  have hkept (w : Json) (hw : LogEvent.Worded v w) : w.Readable Json.depthLimit ∧ w.Whole :=
    ⟨hw.readable hread, hwhole w hw⟩
  have htold (e : LogEvent) (he : Message.decode frame = .ok (.log e)) : LogEvent.ToldBy v e := by
    obtain ⟨_, heq, htold⟩ := (hframe.decode_log_iff _).mp he
    injection heq with heq
    exact heq ▸ htold
  refine ⟨?_, ?_, ?_⟩
  · constructor
    · rintro ⟨e, he⟩
      have htold := htold e he
      obtain ⟨w, hw, htime⟩ := htold.time
      exact ⟨htold.form, ⟨w, e.time, hw, htime⟩, e.fields, htold.fields⟩
    · rintro ⟨hform, ⟨w, t, hw, htime⟩, fields, hfields⟩
      exact ⟨⟨t, _, _, fields⟩, (hframe.decode_log_iff _).mpr
        ⟨_, rfl, hform, ⟨w, hw, htime⟩, rfl, rfl, hfields⟩⟩
  · intro e he
    have htold := htold e he
    obtain ⟨hsorted, hget⟩ := LogEvent.fields_spec hread htold.fields
    have hfield (key : String) :
        LogEvent.KeptAs (LogEvent.field? v key) (Entries.get? key e.fields) := by
      rw [hget]
      exact LogEvent.keptAs_bind fun w hw => hkept w (.field hw)
    refine ⟨?_, ?_, hfield, hsorted, hfield "prefix"⟩
    · rw [htold.level]
      exact LogEvent.keptAs_bind fun w hw => hkept w (.level hw)
    · rw [htold.message]
      exact LogEvent.keptAs_bind fun w hw => hkept w (.message hw)
  · intro frame' v' w w' hframe' hw hw' hwhole' htext htext' hsame
    have hone := LogEvent.keptAs_valueText (hkept w hw).1 (hkept w hw).2
    have htwo := LogEvent.keptAs_valueText (hw'.readable hframe'.readable) hwhole'
    rw [← hsame] at htwo
    exact hone.unique htwo htext htext'

/-- A field is null, the prefix is an array with the greatest number of 64 bits, and the message is
an object. -/
theorem log_values_keep_meaning_of_nested :
    let frame := "\x7b\"log\":\x7b\"fields\":\x7b\"gone\":null,\"prefix\":[18446744073709551615]" ++
      "\x7d,\"message\":\x7b\"a\":[null,-3]\x7d,\"time\":0\x7d,\"type\":\"log\"\x7d"
    ∃ v, Message.Carries "log" frame v ∧ (∀ w, LogEvent.Worded v w → w.Whole) ∧
      ∃ e, Message.decode frame = .ok (.log e) ∧ e.level = none ∧
        LogEvent.KeptAs (some (.object [("a", .array [.null, .integer (-3)])])) e.message ∧
        Entries.get? "gone" e.fields = none ∧
        LogEvent.KeptAs (some (.array [.integer 18446744073709551615])) e.lead? := by
  intro frame
  let lead : Json := .array [.integer 18446744073709551615]
  let message : Json := .object [("a", .array [.null, .integer (-3)])]
  let v : Json := .object [("fields", .object [("gone", .null), ("prefix", lead)]),
    ("message", message), ("time", .integer 0)]
  let value : Json := .object [("log", v), ("type", .text "log")]
  have hwhole : value.Whole := by
    have hlead : lead.Whole := .array (by simpa using .number (by decide) (by decide))
    have hmessage : message.Whole :=
      .object (by simpa using .array (by simpa using ⟨.null, .number (by decide) (by decide)⟩))
    refine .object (List.forall_mem_cons.mpr ⟨.object ?_, by simpa using .text⟩)
    simpa using ⟨.object (by simpa using ⟨.null, hlead⟩), hmessage, .number (by decide) (by decide)⟩
  have hread : value.Readable Json.depthLimit := by
    have hfieldKeys : ["gone", "prefix"].Pairwise (fun a b : String => a < b) := by decide
    have hlogKeys : ["fields", "message", "time"].Pairwise (fun a b : String => a < b) := by decide
    have hkeys : ["log", "type"].Pairwise (fun a b : String => a < b) := by decide
    have hlead : lead.Readable 1 := .array (by simpa using .number)
    have hmessage : message.Readable 2 :=
      .object (List.pairwise_singleton _ _)
        (by simpa using .array (by simpa using ⟨.null, .number⟩))
    have hfields : Json.Readable 2 (.object [("gone", .null), ("prefix", lead)]) :=
      .object (Entries.sorted_of_keys hfieldKeys) (by simpa using ⟨.null, hlead⟩)
    have hv : v.Readable 3 :=
      .object (Entries.sorted_of_keys hlogKeys) (by simpa using ⟨hfields, hmessage, .number⟩)
    have hvalue : value.Readable 4 :=
      .object (Entries.sorted_of_keys hkeys) (by simpa using ⟨hv, .text⟩)
    exact hvalue.mono (by decide)
  have hframe : frame = value.toText := by decide +kernel
  have hreports : Message.Carries "log" frame v := by
    rw [hframe]
    exact .of_ofText (hread.ofText_toText hwhole) (by simp [Entries.get?]) (by simp [Entries.get?])
  have hworded (w : Json) (hw : LogEvent.Worded v w) : w.Whole :=
    hw.whole (Json.Holds.whole (.member List.mem_cons_self) hwhole)
  obtain ⟨htaken, hkept, -⟩ := log_values_keep_meaning hreports hworded
  have htime : Instant.ToldBy (.integer 0) .epoch :=
    .whole (by decide) ((Instant.ofMillis?_eq_some_iff 0 .epoch).mp (by decide))
  obtain ⟨e, he⟩ := htaken.mpr ⟨trivial, ⟨_, _, rfl, htime⟩, _, .object⟩
  obtain ⟨hlevel, hmessage, hfields, -, hlead⟩ := hkept e he
  exact ⟨v, hreports, hworded, e, he, hlevel.eq_none_iff.mpr (.inl rfl), hmessage,
    (hfields "gone").eq_none_iff.mpr (.inr rfl), hlead⟩

end LiveTail
