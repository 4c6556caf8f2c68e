import LiveTail.Proofs.Validation
/-! Which warnings a validation gives. A value that is set is told about exactly if it is not the
one that is used. The warning shows the value that is set, with two exceptions: blanks in place of a
page URL are shown as nothing, and where the default longest delay stands in and is less than the
first delay, there is a warning about the default. -/
namespace LiveTail

/-- The name that warnings use. -/
def ConfigField.name : ConfigField → String
  | .pageUrl => "connection.page_url"
  | .reconnect => "connection.reconnect"
  | .initialMs => "connection.reconnect_initial_ms"
  | .longestMs => "connection.reconnect_max_ms"
  | .maxRows => "display.max_rows"
  | .theme => "display.theme"
  | .fontSize => "display.font_size"
  | .level => "logging.level"
  | .file => "logging.file"

theorem ConfigField.nodup_names : (ConfigField.all.map ConfigField.name).Nodup := by decide

theorem ConfigField.mem_all (f : ConfigField) : f ∈ ConfigField.all := by
  cases f <;> decide

theorem ConfigField.eq_of_name {f g : ConfigField} (h : f.name = g.name) : f = g :=
  List.inj_on_of_nodup_map nodup_names f.mem_all g.mem_all h

/-- The name in a warning about a value. -/
def ConfigWarning.field? : ConfigWarning → Option String
  | .outOfRange field _ _ => some field
  | .unparseable _ | .unreadable _ _ => none

/-- Whether there is a warning about a value. -/
def Warned (warnings : List ConfigWarning) (f : ConfigField) : Prop :=
  ∃ value expected, .outOfRange f.name value expected ∈ warnings

namespace RawConfig

open Config

/-- The text of a value that is set. -/
def shown? (raw : RawConfig) : ConfigField → Option String
  | .pageUrl => raw.connection.pageUrl
  | .reconnect => raw.connection.reconnect.map toString
  | .initialMs => raw.connection.initialMs.map showNat
  | .longestMs => raw.connection.longestMs.map showNat
  | .maxRows => raw.display.maxRows.map showNat
  | .theme => raw.display.theme
  | .fontSize => raw.display.fontSize.map showFont
  | .level => raw.logging.level
  | .file => raw.logging.file

/-- A value that is set is the one that is used. An empty log file means none. -/
def Taken (raw : RawConfig) (c : Config) : ConfigField → Prop
  | .pageUrl => ∀ url, raw.connection.pageUrl = some url → c.pageUrl = some url
  | .reconnect => ∀ b, raw.connection.reconnect = some b → c.reconnect = b
  | .initialMs => ∀ ms, raw.connection.initialMs = some ms → c.initialMs = ms
  | .longestMs => ∀ ms, raw.connection.longestMs = some ms → c.longestMs = ms
  | .maxRows => ∀ n, raw.display.maxRows = some n → c.maxRows = n
  | .theme => ∀ theme, raw.display.theme = some theme →
      Text.isNamed theme (if c.dark then "dark" else "light") = true
  | .fontSize => ∀ size, raw.display.fontSize = some size → c.fontSize = size
  | .level => ∀ level, raw.logging.level = some level → c.logLevel = some level
  | .file => ∀ file, raw.logging.file = some file →
      c.logFile = if file = "" then none else some file

/-- Every warning is about a value that is set and shows it, no value is told about twice, and a
value that is set is told about exactly if it is not the one that is used. -/
structure Accurate (raw : RawConfig) (outcome : Config × List ConfigWarning) : Prop where
  quoted : ∀ field value expected, .outOfRange field value expected ∈ outcome.2 →
    ∃ f : ConfigField, f.name = field ∧ raw.shown? f = some value
  once : (outcome.2.filterMap ConfigWarning.field?).Nodup
  told : ∀ f, (raw.shown? f).isSome = true → (Warned outcome.2 f ↔ ¬raw.Taken outcome.1 f)

/-- The default longest delay stands in for one that is not set or out of range, and is less than
the first delay. -/
def StandsIn (raw : RawConfig) : Prop :=
  (∃ ms, raw.connection.initialMs = some ms ∧ 30000 < ms ∧ ms ≤ 600000) ∧
    ∀ ms, raw.connection.longestMs = some ms → ¬(100 ≤ ms ∧ ms ≤ 600000)

/-- The warnings about one value are at most one, and show the value. -/
structure AccurateOn (raw : RawConfig) (f : ConfigField) : Prop where
  once : (raw.warningsOn f).length ≤ 1
  quoted : ∀ value expected, .outOfRange f.name value expected ∈ raw.warningsOn f →
    raw.shown? f = some value

variable {raw : RawConfig}

/-! ### The check of one value -/

theorem refusal_cases {α : Type} (passes : α → Bool) (shown : α → String)
    (field expected : String) (value : Option α) :
    refusal passes shown field expected value = [] ∨ ∃ v, value = some v ∧
      refusal passes shown field expected value = [.outOfRange field (shown v) expected] := by
  cases value with
  | none => exact .inl rfl
  | some v =>
    rw [refusal]
    split
    · exact .inl rfl
    · exact .inr ⟨v, rfl, rfl⟩

theorem refusal_some_eq_nil_iff {α : Type} {passes : α → Bool} {shown : α → String}
    {field expected : String} {v : α} :
    refusal passes shown field expected (some v) = [] ↔ passes v = true := by
  rw [refusal]
  split
  · rename_i hpass
    exact iff_of_true rfl hpass
  · rename_i hfail
    exact iff_of_false (List.cons_ne_nil _ _) hfail

/-- A check warns once at most, about a value that is set, and shows it, blanks apart. -/
theorem complaint_cases (f : ConfigField) : raw.complaint f = [] ∨
    ∃ value expected, raw.complaint f = [.outOfRange f.name value expected] ∧
      (f ≠ .pageUrl → raw.shown? f = some value) := by
  cases f with
  | pageUrl =>
    obtain hnone | ⟨v, hv, hone⟩ := refusal_cases isPageUrl (fun _ => "") "connection.page_url"
      "a non-empty http(s) URL" raw.connection.pageUrl
    · exact .inl hnone
    · exact .inr ⟨_, _, hone, fun h => absurd rfl h⟩
  | reconnect => exact .inl rfl
  | file => exact .inl rfl
  | initialMs | longestMs | maxRows | theme | fontSize | level =>
    obtain hnone | ⟨v, hv, hone⟩ := refusal_cases _ _ _ _ _
    · exact .inl hnone
    · refine .inr ⟨_, _, hone, fun _ => ?_⟩
      rw [shown?, hv]
      rfl

/-! ### Told exactly if not taken -/

section

variable {α : Type} {passes : α → Bool} {shown : α → String} {field expected : String}
  {value : Option α}

theorem filter_taken_iff : (∀ v, value = some v → value.filter passes = some v) ↔
    refusal passes shown field expected value = [] := by
  cases value with
  | none => exact iff_of_true (by rintro v ⟨⟩) rfl
  | some v =>
    rw [refusal_some_eq_nil_iff]
    constructor
    · intro htaken
      exact (Option.filter_eq_some_iff.1 (htaken v rfl)).2
    · rintro hpass _ ⟨⟩
      rw [Option.filter_some, if_pos hpass]

theorem getD_taken_iff {default : α} (h : passes default = true) :
    (∀ v, value = some v → (value.filter passes).getD default = v) ↔
      refusal passes shown field expected value = [] := by
  cases value with
  | none => exact iff_of_true (by rintro v ⟨⟩) rfl
  | some v =>
    rw [refusal_some_eq_nil_iff, Option.filter_some]
    constructor
    · intro htaken
      by_contra hfail
      have hdefault := htaken v rfl
      rw [if_neg hfail, Option.getD_none] at hdefault
      exact hfail (hdefault ▸ h)
    · rintro hpass _ ⟨⟩
      rw [if_pos hpass, Option.getD_some]

end

theorem warningsOn_of_ne {f : ConfigField} (h : f ≠ .longestMs) :
    raw.warningsOn f = raw.complaint f := by
  rw [warningsOn, if_neg h, List.append_nil]

theorem theme_taken_iff :
    (∀ theme, raw.display.theme = some theme →
      Text.isNamed theme (if raw.settled.dark then "dark" else "light") = true) ↔
      raw.complaint .theme = [] := by
  rw [settled, complaint]
  cases raw.display.theme with
  | none => exact iff_of_true (by rintro theme ⟨⟩) rfl
  | some theme =>
    rw [refusal_some_eq_nil_iff, Option.bind_some, dark?]
    simp only [Option.some.injEq, forall_eq']
    split
    · rename_i hdark
      exact iff_of_true hdark rfl
    · rename_i hdark
      split
      · rename_i hlight
        exact iff_of_true hlight rfl
      · exact iff_of_false hdark Bool.false_ne_true

/-- The longest delay is used as given if it is in range and not less than the first one. -/
theorem max_delay_eq_iff {ms : ℕ} (h : raw.connection.longestMs = some ms) :
    max raw.initialMs raw.longestMs = ms ↔ raw.warningsOn .longestMs = [] := by
  have hinitial := raw.initialMs_range
  have hlongest := raw.longestMs_range
  have hcheck : raw.complaint .longestMs = [] ↔ isDelay ms = true := by
    rw [complaint, h, refusal_some_eq_nil_iff]
  have horder : raw.orderComplaint = [] ↔ raw.initialMs ≤ raw.longestMs := by
    rw [orderComplaint, ite_eq_right_iff, ← not_lt]
    exact imp_congr_right fun _ => iff_of_false (List.cons_ne_nil _ _) id
  have hgiven : isDelay ms = true → raw.longestMs = ms := fun hpass => by
    rw [longestMs, h, Option.filter_some, if_pos hpass, Option.getD_some]
  rw [warningsOn, if_pos rfl, List.append_eq_nil_iff, hcheck, horder]
  constructor
  · intro hmax
    -- both delays are in range in any case, so the given one is
    have hpass : isDelay ms = true := isDelay_iff.2 ⟨by omega, by omega⟩
    have hsame := hgiven hpass
    exact ⟨hpass, by omega⟩
  · rintro ⟨hpass, hle⟩
    rw [max_eq_right hle, hgiven hpass]

/-- A value that is set is the one that is used unless there is a warning about it. -/
theorem taken_iff {f : ConfigField} (hset : (raw.shown? f).isSome = true) :
    raw.Taken raw.settled f ↔ raw.warningsOn f = [] := by
  by_cases hf : f = .longestMs
  · subst hf
    rw [shown?, Option.isSome_map, Option.isSome_iff_exists] at hset
    obtain ⟨ms, hms⟩ := hset
    rw [Taken, hms, ← max_delay_eq_iff hms]
    constructor
    · intro htaken
      exact htaken ms rfl
    · rintro hmax _ ⟨⟩
      exact hmax
  · rw [warningsOn_of_ne hf]
    cases f with
    | pageUrl => exact filter_taken_iff
    | initialMs => exact getD_taken_iff (by decide)
    | longestMs => exact absurd rfl hf
    | maxRows => exact getD_taken_iff (by decide)
    | theme => exact theme_taken_iff
    | fontSize => exact getD_taken_iff isFontSize_default
    | level => exact filter_taken_iff
    | reconnect =>
      refine iff_of_true ?_ rfl
      intro b hb
      rw [settled, hb, Option.getD_some]
    | file =>
      refine iff_of_true ?_ rfl
      intro file hfile
      rw [settled, hfile, Option.filter_some]
      by_cases hempty : file = ""
      · subst hempty
        rfl
      · rw [if_neg hempty, if_pos (by rwa [Bool.not_eq_true', String.isEmpty_eq_false_iff])]

theorem exists_of_mem_complaint {f : ConfigField} {w : ConfigWarning} (h : w ∈ raw.complaint f) :
    ∃ value expected, w = .outOfRange f.name value expected := by
  obtain hnone | ⟨value, expected, hone, -⟩ := raw.complaint_cases f
  · rw [hnone] at h
    cases h
  · rw [hone, List.mem_singleton] at h
    exact ⟨value, expected, h⟩

theorem exists_of_mem_warningsOn {f : ConfigField} {w : ConfigWarning}
    (h : w ∈ raw.warningsOn f) : ∃ value expected, w = .outOfRange f.name value expected := by
  rw [warningsOn, List.mem_append] at h
  rcases h with h | h
  · exact exists_of_mem_complaint h
  · split at h
    · rename_i hf
      subst hf
      rw [orderComplaint] at h
      split at h
      · exact ⟨_, _, List.mem_singleton.1 h⟩
      · cases h
    · cases h

theorem warned_iff (raw : RawConfig) (f : ConfigField) :
    Warned (ConfigField.all.flatMap raw.warningsOn) f ↔ raw.warningsOn f ≠ [] := by
  constructor
  · rintro ⟨value, expected, hmem⟩
    obtain ⟨g, -, hg⟩ := List.mem_flatMap.1 hmem
    obtain ⟨value', expected', hw⟩ := exists_of_mem_warningsOn hg
    have hname : f.name = g.name := (ConfigWarning.outOfRange.inj hw).1
    rw [ConfigField.eq_of_name hname]
    exact List.ne_nil_of_mem hg
  · intro hne
    obtain ⟨w, hw⟩ := List.exists_mem_of_ne_nil _ hne
    obtain ⟨value, expected, rfl⟩ := exists_of_mem_warningsOn hw
    exact ⟨value, expected, List.mem_flatMap.2 ⟨f, f.mem_all, hw⟩⟩

/-! ### One warning about a value, which shows it -/

/-- No value is told about twice if each check leaves one warning at most. -/
theorem nodup_fields_iff (raw : RawConfig) :
    ((ConfigField.all.flatMap raw.warningsOn).filterMap ConfigWarning.field?).Nodup ↔
      ∀ f, (raw.warningsOn f).length ≤ 1 := by
  have hfields : ∀ f, (raw.warningsOn f).filterMap ConfigWarning.field? =
      List.replicate (raw.warningsOn f).length f.name := by
    intro f
    calc (raw.warningsOn f).filterMap ConfigWarning.field?
        = (raw.warningsOn f).filterMap (fun _ => some f.name) := by
          apply List.filterMap_congr
          intro w hw
          obtain ⟨value, expected, rfl⟩ := exists_of_mem_warningsOn hw
          rfl
      _ = (raw.warningsOn f).map (fun _ => f.name) := congrFun List.filterMap_eq_map _
      _ = List.replicate (raw.warningsOn f).length f.name := List.map_const'
  have hapart : ConfigField.all.Pairwise (Function.onFun List.Disjoint
      fun f => (raw.warningsOn f).filterMap ConfigWarning.field?) := by
    have hnodup : ConfigField.all.Nodup := by decide
    refine hnodup.imp fun {f g} hne field hf hg => hne ?_
    dsimp only at hf hg
    rw [hfields, List.mem_replicate] at hf hg
    exact ConfigField.eq_of_name (hf.2.symm.trans hg.2)
  rw [List.filterMap_flatMap, List.nodup_flatMap, and_iff_left hapart]
  constructor
  · intro hnodup f
    have hone := hnodup f f.mem_all
    rwa [hfields, List.nodup_replicate] at hone
  · intro hlength f _
    rw [hfields, List.nodup_replicate]
    exact hlength f

/-- The warnings are accurate if those about each value are. -/
theorem accurate_iff (raw : RawConfig) : Accurate raw (validate raw) ↔ ∀ f, AccurateOn raw f := by
  rw [validate_eq]
  constructor
  · intro h f
    refine ⟨(nodup_fields_iff raw).1 h.once f, ?_⟩
    intro value expected hw
    obtain ⟨g, hname, hshown⟩ :=
      h.quoted f.name value expected (List.mem_flatMap.2 ⟨f, f.mem_all, hw⟩)
    rwa [ConfigField.eq_of_name hname] at hshown
  · intro h
    refine ⟨?_, (nodup_fields_iff raw).2 fun f => (h f).once, ?_⟩
    · intro field value expected hmem
      obtain ⟨f, -, hw⟩ := List.mem_flatMap.1 hmem
      obtain ⟨value', expected', heq⟩ := exists_of_mem_warningsOn hw
      obtain ⟨rfl, -, -⟩ := ConfigWarning.outOfRange.inj heq
      exact ⟨f, rfl, (h f).quoted value expected hw⟩
    · intro f hset
      rw [warned_iff, taken_iff hset]

theorem accurateOn_of_complaint {f : ConfigField} (hf : f ≠ .pageUrl)
    (h : raw.warningsOn f = raw.complaint f) : AccurateOn raw f := by
  obtain hnone | ⟨value, expected, hone, hshown⟩ := raw.complaint_cases f
  · refine ⟨?_, fun value expected hw => ?_⟩
    · rw [h, hnone]
      exact Nat.zero_le 1
    · rw [h, hnone] at hw
      cases hw
  · refine ⟨?_, fun value' expected' hw => ?_⟩
    · rw [h, hone, List.length_singleton]
    · rw [h, hone, List.mem_singleton] at hw
      obtain ⟨-, rfl, -⟩ := ConfigWarning.outOfRange.inj hw
      exact hshown hf

/-- Blanks are shown as nothing. -/
theorem accurateOn_pageUrl_iff : AccurateOn raw .pageUrl ↔
    ∀ url, raw.connection.pageUrl = some url → (∀ ch ∈ url.toList, Text.isBlank ch = true) →
      url = "" := by
  have hwarnings : raw.warningsOn .pageUrl = refusal isPageUrl (fun _ => "") "connection.page_url"
      "a non-empty http(s) URL" raw.connection.pageUrl := warningsOn_of_ne (by decide)
  constructor
  · intro h url hurl hblank
    have hfail : ¬isPageUrl url = true := by
      rw [isPageUrl_iff]
      rintro ⟨ch, hch, hprints⟩
      rw [hblank ch hch] at hprints
      cases hprints
    rw [hurl, refusal, if_neg hfail] at hwarnings
    have hshown := h.quoted "" "a non-empty http(s) URL" (hwarnings ▸ List.mem_singleton_self _)
    exact Option.some.inj (hurl.symm.trans hshown)
  · intro h
    obtain hnone | ⟨url, hurl, hone⟩ := refusal_cases isPageUrl (fun _ => "")
      "connection.page_url" "a non-empty http(s) URL" raw.connection.pageUrl
    · refine ⟨?_, fun value expected hw => ?_⟩
      · rw [hwarnings, hnone]
        exact Nat.zero_le 1
      · rw [hwarnings, hnone] at hw
        cases hw
    · have hblank : ∀ ch ∈ url.toList, Text.isBlank ch = true := by
        intro ch hch
        by_contra hprints
        have hpass : isPageUrl url = true :=
          isPageUrl_iff.2 ⟨ch, hch, Bool.eq_false_iff.2 hprints⟩
        rw [hurl, refusal, if_pos hpass] at hone
        cases hone
      refine ⟨?_, fun value expected hw => ?_⟩
      · rw [hwarnings, hone, List.length_singleton]
      · rw [hwarnings, hone, List.mem_singleton] at hw
        obtain ⟨-, rfl, -⟩ := ConfigWarning.outOfRange.inj hw
        rw [shown?, hurl, h url hurl hblank]

/-! ### The two delays -/

theorem initialMs_of_given {ms : ℕ} (h : raw.connection.initialMs = some ms)
    (hrange : 100 ≤ ms ∧ ms ≤ 600000) : raw.initialMs = ms := by
  rw [initialMs, h, Option.filter_some, if_pos (isDelay_iff.2 hrange), Option.getD_some]

theorem longestMs_of_given {ms : ℕ} (h : raw.connection.longestMs = some ms)
    (hrange : 100 ≤ ms ∧ ms ≤ 600000) : raw.longestMs = ms := by
  rw [longestMs, h, Option.filter_some, if_pos (isDelay_iff.2 hrange), Option.getD_some]

theorem longestMs_default
    (h : ∀ ms, raw.connection.longestMs = some ms → ¬(100 ≤ ms ∧ ms ≤ 600000)) :
    raw.longestMs = 30000 := by
  rw [longestMs]
  cases hms : raw.connection.longestMs.filter isDelay with
  | none => rfl
  | some ms =>
    obtain ⟨hgiven, hpass⟩ := Option.filter_eq_some_iff.1 hms
    exact absurd (isDelay_iff.1 hpass) (h ms hgiven)

/-- A first delay above the default longest one was given. -/
theorem exists_given_of_lt (h : 30000 < raw.initialMs) :
    ∃ ms, raw.connection.initialMs = some ms ∧ 30000 < ms ∧ ms ≤ 600000 := by
  have hrange := raw.initialMs_range
  rw [initialMs] at h hrange
  cases hms : raw.connection.initialMs.filter isDelay with
  | none =>
    rw [hms] at h
    exact absurd h (by decide)
  | some ms =>
    rw [hms, Option.getD_some] at h hrange
    exact ⟨ms, (Option.filter_eq_some_iff.1 hms).1, h, hrange.2⟩

theorem warningsOn_longestMs (raw : RawConfig) : raw.warningsOn .longestMs =
    raw.complaint .longestMs ++ raw.orderComplaint := by
  rw [warningsOn, if_pos rfl]

/-- Where the default stands in, it is shown for a value that is not set, or there is a second
warning. -/
theorem not_accurateOn_of_standsIn (h : StandsIn raw) : ¬AccurateOn raw .longestMs := by
  obtain ⟨⟨ms, hms, hlow, hhigh⟩, hout⟩ := h
  have hless : raw.longestMs < raw.initialMs := by
    rw [longestMs_default hout, initialMs_of_given hms ⟨by omega, hhigh⟩]
    exact hlow
  intro haccurate
  have honce := haccurate.once
  rw [warningsOn_longestMs, orderComplaint, if_pos hless] at honce
  cases hgiven : raw.connection.longestMs with
  | none =>
    have hshown := haccurate.quoted (showNat raw.longestMs)
      (">= reconnect_initial_ms (" ++ showNat raw.initialMs ++ ")") (by
        rw [warningsOn_longestMs, orderComplaint, if_pos hless]
        exact List.mem_append_right _ (List.mem_singleton_self _))
    rw [shown?, hgiven] at hshown
    cases hshown
  | some longest =>
    have hfail : ¬isDelay longest = true := fun hpass =>
      hout longest hgiven (isDelay_iff.1 hpass)
    rw [complaint, hgiven, refusal, if_neg hfail] at honce
    exact Nat.not_succ_le_self 1 honce

theorem accurateOn_longestMs_iff : AccurateOn raw .longestMs ↔ ¬StandsIn raw := by
  refine ⟨fun haccurate h => not_accurateOn_of_standsIn h haccurate, fun hstands => ?_⟩
  have hwarnings := warningsOn_longestMs raw
  by_cases hless : raw.longestMs < raw.initialMs
  · -- the value that is shown is the one that is set, for otherwise the default would stand in
    obtain ⟨ms, hms, hrange⟩ : ∃ ms, raw.connection.longestMs = some ms ∧
        (100 ≤ ms ∧ ms ≤ 600000) := by
      by_contra hnone
      have hout : ∀ ms, raw.connection.longestMs = some ms → ¬(100 ≤ ms ∧ ms ≤ 600000) :=
        fun ms hms hrange => hnone ⟨ms, hms, hrange⟩
      have hlarge : 30000 < raw.initialMs := longestMs_default hout ▸ hless
      exact hstands ⟨exists_given_of_lt hlarge, hout⟩
    rw [complaint, hms, refusal, if_pos (isDelay_iff.2 hrange), List.nil_append, orderComplaint,
      if_pos hless] at hwarnings
    refine ⟨?_, fun value expected hw => ?_⟩
    · rw [hwarnings, List.length_singleton]
    · rw [hwarnings, List.mem_singleton] at hw
      obtain ⟨-, rfl, -⟩ := ConfigWarning.outOfRange.inj hw
      rw [shown?, hms, longestMs_of_given hms hrange, Option.map_some]
  · rw [orderComplaint, if_neg hless, List.append_nil] at hwarnings
    exact accurateOn_of_complaint (by decide) hwarnings

/-- For every configuration, a value that is set is told about exactly if it is not the one that is
used. All of it is accurate, except where the default longest delay stands in and is less than the
first one, and except for blanks in place of a page URL. -/
theorem warnings_accurate_iff (raw : RawConfig) :
    (∀ f, (raw.shown? f).isSome = true →
      (Warned (validate raw).2 f ↔ ¬raw.Taken (validate raw).1 f)) ∧
    (Accurate raw (validate raw) ↔ ¬StandsIn raw ∧
      ∀ url, raw.connection.pageUrl = some url → (∀ ch ∈ url.toList, Text.isBlank ch = true) →
        url = "") := by
  refine ⟨?_, ?_⟩
  · intro f hset
    rw [validate_eq, warned_iff, taken_iff hset]
  · rw [accurate_iff, ← accurateOn_longestMs_iff, ← accurateOn_pageUrl_iff]
    constructor
    · intro h
      exact ⟨h _, h _⟩
    · rintro ⟨hlongest, hpage⟩ f
      by_cases hf : f = .longestMs
      · exact hf ▸ hlongest
      · by_cases hf' : f = .pageUrl
        · exact hf' ▸ hpage
        · exact accurateOn_of_complaint hf' (warningsOn_of_ne hf)

/-- A longest delay that is given and less than the first one is raised, and the warning about that
shows it. -/
theorem warnings_accurate_of_raised :
    let raw : RawConfig := { connection := { initialMs := some 5000, longestMs := some 1000 } }
    Warned (validate raw).2 .longestMs ∧ ¬raw.Taken (validate raw).1 .longestMs ∧
      Accurate raw (validate raw) := by
  intro raw
  obtain ⟨htold, haccurate⟩ := warnings_accurate_iff raw
  have hwarned : Warned (validate raw).2 .longestMs :=
    ⟨"1000", ">= reconnect_initial_ms (5000)", by decide⟩
  refine ⟨hwarned, (htold .longestMs rfl).1 hwarned, haccurate.2 ⟨?_, ?_⟩⟩
  · rintro ⟨-, hout⟩
    exact hout 1000 rfl ⟨by decide, by decide⟩
  · rintro url ⟨⟩

/-- A first delay of a minute is in range, but the only warning is about a longest delay that nobody
has set. -/
theorem warning_of_unset_delay :
    ¬Accurate { connection := { initialMs := some 60000 } }
      (validate { connection := { initialMs := some 60000 } }) := by
  intro h
  have hmem : ConfigWarning.outOfRange "connection.reconnect_max_ms" "30000"
      ">= reconnect_initial_ms (60000)" ∈
      (validate { connection := { initialMs := some 60000 } }).2 := by decide
  obtain ⟨f, hname, hshown⟩ := h.quoted _ _ _ hmem
  have hf : f = .longestMs := ConfigField.eq_of_name hname
  rw [hf] at hshown
  cases hshown

end RawConfig

end LiveTail
