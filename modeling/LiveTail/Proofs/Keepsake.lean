import LiveTail.Proofs.Interruption
import LiveTail.Proofs.Readback
/-! Preferences that were saved are read back as they were, whatever the texts in them. -/
namespace LiveTail

namespace Json

/-- One field that is known and new, behind whatever leads to its key. -/
theorem readFields_field {σ : Type} (s : Schema σ) (f : Field σ) (lead : List Char)
    {depth fuel : Nat} {first : Bool} {seen : List String} {a : σ} {v r : List Char}
    {change : σ → σ}
    (hlead : ∀ r, nextKey first (lead ++ '"' :: r) = .ok (.more r))
    (hfield : s.field? f.name = some f) (hnew : seen.contains f.name = false)
    (hread : f.read depth (' ' :: v ++ r) = .ok (change, r)) :
    s.readFields depth (fuel + 1) first seen a (lead ++ (quote f.name ++ ':' :: ' ' :: v ++ r)) =
      s.readFields depth fuel false (f.name :: seen) (change a) r := by
  have hcolon : readColon (':' :: (' ' :: v ++ r)) = .ok (' ' :: v ++ r) := rfl
  have htext : quote f.name ++ ':' :: ' ' :: v ++ r =
      '"' :: (Quoted.encode f.name.toList ++ '"' :: (':' :: (' ' :: v ++ r))) := by
    simp [quote]
  rw [htext, Schema.readFields, hlead]
  simp only [bind, Except.bind, readString_encode, String.ofList_toList, hfield, hnew, hcolon,
    hread, Bool.false_eq_true, if_false]

end Json

namespace Preferences

open Json

/-- The value of an optional text is read back. -/
theorem readText_render (set : Preferences → Option String → Preferences) (depth : Nat)
    (s : Option String) (r : List Char) :
    readText set depth (' ' :: (Json.ofText? s).render ++ r) = .ok (fun p => set p s, r) := by
  cases s with
  | none => rfl
  | some s =>
    have hskip : skipSpace (' ' :: (Json.ofText? (some s)).render ++ r) =
        '"' :: (Quoted.encode s.toList ++ '"' :: r) := by
      rw [Json.ofText?, Json.render, List.cons_append, quote_append]
      rfl
    rw [readText, hskip]
    simp only [readString_encode, bind, Except.bind, String.ofList_toList]
    rfl

/-- A version that has room in 32 bits is read back. -/
theorem readVersion_render (depth : Nat) {n : Nat} (hn : n < Word.count 32) {r : List Char}
    (hr : endsNumber r = true) :
    readVersion depth (' ' :: (Json.integer n).render ++ r) =
      .ok (fun p => { p with version := n }, r) := by
  have hlimit : n < significandLimit := Nat.lt_trans hn (by decide)
  have hnumber : readNumber false (Text.numeral n ++ r) = .ok (.integer n, r) :=
    readNumber_numeral false hlimit hr
  have hrender : (Json.integer n).render = Text.numeral n := by
    rw [Json.integer, Json.render, JsonNumber.render, Text.signedNumeral, if_neg (by omega),
      Int.natAbs_natCast]
  have hdigits : Text.numeral n ≠ [] := Nat.toDigits_ne_nil
  obtain ⟨c, cs, hcs⟩ := List.exists_cons_of_ne_nil hdigits
  have hc : c.isDigit = true := by
    have hmem : c ∈ Text.numeral n := by
      rw [hcs]
      exact List.mem_cons_self
    exact Text.isDigit_of_mem_numeral hmem
  have hspace : isSpace c = false := isSpace_of_isDigit hc
  have hskip : skipSpace (' ' :: (c :: cs) ++ r) = c :: (cs ++ r) := by
    have hone : isSpace ' ' = true := by decide
    rw [skipSpace, List.cons_append, List.dropWhile_cons_of_pos hone, List.cons_append,
      List.dropWhile_cons_of_neg (by simp [hspace])]
  rw [hcs, List.cons_append] at hnumber
  rw [hrender, hcs, readVersion, hskip]
  have hfits : (n : Int) < (Word.count 32 : Int) := by omega
  simp [hc, readScalar_of_isDigit hc, hnumber, Except.map, bind, Except.bind, hfits]
  rfl

/-- Preferences are read back from the text that is saved for them. -/
theorem ofText_render {p : Preferences} (hp : p.version < Word.count 32) :
    ofText p.render = .ok p := by
  -- The text, cut where the value of each field ends.
  let start : Preferences := ⟨0, none, none⟩
  let setPage (p : Preferences) (s : Option String) : Preferences := { p with pageUrl := s }
  let setQuery (p : Preferences) (s : Option String) : Preferences := { p with lastQuery := s }
  let afterQuery : List Char := ['\n', '\x7d']
  let afterPage : List Char := [',', '\n', ' ', ' '] ++ (quote "last_query" ++
    ':' :: ' ' :: (Json.ofText? p.lastQuery).render ++ afterQuery)
  let afterVersion : List Char := [',', '\n', ' ', ' '] ++ (quote "page_url" ++
    ':' :: ' ' :: (Json.ofText? p.pageUrl).render ++ afterPage)
  let body : List Char := ['\n', ' ', ' '] ++ (quote "version" ++
    ':' :: ' ' :: (Json.integer p.version).render ++ afterVersion)
  have hbody : p.render.toList = '\x7b' :: body := by
    simp [render, memberLines, memberLine, body, afterVersion, afterPage, afterQuery]
  -- Each field takes one step and sets its own part, and after the last all parts are those of `p`.
  have hversion (fuel : Nat) : schema.readFields (depthLimit - 1) (fuel + 1) true [] start body =
      schema.readFields (depthLimit - 1) fuel false ["version"] { start with version := p.version }
        afterVersion :=
    readFields_field schema ⟨"version", true, readVersion⟩ ['\n', ' ', ' '] (fun _ => rfl) rfl rfl
      (readVersion_render (depthLimit - 1) hp rfl)
  have hpage (fuel : Nat) : schema.readFields (depthLimit - 1) (fuel + 1) false ["version"]
        { start with version := p.version } afterVersion =
      schema.readFields (depthLimit - 1) fuel false ["page_url", "version"]
        { start with version := p.version, pageUrl := p.pageUrl } afterPage :=
    readFields_field schema ⟨"page_url", false, readText setPage⟩ [',', '\n', ' ', ' ']
      (fun _ => rfl) rfl rfl (readText_render setPage (depthLimit - 1) p.pageUrl afterPage)
  have hquery (fuel : Nat) : schema.readFields (depthLimit - 1) (fuel + 1) false
        ["page_url", "version"] { start with version := p.version, pageUrl := p.pageUrl }
        afterPage =
      schema.readFields (depthLimit - 1) fuel false ["last_query", "page_url", "version"] p
        afterQuery :=
    readFields_field schema ⟨"last_query", false, readText setQuery⟩ [',', '\n', ' ', ' ']
      (fun _ => rfl) rfl rfl (readText_render setQuery (depthLimit - 1) p.lastQuery afterQuery)
  have hend (fuel : Nat) : schema.readFields (depthLimit - 1) (fuel + 1) false
      ["last_query", "page_url", "version"] p afterQuery = .ok (p, ['\x7d']) := rfl
  have hfields : schema.readFields (depthLimit - 1) (enough body) true [] start body =
      .ok (p, ['\x7d']) := by
    obtain ⟨fuel, hfuel⟩ : ∃ fuel, enough body = fuel + 4 := ⟨enough body - 4, by
      have hlength : 1 ≤ body.length := by simp [body]
      simp only [enough]
      omega⟩
    rw [hfuel, hversion, hpage, hquery, hend]
  have hread : schema.read start p.render.toList = .ok (p, []) := by
    have hskip : skipSpace ('\x7b' :: body) = '\x7b' :: body := rfl
    rw [hbody, Schema.read, hskip]
    simp only [hfields]
    rfl
  rw [ofText, Schema.ofText, hread]
  rfl

variable {p : Preferences} {path : String} {fs fs' g : FileSystem}

theorem load_eq_some_iff : load fs path = some p ↔
    ∃ text, fs.readText path = .ok text ∧ ofText text = .ok p ∧ p.version = currentVersion := by
  rw [load, inspect]
  cases hread : fs.readText path with
  | error e => cases e <;> simp [Loading.result?]
  | ok text =>
    cases hrecord : ofText text with
    | error f => simp [Loading.result?, hrecord]
    | ok q =>
      by_cases hversion : q.version = currentVersion
      · simp only [hrecord, if_pos hversion, Loading.result?, Option.some.injEq, Except.ok.injEq,
          exists_eq_left']
        constructor
        · rintro rfl
          exact ⟨rfl, hversion⟩
        · exact fun h => h.1
      · simp only [hrecord, if_neg hversion, Loading.result?, Except.ok.injEq, exists_eq_left']
        constructor
        · intro h
          cases h
        · rintro ⟨rfl, h⟩
          exact absurd h hversion

theorem load_of_readText (hp : p.version < Word.count 32) (h : fs.readText path = .ok p.render) :
    load fs path = if p.version = currentVersion then some p else none := by
  split
  case isTrue hversion => exact load_eq_some_iff.mpr ⟨_, h, ofText_render hp, hversion⟩
  case isFalse hversion =>
    rw [Option.eq_none_iff_forall_ne_some]
    intro q hq
    obtain ⟨text, htext, hrecord, hcurrent⟩ := load_eq_some_iff.mp hq
    rw [h] at htext
    rw [← Except.ok.inj htext, ofText_render hp] at hrecord
    exact hversion (Except.ok.inj hrecord ▸ hcurrent)

/-- A save without fault leaves the whole text at the path, whatever path it is. -/
theorem readText_of_save (h : p.save path fs = (.ok (), fs')) :
    fs'.readText path = .ok p.render := by
  obtain ⟨log, hgoes⟩ := Plan.goes_run (savePlan p path) fs
  have hrun : (savePlan p path).run fs = (.ok (), fs') := h
  rw [hrun] at hgoes
  exact readText_of_named hgoes ((done_ok_iff_named hgoes).mp rfl)

end Preferences

end LiveTail
