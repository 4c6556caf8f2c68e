import LiveTail.Proofs.Readback
import Mathlib.Data.List.DropRight
import Mathlib.Data.List.Induction
/-! A value is read back from its text, however its arrays and objects are nested, as long as they
are no deeper than a text may be and its numbers are whole. What was read from a text is that deep
at most, with the keys of each object in order. -/
namespace LiveTail

/-! ### Entries in order -/

namespace Entries

variable {α : Type}

theorem mem_of_get? {key : String} {value : α} {m : Entries α} (h : m.get? key = some value) :
    (key, value) ∈ m := by
  induction m with
  | nil => cases h
  | cons e r ih =>
    obtain ⟨k, v⟩ := e
    rw [get?] at h
    split at h
    case isTrue hk =>
      injection h with h
      rw [hk, h]
      exact List.mem_cons_self
    case isFalse => exact List.mem_cons_of_mem _ (ih h)

theorem mem_of_mem_insert {key : String} {value : α} {m : Entries α} {e : String × α}
    (h : e ∈ m.insert key value) : e = (key, value) ∨ e ∈ m := by
  induction m with
  | nil => exact .inl (List.mem_singleton.mp h)
  | cons f r ih =>
    obtain ⟨k, v⟩ := f
    rw [insert] at h
    split at h
    · exact (List.mem_cons.mp h).imp_right id
    split at h
    · exact (List.mem_cons.mp h).imp_right (List.mem_cons_of_mem _)
    · rcases List.mem_cons.mp h with rfl | h
      · exact .inr List.mem_cons_self
      · exact (ih h).imp_right (List.mem_cons_of_mem _)

theorem sorted_insert (key : String) (value : α) {m : Entries α} (h : m.Sorted) :
    (m.insert key value).Sorted := by
  induction m with
  | nil => exact List.pairwise_singleton _ _
  | cons f r ih =>
    obtain ⟨k, v⟩ := f
    obtain ⟨hfirst, hr⟩ := List.pairwise_cons.mp h
    rw [insert]
    split
    case isTrue hlt =>
      refine List.pairwise_cons.mpr ⟨?_, h⟩
      intro e he
      rcases List.mem_cons.mp he with rfl | he
      · exact hlt
      · exact String.lt_trans hlt (hfirst e he)
    case isFalse hlt =>
      split
      case isTrue heq => exact List.pairwise_cons.mpr ⟨heq ▸ hfirst, hr⟩
      case isFalse hne =>
        have hkey : k < key :=
          String.not_le.mp fun hle => hne (String.le_antisymm hle (String.not_lt.mp hlt))
        refine List.pairwise_cons.mpr ⟨?_, ih hr⟩
        intro e he
        rcases mem_of_mem_insert he with rfl | he
        · exact hkey
        · exact hfirst e he

/-- A name behind all others is set at the end. -/
theorem insert_eq_append {key : String} (value : α) {m : Entries α} (h : ∀ e ∈ m, e.1 < key) :
    m.insert key value = m ++ [(key, value)] := by
  induction m with
  | nil => rfl
  | cons f r ih =>
    obtain ⟨k, v⟩ := f
    have hkey : k < key := h (k, v) List.mem_cons_self
    have hlt : ¬ key < k := String.lt_asymm hkey
    have hne : key ≠ k := fun heq => String.lt_irrefl k (heq ▸ hkey)
    rw [insert, if_neg hlt, if_neg hne, ih fun e he => h e (List.mem_cons_of_mem _ he),
      List.cons_append]

theorem sorted_of_keys {m : Entries α} (h : (m.map Prod.fst).Pairwise (· < ·)) : m.Sorted :=
  List.pairwise_map.mp h

theorem ofList_concat (l : List (String × α)) (key : String) (value : α) :
    ofList (l ++ [(key, value)]) = (ofList l).insert key value := by
  rw [ofList, List.foldl_append, ofList, List.foldl_cons, List.foldl_nil]

theorem mem_of_mem_ofList {l : List (String × α)} {e : String × α} (h : e ∈ ofList l) : e ∈ l := by
  induction l using List.reverseRecOn with
  | nil => exact h
  | append_singleton l f ih =>
    rw [ofList_concat] at h
    rcases mem_of_mem_insert h with rfl | h
    · exact List.mem_append_right _ List.mem_cons_self
    · exact List.mem_append_left _ (ih h)

theorem sorted_ofList (l : List (String × α)) : (ofList l).Sorted := by
  induction l using List.reverseRecOn with
  | nil => exact List.Pairwise.nil
  | append_singleton l f ih =>
    rw [ofList_concat]
    exact sorted_insert f.1 f.2 ih

theorem ofList_of_sorted {l : Entries α} (h : l.Sorted) : ofList l = l := by
  induction l using List.reverseRecOn with
  | nil => rfl
  | append_singleton l f ih =>
    obtain ⟨hl, -, hlast⟩ := List.pairwise_append.mp h
    rw [ofList_concat, ih hl]
    exact insert_eq_append f.2 fun e he => hlast e he f List.mem_cons_self

end Entries

theorem bind_eq_ok_iff {ε α β : Type} {x : Except ε α} {f : α → Except ε β} {b : β} :
    x.bind f = .ok b ↔ ∃ a, x = .ok a ∧ f a = .ok b := by
  cases x <;> simp [Except.bind]

namespace Json

/-! ### Texts and the values they are read as -/

/-- A text is read as a value wherever it stands, and as many steps as it has characters are
enough. -/
def ReadsAs (depth : Nat) (cs : List Char) (v : Json) : Prop :=
  ∀ fuel r, cs.length ≤ fuel → endsNumber r = true →
    readValue fuel depth (cs ++ r) = .ok (v, r)

theorem ReadsAs.ofText {cs : List Char} {v : Json} (h : ReadsAs depthLimit cs v) :
    Json.ofText (.ofList cs) = .ok v := by
  have hfuel : cs.length ≤ enough cs := by
    rw [enough]
    omega
  have hread := h (enough cs) [] hfuel rfl
  rw [List.append_nil] at hread
  rw [Json.ofText, String.toList_ofList, readNested, hread]
  rfl

theorem ReadsAs.length_pos {depth : Nat} {cs : List Char} {v : Json} (h : ReadsAs depth cs v) :
    0 < cs.length := by
  by_contra hempty
  have hread := h 0 [] (Nat.not_lt.mp hempty) rfl
  rw [readValue] at hread
  cases hread

theorem skipSpace_of_not_space {c : Char} (h : isSpace c = false) (r : List Char) :
    skipSpace (c :: r) = c :: r :=
  List.dropWhile_cons_of_neg (by simp [h])

theorem readValue_scalar (fuel depth : Nat) {c : Char} (r : List Char)
    (hspace : isSpace c = false) (hlist : c ≠ '[') (hobject : c ≠ '\x7b') :
    readValue (fuel + 1) depth (c :: r) = readScalar c r := by
  rw [readValue, skipSpace_of_not_space hspace]
  simp only [hlist, hobject, if_false]

/-- A text that begins like no array or object is read as its words are. -/
theorem readsAs_scalar {depth : Nat} {c : Char} {cs : List Char} {v : Json}
    (hspace : isSpace c = false) (hlist : c ≠ '[') (hobject : c ≠ '\x7b')
    (h : ∀ r, endsNumber r = true → readScalar c (cs ++ r) = .ok (v, r)) :
    ReadsAs depth (c :: cs) v := by
  intro fuel r hfuel hr
  obtain ⟨fuel, rfl⟩ : ∃ n, fuel = n + 1 := by
    rw [List.length_cons] at hfuel
    exact ⟨fuel - 1, by omega⟩
  rw [List.cons_append, readValue_scalar fuel depth _ hspace hlist hobject]
  exact h r hr

theorem readsAs_quote (depth : Nat) (s : String) : ReadsAs depth (quote s) (.text s) := by
  have hquote : quote s = '"' :: (Quoted.encode s.toList ++ ['"']) := rfl
  rw [hquote]
  refine readsAs_scalar (by decide) (by decide) (by decide) ?_
  intro r _
  rw [List.append_assoc, List.singleton_append]
  simp [readScalar, readString_encode, Except.map]

/-- The numeral of an integer and what may carry it on are read as one number. -/
theorem readsAs_numeral (depth : Nat) {n : Int} (hn : n.natAbs < significandLimit)
    {tail : List Char} {x : JsonNumber}
    (hstart : ∀ r, endsNumber r = true → startsDigit (tail ++ r) = false)
    (htail : ∀ r, endsNumber r = true →
      readTail (decide (n < 0)) n.natAbs (tail ++ r) = .ok (x, r)) :
    ReadsAs depth (Text.signedNumeral n ++ tail) (.number x) := by
  -- a minus sign is read apart from the digits, and no sign leaves their first one to begin with
  by_cases hneg : n < 0
  · rw [Text.signedNumeral, if_pos hneg]
    refine readsAs_scalar (by decide) (by decide) (by decide) ?_
    intro r hr
    have hread := readNumber_numeral_append true hn (hstart r hr)
    have hrest := htail r hr
    rw [decide_eq_true hneg] at hrest
    rw [hrest, ← List.append_assoc] at hread
    exact congrArg (Except.map fun p => (Json.number p.1, p.2)) hread
  · have hdigits : Text.numeral n.natAbs ≠ [] := Nat.toDigits_ne_nil
    obtain ⟨c, cs, hcs⟩ := List.exists_cons_of_ne_nil hdigits
    have hc : c.isDigit = true := by
      have hmem : c ∈ Text.numeral n.natAbs := hcs ▸ List.mem_cons_self
      exact Text.isDigit_of_mem_numeral hmem
    rw [Text.signedNumeral, if_neg hneg, hcs]
    refine readsAs_scalar (isSpace_of_isDigit hc) (ne_of_isDigit hc (by decide))
      (ne_of_isDigit hc (by decide)) ?_
    intro r hr
    have hread := readNumber_numeral_append false hn (hstart r hr)
    have hrest := htail r hr
    rw [decide_eq_false hneg] at hrest
    rw [hrest, hcs, List.cons_append, ← List.append_assoc] at hread
    rw [readScalar_of_isDigit hc]
    exact congrArg (Except.map _) hread

theorem readsAs_integer (depth : Nat) {n : Int} (hlow : -(Word.count 63 : Int) ≤ n)
    (hhigh : n < (Word.count 64 : Int)) :
    ReadsAs depth (Text.signedNumeral n) (.integer n) := by
  have hcount : Word.count 63 < Word.count 64 := by decide
  have hlimit : n.natAbs < significandLimit := by
    have hroom : n.natAbs < Word.count 64 := by omega
    exact hroom
  have hwhole : wholeNumber (decide (n < 0)) n.natAbs = .integer n := by
    by_cases hneg : n < 0
    · have hpos : 0 < n.natAbs := by omega
      have hroom : n.natAbs ≤ Word.count 63 := by omega
      have hvalue : -(n.natAbs : Int) = n := by omega
      simp only [wholeNumber, hneg, hpos, hroom, hvalue, decide_true, Bool.not_true, Bool.and_self,
        Bool.false_eq_true, if_false, if_true]
    · have hvalue : (n.natAbs : Int) = n := by omega
      simp only [wholeNumber, hneg, hvalue, decide_false, Bool.not_false, if_true]
  rw [← List.append_nil (Text.signedNumeral n)]
  refine readsAs_numeral depth hlimit (fun r hr => startsDigit_of_endsNumber hr) ?_
  intro r hr
  rw [List.nil_append, readTail_of_endsNumber _ _ hr, hwhole]

/-! ### Arrays -/

/-- What stands behind an item of an array: the closing bracket, or a comma and further items. -/
def renderFollowing : List Json → List Char
  | [] => [']']
  | v :: items => ',' :: renderItems (v :: items)

theorem renderItems_cons (v : Json) (items : List Json) :
    renderItems (v :: items) = render v ++ renderFollowing items := by
  cases items with
  | nil => rfl
  | cons w items => rfl

theorem endsNumber_renderFollowing (items : List Json) (r : List Char) :
    endsNumber (renderFollowing items ++ r) = true := by
  cases items with
  | nil => rfl
  | cons v items => rfl

/-- Where a value can be read, an item begins. -/
theorem exists_of_readValue {fuel depth : Nat} {cs : List Char} {p : Json × List Char}
    (h : readValue fuel depth cs = .ok p) :
    ∃ c r, skipSpace cs = c :: r ∧ c ≠ ']' ∧ readValue fuel depth (c :: r) = .ok p := by
  cases fuel with
  | zero =>
    rw [readValue] at h
    cases h
  | succ fuel =>
    have hskip : skipSpace (skipSpace cs) = skipSpace cs :=
      List.dropWhile_idempotent isSpace cs
    rw [readValue] at h
    cases hcs : skipSpace cs with
    | nil =>
      rw [hcs] at h
      cases h
    | cons c r =>
      rw [hcs] at h hskip
      refine ⟨c, r, rfl, ?_, ?_⟩
      · rintro rfl
        cases h
      · rw [readValue, hskip]
        exact h

/-- One item, behind the comma if it is not the first one. -/
theorem readItems_item {fuel depth : Nat} (first : Bool) {cs r : List Char} {v : Json}
    {p : List Json × List Char}
    (hv : readValue fuel depth cs = .ok (v, r))
    (hrest : readItems fuel depth false r = .ok p) :
    readItems (fuel + 1) depth first (if first then cs else ',' :: cs) =
      .ok (v :: p.1, p.2) := by
  obtain ⟨c, left, hskip, hc, hread⟩ := exists_of_readValue hv
  have hnext : nextItem first (if first then cs else ',' :: cs) = .ok (.more (c :: left)) := by
    cases first with
    | true => simp [nextItem, hskip, hc]
    | false =>
      have hcomma : skipSpace (',' :: cs) = ',' :: cs := skipSpace_of_not_space (by decide) cs
      simp [nextItem, hcomma, hskip, hc]
  rw [readItems, hnext]
  simp only [bind, Except.bind, hread, hrest]
  rfl

/-- The steps that are left after an item are enough for what stands behind it. -/
theorem readItems_renderFollowing {depth : Nat} {items : List Json}
    (hitems : ∀ v ∈ items, ReadsAs depth (render v) v) (r : List Char) (fuel : Nat)
    (hfuel : (renderFollowing items).length ≤ fuel) :
    readItems fuel depth false (renderFollowing items ++ r) = .ok (items, ']' :: r) := by
  induction items generalizing fuel with
  | nil =>
    obtain ⟨fuel, rfl⟩ : ∃ n, fuel = n + 1 := ⟨fuel - 1, by simp [renderFollowing] at hfuel; omega⟩
    rfl
  | cons v items ih =>
    rw [renderFollowing, renderItems_cons, List.length_cons, List.length_append] at hfuel
    obtain ⟨fuel, rfl⟩ : ∃ n, fuel = n + 1 := ⟨fuel - 1, by omega⟩
    have hrest := ih (fun w hw => hitems w (List.mem_cons_of_mem _ hw)) fuel (by omega)
    have hv := hitems v List.mem_cons_self fuel (renderFollowing items ++ r) (by omega)
      (endsNumber_renderFollowing items r)
    rw [renderFollowing, renderItems_cons, List.cons_append, List.append_assoc]
    exact readItems_item false hv hrest

theorem length_renderFollowing_pos (items : List Json) : 0 < (renderFollowing items).length := by
  cases items with
  | nil => exact Nat.one_pos
  | cons v items => exact Nat.succ_pos _

theorem readItems_renderItems {depth : Nat} {items : List Json}
    (hitems : ∀ v ∈ items, ReadsAs depth (render v) v) (r : List Char) (fuel : Nat)
    (hfuel : (renderItems items).length ≤ fuel) :
    readItems fuel depth true (renderItems items ++ r) = .ok (items, ']' :: r) := by
  cases items with
  | nil =>
    obtain ⟨fuel, rfl⟩ : ∃ n, fuel = n + 1 := ⟨fuel - 1, by simp [renderItems] at hfuel; omega⟩
    rfl
  | cons v items =>
    -- no comma stands in front of the first item, so it is the item that takes up the step
    have hread := hitems v List.mem_cons_self
    have hpos := hread.length_pos
    have hfollowing := length_renderFollowing_pos items
    rw [renderItems_cons, List.length_append] at hfuel
    obtain ⟨fuel, rfl⟩ : ∃ n, fuel = n + 1 := ⟨fuel - 1, by omega⟩
    have hrest := readItems_renderFollowing
      (fun w hw => hitems w (List.mem_cons_of_mem _ hw)) r fuel (by omega)
    have hv := hread fuel (renderFollowing items ++ r) (by omega)
      (endsNumber_renderFollowing items r)
    rw [renderItems_cons, List.append_assoc]
    exact readItems_item true hv hrest

/-- An array is read back if its items are. -/
theorem readsAs_array {depth : Nat} {items : List Json}
    (hitems : ∀ v ∈ items, ReadsAs depth (render v) v) :
    ReadsAs (depth + 1) (render (.array items)) (.array items) := by
  intro fuel r hfuel _
  rw [render, List.length_cons] at hfuel
  obtain ⟨fuel, rfl⟩ : ∃ n, fuel = n + 1 := ⟨fuel - 1, by omega⟩
  have hread := readItems_renderItems hitems r fuel (by omega)
  rw [render, List.cons_append, readValue, skipSpace_of_not_space (by decide)]
  simp only [if_true, bind, Except.bind, hread]
  rfl

/-! ### Objects -/

/-- What stands behind the value of a member: the closing brace, or a comma and further members. -/
def renderRest : List (String × Json) → List Char
  | [] => ['\x7d']
  | m :: members => ',' :: renderMembers (m :: members)

theorem renderMembers_cons (k : String) (v : Json) (members : List (String × Json)) :
    renderMembers ((k, v) :: members) =
      quote k ++ ':' :: (render v ++ renderRest members) := by
  cases members with
  | nil => simp [renderMembers, renderRest]
  | cons m members => simp [renderMembers, renderRest]

theorem endsNumber_renderRest (members : List (String × Json)) (r : List Char) :
    endsNumber (renderRest members ++ r) = true := by
  cases members with
  | nil => rfl
  | cons m members => rfl

/-- One member, behind whatever leads to its key. -/
theorem readMembers_member (lead : List Char) {fuel depth : Nat} {first : Bool} {k : String}
    {v : Json} {cs r : List Char} {p : List (String × Json) × List Char}
    (hlead : ∀ r, nextKey first (lead ++ '"' :: r) = .ok (.more r))
    (hv : readValue fuel depth cs = .ok (v, r))
    (hrest : readMembers fuel depth false r = .ok p) :
    readMembers (fuel + 1) depth first (lead ++ (quote k ++ ':' :: cs)) =
      .ok ((k, v) :: p.1, p.2) := by
  have hcolon : readColon (':' :: cs) = .ok cs := rfl
  rw [quote_append k, readMembers, hlead]
  simp only [bind, Except.bind, readString_encode, hcolon, hv, String.ofList_toList, hrest]
  rfl

theorem readMembers_renderRest {depth : Nat} {members : List (String × Json)}
    (hmembers : ∀ m ∈ members, ReadsAs depth (render m.2) m.2) (r : List Char) (fuel : Nat)
    (hfuel : (renderRest members).length ≤ fuel) :
    readMembers fuel depth false (renderRest members ++ r) = .ok (members, '\x7d' :: r) := by
  induction members generalizing fuel with
  | nil =>
    obtain ⟨fuel, rfl⟩ : ∃ n, fuel = n + 1 := ⟨fuel - 1, by simp [renderRest] at hfuel; omega⟩
    rfl
  | cons m members ih =>
    obtain ⟨k, v⟩ := m
    rw [renderRest, renderMembers_cons] at hfuel
    simp only [List.length_cons, List.length_append] at hfuel
    obtain ⟨fuel, rfl⟩ : ∃ n, fuel = n + 1 := ⟨fuel - 1, by omega⟩
    have hrest := ih (fun n hn => hmembers n (List.mem_cons_of_mem _ hn)) fuel (by omega)
    have hread : ReadsAs depth (render v) v := hmembers (k, v) List.mem_cons_self
    have hv := hread fuel (renderRest members ++ r) (by omega)
      (endsNumber_renderRest members r)
    rw [renderRest, renderMembers_cons, List.cons_append, List.append_assoc, List.cons_append,
      List.append_assoc]
    exact readMembers_member [','] (fun _ => rfl) hv hrest

theorem readMembers_renderMembers {depth : Nat} {members : List (String × Json)}
    (hmembers : ∀ m ∈ members, ReadsAs depth (render m.2) m.2) (r : List Char) (fuel : Nat)
    (hfuel : (renderMembers members).length ≤ fuel) :
    readMembers fuel depth true (renderMembers members ++ r) = .ok (members, '\x7d' :: r) := by
  cases members with
  | nil =>
    obtain ⟨fuel, rfl⟩ : ∃ n, fuel = n + 1 := ⟨fuel - 1, by simp [renderMembers] at hfuel; omega⟩
    rfl
  | cons m members =>
    obtain ⟨k, v⟩ := m
    have hread : ReadsAs depth (render v) v := hmembers (k, v) List.mem_cons_self
    rw [renderMembers_cons] at hfuel
    simp only [quote, List.length_cons, List.length_append] at hfuel
    obtain ⟨fuel, rfl⟩ : ∃ n, fuel = n + 1 := ⟨fuel - 1, by omega⟩
    have hrest := readMembers_renderRest
      (fun n hn => hmembers n (List.mem_cons_of_mem _ hn)) r fuel (by omega)
    have hv := hread fuel (renderRest members ++ r) (by omega)
      (endsNumber_renderRest members r)
    rw [renderMembers_cons, List.append_assoc, List.cons_append, List.append_assoc]
    exact readMembers_member [] (fun _ => rfl) hv hrest

/-- An object is read as its members are, of which the last one of a name counts. -/
theorem readsAs_object {depth : Nat} {members : List (String × Json)}
    (hmembers : ∀ m ∈ members, ReadsAs depth (render m.2) m.2) :
    ReadsAs (depth + 1) (render (.object members)) (.ofMembers members) := by
  intro fuel r hfuel _
  rw [render, List.length_cons] at hfuel
  obtain ⟨fuel, rfl⟩ : ∃ n, fuel = n + 1 := ⟨fuel - 1, by omega⟩
  have hread := readMembers_renderMembers hmembers r fuel (by omega)
  have hbrace : ('\x7b' : Char) ≠ '[' := by decide
  rw [render, List.cons_append, readValue, skipSpace_of_not_space (by decide)]
  simp only [hbrace, if_false, if_true, bind, Except.bind, hread]
  rfl

/-! ### Whole values -/

/-- All numbers in a value are whole, with room in a word of 64 bits with a sign or without. -/
inductive Whole : Json → Prop
  | null : Whole .null
  | boolean {b} : Whole (.boolean b)
  | number {n : Int} : -(Word.count 63 : Int) ≤ n → n < (Word.count 64 : Int) →
      Whole (.number (.integer n))
  | text {s} : Whole (.text s)
  | array {items} : (∀ v ∈ items, Whole v) → Whole (.array items)
  | object {members} : (∀ m ∈ members, Whole m.2) → Whole (.object members)

/-- What a text may be read as: arrays and objects are so deep at most, and each object has its keys
in order. -/
inductive Readable : Nat → Json → Prop
  | null {depth} : Readable depth .null
  | boolean {depth b} : Readable depth (.boolean b)
  | number {depth n} : Readable depth (.number n)
  | text {depth s} : Readable depth (.text s)
  | array {depth items} : (∀ v ∈ items, Readable depth v) → Readable (depth + 1) (.array items)
  | object {depth members} : Entries.Sorted members → (∀ m ∈ members, Readable depth m.2) →
      Readable (depth + 1) (.object members)

theorem Readable.mono {depth deeper : Nat} {v : Json} (h : Readable depth v)
    (hle : depth ≤ deeper) : Readable deeper v := by
  induction h generalizing deeper with
  | null => exact .null
  | boolean => exact .boolean
  | number => exact .number
  | text => exact .text
  | array _ ih =>
    obtain ⟨deeper, rfl⟩ : ∃ n, deeper = n + 1 := ⟨deeper - 1, by omega⟩
    exact .array fun v hv => ih v hv (by omega)
  | object hsorted _ ih =>
    obtain ⟨deeper, rfl⟩ : ∃ n, deeper = n + 1 := ⟨deeper - 1, by omega⟩
    exact .object hsorted fun m hm => ih m hm (by omega)

/-- A whole value is read back from its text. -/
theorem Readable.readsAs {depth : Nat} {v : Json} (h : Readable depth v) (hwhole : Whole v) :
    ReadsAs depth (render v) v := by
  induction h with
  | null => exact readsAs_scalar (by decide) (by decide) (by decide) fun _ _ => rfl
  | @boolean depth b =>
    cases b with
    | true => exact readsAs_scalar (by decide) (by decide) (by decide) fun _ _ => rfl
    | false => exact readsAs_scalar (by decide) (by decide) (by decide) fun _ _ => rfl
  | @number depth n =>
    obtain ⟨hlow, hhigh⟩ := hwhole
    exact readsAs_integer depth ‹_› ‹_›
  | @text depth s => exact readsAs_quote depth s
  | array _ ih =>
    cases hwhole with
    | array hitems => exact readsAs_array fun v hv => ih v hv (hitems v hv)
  | @object depth members hsorted _ ih =>
    cases hwhole with
    | object hmembers =>
      have hread := readsAs_object fun m hm => ih m hm (hmembers m hm)
      rwa [ofMembers, Entries.ofList_of_sorted hsorted] at hread

theorem Readable.ofText_toText {v : Json} (h : Readable depthLimit v) (hwhole : Whole v) :
    Json.ofText v.toText = .ok v :=
  (h.readsAs hwhole).ofText

/-! ### What is read -/

theorem readable_of_readScalar {c : Char} {cs r : List Char} {v : Json}
    (h : readScalar c cs = .ok (v, r)) : Readable 0 v := by
  have hmap {α : Type} {x : Except Stop α} {f : α → Json × List Char}
      (hf : ∀ a, Readable 0 (f a).1) (h : x.map f = .ok (v, r)) : Readable 0 v := by
    cases x with
    | error e => cases h
    | ok a =>
      have ha := hf a
      injection h with h
      rwa [h] at ha
  unfold readScalar at h
  split at h
  · exact hmap (fun _ => .null) h
  split at h
  · exact hmap (fun _ => .boolean) h
  split at h
  · exact hmap (fun _ => .boolean) h
  split at h
  · exact hmap (fun _ => .number) h
  split at h
  · exact hmap (fun _ => .number) h
  split at h
  · exact hmap (fun _ => .text) h
  · cases h

/-- What the three readers give after so many steps. -/
theorem readable_of_read (fuel : Nat) :
    (∀ depth cs v r, readValue fuel depth cs = .ok (v, r) → Readable depth v) ∧
    (∀ depth first cs items r, readItems fuel depth first cs = .ok (items, r) →
      ∀ v ∈ items, Readable depth v) ∧
    ∀ depth first cs members r, readMembers fuel depth first cs = .ok (members, r) →
      ∀ m ∈ members, Readable depth m.2 := by
  -- each of the readers calls the others with one step less
  induction fuel with
  | zero =>
    refine ⟨?_, ?_, ?_⟩
    · intro depth cs v r h
      rw [readValue] at h
      cases h
    · intro depth first cs items r h
      rw [readItems] at h
      cases h
    · intro depth first cs members r h
      rw [readMembers] at h
      cases h
  | succ fuel ih =>
    obtain ⟨hvalue, hitems, hmembers⟩ := ih
    refine ⟨?_, ?_, ?_⟩
    · intro depth cs v r h
      rw [readValue] at h
      split at h
      · cases h
      split at h
      · split at h
        · cases h
        · obtain ⟨⟨items, left⟩, hread, h⟩ := bind_eq_ok_iff.1 h
          obtain ⟨_, -, h⟩ := bind_eq_ok_iff.1 h
          cases h
          exact .array (hitems _ _ _ _ _ hread)
      split at h
      · split at h
        · cases h
        · obtain ⟨⟨members, left⟩, hread, h⟩ := bind_eq_ok_iff.1 h
          obtain ⟨_, -, h⟩ := bind_eq_ok_iff.1 h
          cases h
          exact .object (Entries.sorted_ofList members) fun m hm =>
            hmembers _ _ _ _ _ hread m (Entries.mem_of_mem_ofList hm)
      · exact (readable_of_readScalar h).mono (Nat.zero_le _)
    · intro depth first cs items r h
      rw [readItems] at h
      obtain ⟨next, -, h⟩ := bind_eq_ok_iff.1 h
      cases next with
      | done left =>
        cases h
        exact fun v hv => absurd hv List.not_mem_nil
      | more left =>
        obtain ⟨⟨v, left⟩, hfirst, h⟩ := bind_eq_ok_iff.1 h
        obtain ⟨⟨rest, left⟩, hrest, h⟩ := bind_eq_ok_iff.1 h
        cases h
        intro w hw
        rcases List.mem_cons.mp hw with rfl | hw
        · exact hvalue _ _ _ _ hfirst
        · exact hitems _ _ _ _ _ hrest w hw
    · intro depth first cs members r h
      rw [readMembers] at h
      obtain ⟨next, -, h⟩ := bind_eq_ok_iff.1 h
      cases next with
      | done left =>
        cases h
        exact fun m hm => absurd hm List.not_mem_nil
      | more left =>
        obtain ⟨⟨key, left⟩, -, h⟩ := bind_eq_ok_iff.1 h
        obtain ⟨left, -, h⟩ := bind_eq_ok_iff.1 h
        obtain ⟨⟨v, left⟩, hfirst, h⟩ := bind_eq_ok_iff.1 h
        obtain ⟨⟨rest, left⟩, hrest, h⟩ := bind_eq_ok_iff.1 h
        cases h
        intro m hm
        rcases List.mem_cons.mp hm with rfl | hm
        · exact hvalue _ _ _ _ hfirst
        · exact hmembers _ _ _ _ _ hrest m hm

theorem readEnd_eq_ok {α : Type} {text : List Char} {result : Except Stop (α × List Char)}
    {a : α} (h : readEnd text result = .ok a) : ∃ r, result = .ok (a, r) := by
  unfold readEnd at h
  split at h
  · cases h
  · split at h
    · injection h with h
      exact ⟨_, by rw [h]⟩
    · cases h

theorem readable_of_ofText {text : String} {v : Json} (h : ofText text = .ok v) :
    Readable depthLimit v := by
  obtain ⟨r, hread⟩ := readEnd_eq_ok h
  exact (readable_of_read _).1 _ _ _ _ hread

end Json

end LiveTail
