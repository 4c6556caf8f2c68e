import LiveTail.Proofs.Effects
/-! Saving preferences while anything can go wrong: an action can be refused, a write can be cut
short, and all can stop at any point. What can be loaded is what could be loaded before, until the
new file has its name. This takes a path that does not go back up from a missing directory: the save
may make that directory, and the path then leads to a file that was there all along. -/
namespace LiveTail

theorem toList_loop (b : ByteArray) (n : Nat) : ∀ (i : Nat) (r : List UInt8), b.size - i = n →
    ByteArray.toList.loop b i r = r.reverse ++ b.data.toList.drop i := by
  have hsize : b.data.toList.length = b.size := Array.length_toList
  induction n with
  | zero =>
    intro i r hn
    have hi : ¬ i < b.size := by omega
    rw [ByteArray.toList.loop, if_neg hi, List.drop_eq_nil_of_le (by omega), List.append_nil]
  | succ n ih =>
    intro i r hn
    have hi : i < b.data.toList.length := by omega
    have hbyte : b.get! i = b.data.toList[i] := by
      have hget : b.get! i = b.data[i]! := rfl
      rw [hget, getElem!_pos b.data i (by simpa using hi)]
      rfl
    rw [ByteArray.toList.loop, if_pos (by omega), ih (i + 1) _ (by omega),
      List.drop_eq_getElem_cons hi, hbyte, List.reverse_cons, List.append_assoc,
      List.singleton_append]

theorem toList_byteArray (b : ByteArray) : b.toList = b.data.toList := by
  rw [ByteArray.toList, toList_loop b _ 0 [] rfl]
  rfl

/-- A text is read back from its bytes. -/
theorem fromUTF8?_bytes (s : String) : String.fromUTF8? ⟨s.toUTF8.toList.toArray⟩ = some s := by
  rw [toList_byteArray]
  have hbytes : (⟨s.toUTF8.data.toList.toArray⟩ : ByteArray) = s.toUTF8 := rfl
  have hvalid : s.toUTF8.IsValidUTF8 := s.isValidUTF8
  rw [hbytes, String.fromUTF8?, dif_pos hvalid]
  rfl

namespace Preferences

open FileSystem

variable {p : Preferences} {path : String} {fs fs' : FileSystem} {log : FileLog}
  {rest : Plan (Except SaveFault Unit)} {r : Except SaveFault Unit}

theorem replacePlan_only (p : Preferences) (path : String) :
    (replacePlan p path).Only (fun a => ¬ a.IsMaking) := by
  refine .act id ?_
  rintro (e | u)
  · exact .done _
  · refine .act id ?_
    rintro (e | u)
    · exact .act id (fun _ => .done _)
    · exact .done _

/-- The action that writes the temporary file. -/
def writing (p : Preferences) (path : String) : FileAction :=
  .write (temporaryPath path) p.render.toUTF8.toList

/-- The action that gives the new file its name. -/
def naming (path : String) : FileAction := .rename (temporaryPath path) path

/-- The action that clears the temporary file away. -/
def clearing (path : String) : FileAction := .remove (temporaryPath path)

/-- How far the replacing of the file has come, with what is left of the plan. -/
inductive Replacing (p : Preferences) (path : String) (fs : FileSystem) :
    FileLog → Plan (Except SaveFault Unit) → FileSystem → Prop
  | begin : Replacing p path fs [] (replacePlan p path) fs
  | unwritten {e : FileFault} {fs' : FileSystem} :
      Replacing p path fs [(writing p path, .error e)]
        (.done (.error (.temporary (temporaryPath path) e))) fs'
  | written {fs₁ : FileSystem} {rest : Plan (Except SaveFault Unit)}
      (write : fs.Effect (writing p path) fs₁) (pending : ∀ r, rest ≠ .done r) :
      Replacing p path fs [(writing p path, .ok ())] rest fs₁
  | renamed {fs₁ fs₂ : FileSystem} (write : fs.Effect (writing p path) fs₁)
      (rename : fs₁.Effect (naming path) fs₂) :
      Replacing p path fs [(writing p path, .ok ()), (naming path, .ok ())] (.done (.ok ())) fs₂
  | unnamed {fs₁ : FileSystem} {e : FileFault} {rest : Plan (Except SaveFault Unit)}
      (write : fs.Effect (writing p path) fs₁) (pending : ∀ r, rest ≠ .done r) :
      Replacing p path fs [(writing p path, .ok ()), (naming path, .error e)] rest fs₁
  | cleared {fs₁ fs₂ : FileSystem} {e : FileFault} {r : Except FileFault Unit}
      (write : fs.Effect (writing p path) fs₁)
      (remove : r = .ok () → fs₁.Effect (clearing path) fs₂) :
      Replacing p path fs [(writing p path, .ok ()), (naming path, .error e), (clearing path, r)]
        (.done (.error (.final path e))) fs₂

theorem replacing_of_goes (h : (replacePlan p path).Goes fs log rest fs') :
    Replacing p path fs log rest fs' := by
  cases h with
  | stop => exact .begin
  | @act _ _ r _ _ _ _ _ hwrite tail =>
    cases r with
    | error e =>
      cases tail with
      | stop => exact .unwritten
    | ok u =>
      cases tail with
      | stop => exact .written hwrite.ok (fun r hr => by cases hr)
      | @act _ _ r _ _ _ _ _ hrename tail =>
        -- A refused naming is followed by the removal, and only a write can be cut short.
        cases r with
        | ok u =>
          cases tail with
          | stop => exact .renamed hwrite.ok hrename.ok
        | error e =>
          rcases hrename.error with rfl | ⟨_, _, _, hw, -⟩
          · cases tail with
            | stop => exact .unnamed hwrite.ok (fun r hr => by cases hr)
            | act hremove tail =>
              cases tail with
              | stop =>
                refine .cleared hwrite.ok ?_
                rintro rfl
                exact hremove.ok
          · cases hw

/-- The directories that a save makes first. -/
def makeParents (path : String) : Plan (Except FileFault Unit) :=
  match Path.parent? path with
  | none => .done (.ok ())
  | some dir => Plan.makeDirectories (Path.ancestors dir.length dir)

theorem makeParents_only (path : String) : (makeParents path).Only FileAction.IsMaking := by
  unfold makeParents
  split
  · exact .done _
  · exact Plan.makeDirectories_only _

theorem savePlan_eq (p : Preferences) (path : String) :
    savePlan p path = (makeParents path).andThen (fun
      | .error e => .done (.error (.directory ((Path.parent? path).getD "") e))
      | .ok () => replacePlan p path) := by
  unfold savePlan makeParents
  cases Path.parent? path <;> rfl

/-- A save stops while it makes directories, or later. -/
theorem goes_save (h : (savePlan p path).Goes fs log rest fs') :
    ∃ log₁ log₂ fs₁ making, log = log₁ ++ log₂ ∧ (makeParents path).Goes fs log₁ making fs₁ ∧
      (log₂ = [] ∧ fs' = fs₁ ∧ rest ≠ .done (.ok ()) ∨
        (replacePlan p path).Goes fs₁ log₂ rest fs') := by
  rw [savePlan_eq] at h
  rcases Plan.goes_andThen h with
    ⟨making, hfirst, hrest⟩ | ⟨log₁, log₂, r, fs₁, hlog, hfirst, hsecond⟩
  · refine ⟨log, [], fs', making, (List.append_nil log).symm, hfirst, .inl ⟨rfl, rfl, ?_⟩⟩
    intro hdone
    obtain ⟨r, hr, -⟩ := hrest _ hdone
    rcases r with e | u <;> cases hr
  · refine ⟨log₁, log₂, fs₁, _, hlog, hfirst, ?_⟩
    rcases r with e | u
    · cases hsecond with
      | stop => exact .inl ⟨rfl, rfl, fun hdone => by cases hdone⟩
    · exact .inr hsecond

theorem savePlan_only (p : Preferences) (path : String) :
    (savePlan p path).Only (fun a => a = naming path ∨ a.IsMaking ∨
      a = writing p path ∨ a = clearing path) := by
  rw [savePlan_eq]
  apply Plan.Only.andThen
  · exact (makeParents_only path).mono (fun a ha => .inr (.inl ha))
  · rintro (e | u)
    · exact .done _
    · refine .act (.inr (.inr (.inl rfl))) ?_
      rintro (e | u)
      · exact .done _
      · refine .act (.inl rfl) ?_
        rintro (e | u)
        · exact .act (.inr (.inr (.inr rfl))) (fun _ => .done _)
        · exact .done _

/-- Only the file and its temporary file can change. -/
theorem file?_elsewhere (h : (savePlan p path).Goes fs log rest fs') {q : Path.Place}
    (hq : q ≠ Path.locate fs.cwd path) (hq' : q ≠ Path.locate fs.cwd (temporaryPath path)) :
    fs'.file? q = fs.file? q := by
  apply h.file?
  intro e he hplace
  rcases h.only (savePlan_only p path) e he with hnaming | hmaking | hwriting | hclearing
  · simp [hnaming, naming, FileAction.places, hq, hq'] at hplace
  · rw [hmaking.places] at hplace
    cases hplace
  · simp [hwriting, writing, FileAction.places, hq'] at hplace
  · simp [hclearing, clearing, FileAction.places, hq'] at hplace

/-- The file is as it was until the new file has its name. -/
theorem file?_of_unnamed (hname : Path.HasName path) (h : (savePlan p path).Goes fs log rest fs')
    (hlog : (naming path, .ok ()) ∉ log) :
    fs'.file? (Path.locate fs.cwd path) = fs.file? (Path.locate fs.cwd path) := by
  have hne := locate_temporaryPath_ne hname fs.cwd
  apply h.file?
  intro e he hplace
  rcases h.only (savePlan_only p path) e he with hnaming | hmaking | hwriting | hclearing
  · refine ⟨⟨_, _, hnaming⟩, ?_⟩
    intro hok
    have heq : e = (naming path, .ok ()) := Prod.ext hnaming hok
    exact hlog (heq ▸ he)
  · rw [hmaking.places] at hplace
    cases hplace
  · simp [hwriting, writing, FileAction.places, hne.symm] at hplace
  · simp [hclearing, clearing, FileAction.places, hne.symm] at hplace

theorem grown_of_goes_save (h : (savePlan p path).Goes fs log rest fs') : fs.Grown fs' where
  cwd := h.cwd
  kept _ hq := h.kept hq
  fresh q hq := by
    obtain ⟨log₁, log₂, fs₁, making, -, hfirst, ⟨-, rfl, -⟩ | hsecond⟩ := goes_save h
    · exact hfirst.fresh_of_making (makeParents_only path) hq
    · -- The directories are all made before the first file is written.
      have hold := hsecond.old_of_not_making (replacePlan_only p path) hq
      exact hfirst.fresh_of_making (makeParents_only path) hold

/-- What is loaded depends on what can be read. -/
theorem load_congr (h : ∀ bytes, fs'.read path = .ok bytes ↔ fs.read path = .ok bytes) :
    load fs' path = load fs path := by
  have hfailed {fs : FileSystem} {e : FileFault} (hread : fs.read path = .error e) :
      load fs path = none := by
    rw [load, inspect, FileSystem.readText, hread]
    cases e <;> rfl
  cases hread : fs.read path with
  | ok bytes => simp only [load, inspect, FileSystem.readText, hread, (h bytes).mpr hread]
  | error e =>
    cases hread' : fs'.read path with
    | ok bytes =>
      rw [(h bytes).mp hread'] at hread
      cases hread
    | error e' => rw [hfailed hread, hfailed hread']

/-- Files with the same text give the same preferences. -/
theorem load_of_same_text {path' : String} (h : fs'.readText path' = fs.readText path) :
    load fs' path' = load fs path := by
  simp only [load, inspect, h]

theorem readText_of_read {text : String} (h : fs.read path = .ok text.toUTF8.toList) :
    fs.readText path = .ok text := by
  rw [FileSystem.readText, h]
  simp only [fromUTF8?_bytes]

/-- The new file is complete when it has its name. -/
theorem readText_of_named (h : (savePlan p path).Goes fs log rest fs')
    (hlog : (naming path, .ok ()) ∈ log) : fs'.readText path = .ok p.render := by
  obtain ⟨log₁, log₂, fs₁, making, rfl, hfirst, hsecond⟩ := goes_save h
  have hmaking := hfirst.only (makeParents_only path)
  cases List.mem_append.mp hlog with
  | inl hm => exact absurd (hmaking _ hm) id
  | inr hm =>
    rcases hsecond with ⟨rfl, -, -⟩ | hsecond
    · cases hm
    · cases replacing_of_goes hsecond with
      | renamed write rename =>
        -- What is renamed is the file that the write before it left, with all its bytes.
        obtain ⟨⟨bytes, hbytes, hread⟩, -⟩ := rename.read_of_rename
        rw [write.cwd, write.file?_of_write] at hbytes
        rw [← Option.some.inj hbytes] at hread
        exact readText_of_read hread
      | _ => simp [writing, naming, clearing] at hm

/-- A save comes to its end without fault exactly if the new file has its name. -/
theorem done_ok_iff_named (h : (savePlan p path).Goes fs log (.done r) fs') :
    r = .ok () ↔ (naming path, .ok ()) ∈ log := by
  obtain ⟨log₁, log₂, fs₁, making, rfl, hfirst, hsecond⟩ := goes_save h
  have hmaking := hfirst.only (makeParents_only path)
  have hfirst : (naming path, .ok ()) ∉ log₁ := fun hm => hmaking _ hm
  rw [List.mem_append, or_iff_right hfirst]
  rcases hsecond with ⟨rfl, -, hfault⟩ | hsecond
  · have hr : r ≠ .ok () := fun hr => hfault (by rw [hr])
    simp [hr]
  · generalize hrest : Plan.done r = rest at hsecond
    cases replacing_of_goes hsecond with
    | begin => cases hrest
    | unwritten => cases hrest; simp [writing, naming]
    | written write pending => exact absurd hrest.symm (pending r)
    | renamed write rename => cases hrest; simp [writing, naming]
    | unnamed write pending => exact absurd hrest.symm (pending r)
    | cleared write remove => cases hrest; simp [writing, naming, clearing]

/-- Nothing is left of the temporary file once it has another name or is removed. -/
theorem temporary_gone (hname : Path.HasName path) (h : (savePlan p path).Goes fs log rest fs')
    (hlog : (naming path, .ok ()) ∈ log ∨ (clearing path, .ok ()) ∈ log) :
    fs'.node? (Path.locate fs.cwd (temporaryPath path)) = none := by
  have hne := locate_temporaryPath_ne hname fs.cwd
  obtain ⟨log₁, log₂, fs₁, making, rfl, hfirst, hsecond⟩ := goes_save h
  have hmaking := hfirst.only (makeParents_only path)
  have hlater : (naming path, .ok ()) ∈ log₂ ∨ (clearing path, .ok ()) ∈ log₂ := by
    refine hlog.imp (fun hm => ?_) (fun hm => ?_)
    · exact (List.mem_append.mp hm).resolve_left (fun hm => hmaking _ hm)
    · exact (List.mem_append.mp hm).resolve_left (fun hm => hmaking _ hm)
  rcases hsecond with ⟨rfl, -, -⟩ | hsecond
  · simp at hlater
  · rw [← hfirst.cwd] at hne ⊢
    cases replacing_of_goes hsecond with
    | renamed write rename =>
      rw [← write.cwd] at hne ⊢
      exact rename.read_of_rename.2 hne
    | @cleared fs₂ _ e r write remove =>
      have hr : r = .ok () := by simpa [writing, naming, clearing, eq_comm] using hlater
      rw [← write.cwd]
      exact (remove hr).node?_of_remove
    | _ => simp [writing, naming, clearing] at hlater

end Preferences

/-- Preferences beside a temporary file that an earlier save left. -/
def filesWithLeftover : FileSystem where
  nodes := [(["work"], .directory),
    (["work", "prefs.json"],
      .file "\x7b\"version\":1,\"last_query\":\"old\"\x7d".toUTF8.data.toList),
    (["work", "prefs.json.tmp"], .file "\x7b\"vers".toUTF8.data.toList)]
  cwd := ["work"]

theorem sound_filesWithLeftover : filesWithLeftover.Sound :=
  ⟨by decide +kernel, by decide +kernel⟩

end LiveTail
