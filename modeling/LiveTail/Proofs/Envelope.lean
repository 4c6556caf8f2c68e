import LiveTail.Proofs.Nesting
import LiveTail.Protocol.Message
import LiveTail.Protocol.Selector
/-! The frame that carries a selector is read back as it was written, whatever the selector is: none
can end its own quotes, add a member, or take one away. -/
namespace LiveTail

theorem ofMembers_selector (s : String) :
    Json.ofMembers [("type", .text "selector"), ("selector", .text s)] =
      .object [("selector", .text s), ("type", .text "selector")] := by
  have hlt : ("selector" : String) < "type" := by decide
  simp [Json.ofMembers, Entries.ofList, Entries.insert, hlt]

theorem ofText_selectorFrame (s : String) : Json.ofText (selectorFrame s) =
    .ok (.object [("selector", .text s), ("type", .text "selector")]) := by
  let members : List (String × Json) := [("type", .text "selector"), ("selector", .text s)]
  have hmembers : ∀ m ∈ members, Json.ReadsAs (Json.depthLimit - 1) m.2.render m.2 := by
    intro m hm
    rcases List.mem_cons.mp hm with rfl | hm
    · exact Json.readsAs_quote _ _
    · obtain rfl := List.mem_singleton.mp hm
      exact Json.readsAs_quote _ _
  exact (Json.readsAs_object hmembers).ofText.trans (congrArg Except.ok (ofMembers_selector s))

theorem selectorFrame_inj {s t : String} (h : selectorFrame s = selectorFrame t) : s = t := by
  have hread := ofText_selectorFrame s
  rw [h, ofText_selectorFrame t] at hread
  injection hread with hobject
  injection hobject with hmembers
  simp at hmembers
  exact hmembers.symm

theorem decode_selectorFrame (s : String) :
    Message.decode (selectorFrame s) = .error (.unknownType "selector") := by
  have hkind : Entries.get? "type" [("selector", Json.text s), ("type", .text "selector")] =
      some (.text "selector") := by
    simp [Entries.get?]
  rw [Message.decode, ofText_selectorFrame]
  dsimp only
  rw [Message.ofMembers, hkind]
  rfl

/-- Whatever text a selector is, its frame is the object that names it as one and holds it
unchanged. No two selectors have one frame, and no frame of a selector is a message of the backend:
it would be refused for its type. -/
theorem selector_comes_back (s : String) :
    Json.ofText (selectorFrame s) =
        .ok (.object [("selector", .text s), ("type", .text "selector")]) ∧
      (∀ t, selectorFrame t = selectorFrame s ↔ t = s) ∧
      Message.decode (selectorFrame s) = .error (.unknownType "selector") := by
  refine ⟨ofText_selectorFrame s, ?_, decode_selectorFrame s⟩
  intro t
  constructor
  · exact selectorFrame_inj
  · exact congrArg selectorFrame

example : selectorFrame "\",\"type\":\"clear\\\n" =
    "\x7b\"type\":\"selector\",\"selector\":\"\\\",\\\"type\\\":\\\"clear\\\\\\n\"\x7d" := by
  decide +kernel

end LiveTail
