import LiveTail.Json.Printer
/-! Selectors: what the viewer asks the backend to send. -/
namespace LiveTail

/-- The frame that carries a selector as it is. -/
def selectorFrame (selector : String) : String :=
  .ofList ('\x7b' :: Json.renderMembers [("type", .text "selector"), ("selector", .text selector)])

end LiveTail
