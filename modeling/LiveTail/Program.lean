/-! How the program is called. -/
namespace LiveTail.Program

/-- The name of the command and of its directories. -/
def name : String := "weblog-tail"

/-- The name in texts. -/
def title : String := "Weblog Tail"

def version : String := "0.1.0"

end LiveTail.Program
