import RegisterMachine.Command.Request

/-!
# The toolkit of a command

A command reads its arguments and sets off its texts with a toolkit that is not
its own. Nothing is known of a toolkit here. The one that the program is built
with reads the arguments as requests are read, and sets a text off by the escape
sequences of a terminal, one before the text and one after it.
-/

namespace RegisterMachine
namespace Command

/-- What a command takes from elsewhere. -/
structure Toolkit where
  /-- The request that some arguments make, or what the user is told if they make none. -/
  readArguments : List String → Except String Request
  /-- What the user reads on a request for help. -/
  usage : String
  /-- A text in bold type. -/
  bold : String → String
  /-- A text in faint type. -/
  dimmed : String → String

namespace Toolkit

/-- The toolkit that the program is built with. -/
def standard : Toolkit where
  readArguments arguments :=
    (Request.ofArguments arguments).mapError fun error => error.message ++ usageHint
  usage := Command.usage
  bold text := "\x1b[1m" ++ text ++ "\x1b[0m"
  dimmed text := "\x1b[2m" ++ text ++ "\x1b[0m"

end Toolkit
end Command
end RegisterMachine
