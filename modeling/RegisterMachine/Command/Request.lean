/-!
# Requests

What the user asks for on the command line: help, or to run or list the program
in a file. Arguments are read from left to right, and the first one that cannot
be understood decides the error.
-/

namespace RegisterMachine
namespace Command

/-- How to treat the program in a file. -/
structure Options where
  /-- The file that holds the source text. -/
  path : String
  /-- Whether each instruction is shown before it is executed. -/
  trace : Bool
  /-- Whether the program is listed in place of being executed. -/
  list : Bool
  deriving DecidableEq

/-- What the user asks for. -/
inductive Request
  | help
  | run (options : Options)
  deriving DecidableEq

/-- Why the arguments make no request. -/
inductive UsageError
  | unrecognized (argument : String)
  | trailingAfterHelp
  | missingPath
  deriving DecidableEq

namespace UsageError

/-- The wording of a usage error. -/
def message : UsageError → String
  | .unrecognized argument => "Unrecognized argument: " ++ argument ++ "\n"
  | .trailingAfterHelp => "Trailing arguments are not allowed after `help`."
  | .missingPath => "Required positional arguments not provided:\n    path\n"

end UsageError

/-- What is known after some of the arguments have been read. -/
structure Draft where
  help : Bool := false
  trace : Bool := false
  list : Bool := false
  path : Option String := none
  /-- Whether the arguments that follow can be options. -/
  optionsAllowed : Bool := true
  deriving DecidableEq

namespace Draft

/-- Take an argument for the path. There can be only one. -/
def positional (draft : Draft) (argument : String) : Except UsageError Draft :=
  match draft.path with
  | none => .ok { draft with path := some argument }
  | some _ => .error (.unrecognized argument)

/-- Take an argument for an option that sets a switch. -/
def switch (draft : Draft) (argument : String) : Except UsageError Draft :=
  if draft.help then .error .trailingAfterHelp
  else if argument = "-t" ∨ argument = "--trace" then .ok { draft with trace := true }
  else if argument = "-l" ∨ argument = "--list" then .ok { draft with list := true }
  else .error (.unrecognized argument)

/-- Read an argument. -/
def read (draft : Draft) (argument : String) : Except UsageError Draft :=
  if draft.optionsAllowed then
    if argument = "--help" ∨ argument = "help" then .ok { draft with help := true }
    else if argument = "--" then .ok { draft with optionsAllowed := false }
    else if argument.toList.head? = some '-' then draft.switch argument
    else draft.positional argument
  else
    draft.positional argument

/-- The request after all arguments have been read. -/
def request (draft : Draft) : Except UsageError Request :=
  if draft.help then .ok .help
  else
    match draft.path with
    | some path => .ok (.run { path, trace := draft.trace, list := draft.list })
    | none => .error .missingPath

end Draft

namespace Request

/-- The request that some arguments make. -/
def ofArguments (arguments : List String) : Except UsageError Request := do
  let draft ← arguments.foldlM Draft.read {}
  draft.request

end Request

/-- The name of the command. -/
def name : String := "bytecode"

/-- What the user reads on a request for help. -/
def usage : String :=
  "Usage: " ++ name ++ " [-t] [-l] [--] <path>\n\n" ++
  "Run a program for the sixteen register machine.\n\n" ++
  "Positional Arguments:\n" ++
  "  path              the source file to run\n\n" ++
  "Options:\n" ++
  "  -t, --trace       print each instruction to stderr before it executes\n" ++
  "  -l, --list        print the parsed program and exit without running it\n" ++
  "  --help, help      display usage information\n\n"

/-- Where the user is sent after a usage error. -/
def usageHint : String :=
  "\nRun " ++ name ++ " --help for more information.\n"

end Command
end RegisterMachine
