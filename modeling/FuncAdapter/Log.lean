/-!
# Log lines

What a run reports about its progress when it is asked to be verbose.  A line names the part of the
program that it comes from.
-/

namespace FuncAdapter

/-- The part of the program that a log line comes from. -/
inductive LogOrigin where
  | lookup
  | generation
  | scan
  deriving DecidableEq, Repr

/-- The word for the part of the program. -/
def LogOrigin.word : LogOrigin → String
  | .lookup => "lookup"
  | .generation => "generate"
  | .scan => "goscan"

/-- A message about progress. -/
structure LogLine where
  origin : LogOrigin
  message : String
  deriving DecidableEq, Repr

/-- The line that is written for a message. -/
def LogLine.text (line : LogLine) : String :=
  "DEBUG gointerfacefunc." ++ line.origin.word ++ ": " ++ line.message ++ "\n"

/-- The lines that are written for messages. -/
def logText : List LogLine → String
  | [] => ""
  | line :: lines => line.text ++ logText lines

end FuncAdapter
