import GraphScript.Act
import GraphScript.Text.Cut

/-!
# Notices

A report is shown to the author of a script as a notice: a box that holds the kind of the report and
its message, and before them the error that led to it and where each of them arose, as far as they
are known.
-/

namespace GraphScript

def ReportKind.title : ReportKind → String
  | .general => "Error"
  | .form => "BfSyntaxError"
  | .type => "BfTypeError"
  | .name => "BfNameError"
  | .run => "BfRuntimeError"

/-- An error that led to a report. -/
structure Cause where
  kind : String
  text : String
  /-- Where it arose. -/
  trace : String

/-- What a notice shows. -/
structure Notice where
  kind : ReportKind
  message : String
  cause : Option Cause
  /-- Where the report arose, if that is shown. -/
  trace : Option String

namespace Notice

def margined (margin text : String) : String :=
  margin ++ ("\n" ++ margin).intercalate (Text.parts '\n' text) ++ "\n"

def information (notice : Notice) : String :=
  "│ " ++ notice.kind.title ++ ":\n" ++ margined "│    " notice.message

/-- Where the report of a notice arose. -/
def origin (notice : Notice) : String :=
  match notice.trace with
  | none => ""
  | some trace => "│ Stacktrace:\n" ++ margined "│ " trace

def reason (notice : Notice) : String :=
  match notice.cause with
  | none => ""
  | some cause =>
    "│ Previous Error: " ++ cause.kind ++ "\n" ++ margined "│    " cause.text ++
      "│    \n" ++ "│ Previous Stacktrace:\n" ++ margined "│ " cause.trace

def longestLine (text : String) : Nat := ((Text.parts '\n' text).map Text.width).foldl max 0

def ruler (corner : String) (width : Nat) : String := corner ++ Text.repeated width "─" ++ "\n"

def render (notice : Notice) : String :=
  let width :=
    longestLine (notice.message ++ notice.origin ++ notice.information ++ notice.reason) + 10
  "\n" ++ ruler "┌" width ++ notice.reason ++
    (if notice.cause.isSome then ruler "├" width else "") ++
    notice.origin ++ notice.information ++ ruler "└" width

end Notice

end GraphScript
