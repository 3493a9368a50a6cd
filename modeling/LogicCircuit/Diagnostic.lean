import LogicCircuit.ErrorCode
import LogicCircuit.Text.Document

/-!
# Diagnostics

Reports on the text of a definition. Errors make a definition unusable, warnings do not.
-/

namespace LogicCircuit

inductive Severity where
  | error
  | warning
  deriving DecidableEq, Repr

/-- What kind of mistake a diagnostic is about. -/
inductive Category where
  /-- A character that no symbol has. -/
  | lexical
  /-- A symbol where the grammar wants another. -/
  | grammatical
  /-- Well formed, but without a meaning: a name defined twice, a port that does not exist. -/
  | semantic
  deriving DecidableEq, Repr

/-- The word for the category in reports. -/
def Category.label : Category → String
  | lexical => "lexical"
  | grammatical => "syntax"
  | semantic => "semantic"

/-- A report on the text of a definition. -/
structure Diagnostic where
  severity : Severity
  category : Option Category
  code : Option ErrorCode
  message : String
  excerpt : Option Text.Excerpt
  deriving DecidableEq, Repr

namespace Diagnostic

/-- An error with nothing but a message. -/
def error (message : String) : Diagnostic :=
  { severity := .error, category := none, code := none, message, excerpt := none }

/-- A warning with nothing but a message. -/
def warning (message : String) : Diagnostic :=
  { severity := .warning, category := none, code := none, message, excerpt := none }

def isError (diagnostic : Diagnostic) : Bool :=
  diagnostic.severity = .error

/-- The number of errors among several diagnostics. -/
def errorCount (diagnostics : List Diagnostic) : Nat :=
  diagnostics.countP isError

/-- The excerpt as it is shown: its text, and below it the caret. -/
def renderExcerpt (excerpt : Text.Excerpt) : String :=
  excerpt.text ++ "\n" ++ String.ofList (List.replicate excerpt.caret ' ') ++ "^\n"

/-- The diagnostic as it is shown. -/
def render (diagnostic : Diagnostic) : String :=
  let shown := (diagnostic.excerpt.map renderExcerpt).getD ""
  let mark := match diagnostic.severity with
    | .error => "***ERROR: "
    | .warning => "***WARNING: "
  shown ++ mark ++ diagnostic.message

end Diagnostic

end LogicCircuit
