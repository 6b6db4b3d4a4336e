/-! Why a path has no value: it is no path expression, or something in it is not known or not of the
kind that is needed. -/

namespace Intake.XPath

/-- What is wrong with a path. -/
inductive Error where
  | unfinishedLiteral | literalExpected | variableExpected | unknownVariable | openPredicate
  | notAnExpression | unclosed | unknownFunction | wrongType | wrongArity | unknownQualifier
  deriving DecidableEq, Repr

def Error.message : Error → String
  | unfinishedLiteral => "Unfinished literal"
  | literalExpected => "Start of literal"
  | variableExpected => "Expected $ for variable reference"
  | unknownVariable => "Undefined variable"
  | openPredicate => "Invalid predicate"
  | notAnExpression => "Invalid expression"
  | unclosed => "Missing closing curly brace"
  | unknownFunction => "Unregistered function"
  | wrongType => "Invalid type"
  | wrongArity => "Invalid number of arguments"
  | unknownQualifier => "Undefined namespace prefix"

end Intake.XPath
