import LiveMarkup.ParseError
import LiveMarkup.Expr
import LiveMarkup.Decimal.Notation

/-!
# Errors of rendering and evaluation

Everything that can stop a render, or go wrong when a change is carried through.
-/

namespace LiveMarkup

/-- The kinds of references, as messages call them. -/
inductive ReferenceKind where
  | global
  | aliased
  | local
deriving DecidableEq, Repr

def ReferenceKind.name : ReferenceKind → String
  | .global => "global"
  | .aliased => "alias"
  | .local => "local"

/-- A value of the wrong type, or a number out of range.  Values appear by the
names of their types. -/
inductive TypeProblem where
  /-- A property or an operation takes another type of value. -/
  | expected (what found : String)
  | negationOverflow (value : Int)
  | overflow (op : InfixOp) (left right : Int)
  | prefixOperand (op : PrefixOp) (found : String)
  | infixOperands (op : InfixOp) (left right : String)
  | resourcePath (found : String)
  | styleProperties (box : StyleBox) (found : String)
  /-- A component of a vector or color is no number. -/
  | component (what found : String)
  | overrides (key found : String)
  | loopSource (found : String)
  | unknownAlignment (text : String)
deriving DecidableEq, Repr

def TypeProblem.message : TypeProblem → String
  | .expected what found => "expected " ++ what ++ ", found " ++ found
  | .negationOverflow value => "-" ++ Decimal.ofInt value ++ " overflows int"
  | .overflow op left right =>
    Decimal.ofInt left ++ " " ++ op.symbol ++ " " ++ Decimal.ofInt right ++
      " overflows int"
  | .prefixOperand op found => "cannot apply '" ++ op.symbol ++ "' to " ++ found
  | .infixOperands op left right =>
    "cannot apply '" ++ op.symbol ++ "' to " ++ left ++ " and " ++ right
  | .resourcePath found => "resource path must be a string, found " ++ found
  | .styleProperties box found =>
    box.constructorName ++ "() takes an object literal, found " ++ found
  | .component what found => what ++ " components must be numbers, found " ++ found
  | .overrides key found => key ++ " takes an object literal, found " ++ found
  | .loopSource found => "each needs an observable list, found " ++ found
  | .unknownAlignment text => "unknown alignment '" ++ text ++ "'"

/-- An error of rendering or evaluation. -/
inductive UiError where
  | parse (error : ParseError)
  /-- A file cannot be read. -/
  | unreadable (path reason : String)
  | componentNotFound (name : String)
  | controllerNotFound (name : String)
  | propertyNotFound (target property : String)
  | signalNotFound (widget signal : String)
  | handlerNotFound (controller handler : String)
  | referenceNotFound (kind : ReferenceKind) (name : String)
  | type (problem : TypeProblem)
  | divisionByZero
  | resource (path reason : String)
deriving DecidableEq, Repr

def UiError.message : UiError → String
  | .parse error => error.message
  | .unreadable path reason => "cannot read " ++ path ++ ": " ++ reason
  | .componentNotFound name => "unknown component '" ++ name ++ "'"
  | .controllerNotFound name => "unknown controller '" ++ name ++ "'"
  | .propertyNotFound target property =>
    "property '" ++ property ++ "' not found on " ++ target
  | .signalNotFound widget signal => widget ++ " has no signal '" ++ signal ++ "'"
  | .handlerNotFound controller handler =>
    controller ++ " has no handler '" ++ handler ++ "'"
  | .referenceNotFound kind name =>
    "unresolved " ++ kind.name ++ " reference '" ++ name ++ "'"
  | .type problem => "type error: " ++ problem.message
  | .divisionByZero => "division by zero"
  | .resource path reason => "cannot load resource " ++ path ++ ": " ++ reason

end LiveMarkup
