import LiveMarkup.World.ValueText
import LiveMarkup.Decimal.Remainder
import LiveMarkup.Decimal.Reading

/-!
# Operators on values

Integers are exact: a result that does not fit is an error.  Comparisons of
floating-point numbers tolerate small differences, and take numbers that differ
less as equal.
-/

namespace LiveMarkup.World

variable {σ : Type}

/-- The error for operands that an operator does not take. -/
def operandError (world : World σ) (op : InfixOp) (left right : Value) : UiError :=
  typeError (.infixOperands op (world.typeName left) (world.typeName right))

/-- Apply a prefix operator. -/
def applyPrefix (world : World σ) (op : PrefixOp) (value : Value) :
    Except UiError Value :=
  match op, value with
  | .not, .bool content => .ok (.bool !content)
  | .minus, .int content =>
    if Decimal.fitsWord (-content) then .ok (.int (-content))
    else .error (typeError (.negationOverflow content))
  | .minus, .float content => .ok (.float (-content))
  | .minus, .vec2 content => .ok (.vec2 content.neg)
  | .plus, .int content => .ok (.int content)
  | .plus, .float content => .ok (.float content)
  | .plus, .vec2 content => .ok (.vec2 content)
  | _, _ => .error (typeError (.prefixOperand op (world.typeName value)))

/-- Compare integers. -/
def compareInts (op : InfixOp) (left right : Int) : Bool :=
  match op with
  | .greater => right < left
  | .less => left < right
  | .greaterEq => right ≤ left
  | _ => left ≤ right

/-- Compare numbers of double width. -/
def compareFloats (op : InfixOp) (left right : Float) : Bool :=
  match op with
  | .greater => right < left && !Value.close left right
  | .less => left < right && !Value.close left right
  | .greaterEq => right < left || Value.close left right
  | _ => left < right || Value.close left right

/-- Apply a relational operator. -/
def compare (world : World σ) (op : InfixOp) (left right : Value) :
    Except UiError Bool :=
  match left, right with
  | .int left, .int right => .ok (compareInts op left right)
  | left, right =>
    match left.number?, right.number? with
    | some leftNumber, some rightNumber =>
      .ok (compareFloats op leftNumber rightNumber)
    | _, _ => .error (world.operandError op left right)

/-- Calculate with integers.  Division gives a floating-point number. -/
def calculateInts (op : InfixOp) (left right : Int) : Except UiError Value :=
  let checked (result : Int) : Except UiError Value :=
    if Decimal.fitsWord result then .ok (.int result)
    else .error (typeError (.overflow op left right))
  match op with
  | .add => checked (left + right)
  | .sub => checked (left - right)
  | .mul => checked (left * right)
  | .div =>
    if right == 0 then .error .divisionByZero
    else .ok (.float (Float.ofInt left / Float.ofInt right))
  | _ =>
    if right == 0 then .error .divisionByZero
    else if Decimal.fitsWord (left.tdiv right) then .ok (.int (left.tmod right))
    else .error (typeError (.overflow op left right))

/-- Calculate with numbers of double width. -/
def calculateFloats (op : InfixOp) (left right : Float) : Except UiError Value :=
  match op with
  | .add => .ok (.float (left + right))
  | .sub => .ok (.float (left - right))
  | .mul => .ok (.float (left * right))
  | .div =>
    if right == 0 then .error .divisionByZero else .ok (.float (left / right))
  | _ =>
    if right == 0 then .error .divisionByZero
    else .ok (.float (Decimal.remainder left right))

/-- Apply an arithmetic operator. -/
def calculate (world : World σ) (op : InfixOp) (left right : Value) :
    Except UiError Value :=
  match left, right with
  | .int left, .int right => calculateInts op left right
  | .vec2 leftVector, .vec2 rightVector =>
    match op with
    | .add => .ok (.vec2 (leftVector.add rightVector))
    | .sub => .ok (.vec2 (leftVector.sub rightVector))
    | _ => .error (world.operandError op left right)
  | .vec2 vector, other =>
    match op, other.number? with
    | .mul, some factor => .ok (.vec2 (vector.scale factor.toFloat32))
    | .div, some divisor =>
      if divisor == 0 then .error .divisionByZero
      else .ok (.vec2 (vector.scale (1 / divisor).toFloat32))
    | _, _ => .error (world.operandError op left right)
  | other, .vec2 vector =>
    match op, other.number? with
    | .mul, some factor => .ok (.vec2 (vector.scale factor.toFloat32))
    | _, _ => .error (world.operandError op left right)
  | _, _ =>
    match left.number?, right.number? with
    | some leftNumber, some rightNumber => calculateFloats op leftNumber rightNumber
    | _, _ => .error (world.operandError op left right)

/-- Apply an infix operator.  A sum with a string on either side puts texts
together. -/
def applyInfix (world : World σ) (op : InfixOp) (left right : Value) :
    Except UiError Value :=
  match op with
  | .or | .and =>
    match left, right with
    | .bool leftTruth, .bool rightTruth =>
      .ok (.bool
        (if op == .or then leftTruth || rightTruth else leftTruth && rightTruth))
    | _, _ => .error (world.operandError op left right)
  | .eq => .ok (.bool (left.loose right))
  | .notEq => .ok (.bool !left.loose right)
  | .greater | .less | .greaterEq | .lessEq =>
    (world.compare op left right).map .bool
  | .add =>
    match left, right with
    | .text _, _ | _, .text _ => .ok (.text (world.shown left ++ world.shown right))
    | _, _ => world.calculate op left right
  | .sub | .mul | .div | .rem => world.calculate op left right

end LiveMarkup.World
