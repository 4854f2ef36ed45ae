import ClassLowering.Data.Store
import ClassLowering.Number.Text
import ClassLowering.PropertyKey

/-!
# Values

A value is a primitive or a reference to a composite: an object, a class, a
function or a generator. Copying a reference never copies what it names.

Strict equality compares primitives by value, symbols by their numbers and
composites by identity. Numbers compare as numbers: no NaN equals itself, and
the two zeros are equal.
-/

namespace ClassLowering

/-- What a name is bound to, a field holds and a body returns. -/
inductive Value
  | undefined
  | null
  | bool (b : Bool)
  | number (x : Float)
  | string (text : String)
  | symbol (symbol : Symbol)
  | object (ref : ObjectRef)
  | klass (ref : ClassRef)
  | function (ref : FunctionRef)
  | generator (ref : GeneratorRef)
  deriving DecidableEq

namespace Value

instance : Inhabited Value := ⟨undefined⟩

/-- The number that counts something. -/
def ofNat (n : Nat) : Value := .number (Float.ofNat n)

/-- Whether a value is a reference, and so may replace the object of a
construction. -/
def isComposite : Value -> Bool
  | .object _ | .klass _ | .function _ | .generator _ => true
  | _ => false

/-- The name of the type of a value. -/
def typeName : Value -> String
  | .undefined => "undefined"
  | .null => "null"
  | .bool _ => "boolean"
  | .number _ => "number"
  | .string _ => "string"
  | .symbol _ => "symbol"
  | .object _ | .generator _ => "object"
  | .klass _ | .function _ => "function"

/-- Whether a value counts as true in a condition. -/
def isTruthy : Value -> Bool
  | .undefined | .null => false
  | .bool b => b
  | .number x => !(x == 0) && !x.isNaN
  | .string text => text ≠ ""
  | _ => true

/-- Equality of primitives by value and of composites by identity. -/
def strictEquals : Value -> Value -> Bool
  | .undefined, .undefined | .null, .null => true
  | .bool a, .bool b => a = b
  | .number x, .number y => x == y
  | .string a, .string b => a = b
  | .symbol a, .symbol b => a == b
  | .object a, .object b => a = b
  | .klass a, .klass b => a = b
  | .function a, .function b => a = b
  | .generator a, .generator b => a = b
  | _, _ => false

/-- The number that a value is, or NaN. -/
def toNumber : Value -> Float
  | .number x => x
  | _ => 0 / 0

/-- The number of rounds that a value asks for: its whole part, or none. -/
def toCount : Value -> Nat
  | .number x => x.toUInt64.toNat
  | _ => 0

end Value
end ClassLowering
