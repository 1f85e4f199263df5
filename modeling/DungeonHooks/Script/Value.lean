import DungeonHooks.Script.Convert
import DungeonHooks.Script.Program
import DungeonHooks.Text.Quoted

/-! The values of scripts: what they are, when they are equal, and what hosts take them for. -/

namespace DungeonHooks.Script

/-- The functions that every script finds among its globals. -/
inductive Builtin where
  | error
  | pcall
  | tostring
  | ipairs
  /-- The step of the iteration that `ipairs` begins. -/
  | ipairsStep
  | floor
  | max
  | min
  deriving DecidableEq, Inhabited

/-- The services that a host offers to a handler while it runs. -/
inductive Service where
  | borderColor
  | rand
  | log
  deriving DecidableEq, Inhabited

/-- A value. Tables and functions of a script are known by their number in the store. -/
inductive Value where
  | nil
  | bool (value : Bool)
  | number (value : Number)
  | text (bytes : List UInt8)
  | table (id : Nat)
  | closure (id : Nat)
  | builtin (function : Builtin)
  /-- A service as it was offered to one call of a handler. -/
  | service (session : Nat) (service : Service)
  /-- A refusal of the host, caught by the script. -/
  | fault (fault : HostFault)
  deriving Inhabited

/-- What a table finds a value by. Equal keys are equal values. -/
inductive Key where
  | bool (value : Bool)
  | whole (value : Int)
  /-- A number that is not whole, or too large to be exact. -/
  | real (bits : UInt64)
  | text (bytes : List UInt8)
  | table (id : Nat)
  | closure (id : Nat)
  | builtin (function : Builtin)
  | service (session : Nat) (service : Service)
  | fault (fault : HostFault)
  deriving DecidableEq, Inhabited

namespace Value

/-- A text as a value. -/
def ofString (s : String) : Value :=
  .text (Text.utf8 s)

/-- A whole number as a value. -/
def ofInt (n : Int) : Value :=
  .number (.ofInt n)

/-- Whether a value counts as true: all do but nil and false. -/
def isTrue : Value → Bool
  | .nil => false
  | .bool value => value
  | _ => true

/-- Whether a value is nil. -/
def isNil : Value → Bool
  | .nil => true
  | _ => false

/-- The name of a value's type, as the language gives it. -/
def typeName : Value → String
  | .nil => "nil"
  | .bool _ => "boolean"
  | .number _ => "number"
  | .text _ => "string"
  | .table _ => "table"
  | .closure _ => "function"
  | .builtin _ => "function"
  | .service .. => "function"
  | .fault _ => "userdata"

/-- The name of a value's type, as a host gives it. -/
def hostTypeName : Value → String
  | .number n => if n.isInteger then "integer" else "number"
  | .fault _ => "error"
  | value => value.typeName

/-- The key that a value is; nil and what is no number are none. -/
def key? : Value → Option Key
  | .nil => none
  | .number (.nan _) => none
  | .number (.whole n) => some (.whole n)
  | .number (.real x) => some (if x == 0 then .whole 0 else .real x.toBits)
  | .bool value => some (.bool value)
  | .text bytes => some (.text bytes)
  | .table id => some (.table id)
  | .closure id => some (.closure id)
  | .builtin function => some (.builtin function)
  | .service session offer => some (.service session offer)
  | .fault refusal => some (.fault refusal)

/-- The value that a key stands for. -/
def ofKey : Key → Value
  | .bool value => .bool value
  | .whole n => .number (.whole n)
  | .real bits => .number (.real (Float.ofBits bits))
  | .text bytes => .text bytes
  | .table id => .table id
  | .closure id => .closure id
  | .builtin function => .builtin function
  | .service session offer => .service session offer
  | .fault refusal => .fault refusal

/-- Whether two values are equal: numbers by value, texts by their bytes, tables and functions by identity. -/
def eq (a b : Value) : Bool :=
  match a, b with
  | .nil, .nil => true
  | .number m, .number n => m.eq n
  | a, b => a.key?.isSome && a.key? == b.key?

/-- The number that a value is, or is the text of. -/
def toNumber? : Value → Option Number
  | .number n => some n
  | .text bytes => Number.read? (Text.letters bytes)
  | _ => none

/-- The bytes of a text, or of the text of a number. -/
def toBytes? : Value → Option (List UInt8)
  | .text bytes => some bytes
  | .number n => some (Text.utf8 n.text)
  | _ => none

/-- The display text of a value. Tables and functions show only that they are some. -/
def display : Value → List UInt8
  | .nil => Text.utf8 "nil"
  | .bool value => Text.utf8 (toString value)
  | .number n => Text.utf8 n.text
  | .text bytes => bytes
  | .fault refusal => Text.utf8 refusal.message
  | .table id => Text.utf8 s!"table: 0x{Text.hex id}"
  | .closure id => Text.utf8 s!"function: 0x{Text.hex id}"
  | .builtin _ => Text.utf8 "function: builtin"
  | .service .. => Text.utf8 "function: service"

/-- A conversion of the value that failed. -/
def misfit (value : Value) (wanted : Wanted) (cause : ConversionCause) : ConversionError :=
  { type := value.hostTypeName, wanted, cause }

/-- The integer of a type that a value is cut to, toward zero. -/
def toInteger (value : Value) (wanted : Wanted) : Except ConversionError Int :=
  match value.toNumber? with
  | none => .error (value.misfit wanted .notNumber)
  | some n =>
    let (least, greatest) := wanted.range
    match n.truncated? with
    | some n =>
      if least ≤ n ∧ n ≤ greatest then .ok n else .error (value.misfit wanted .outOfRange)
    | none => .error (value.misfit wanted .outOfRange)

/-- The byte that a value is. -/
def toByte (value : Value) : Except ConversionError UInt8 :=
  (value.toInteger .byte).map fun n => .ofNat n.toNat

/-- The word of 16 bits that a value is. -/
def toWord16 (value : Value) : Except ConversionError UInt16 :=
  (value.toInteger .word16).map fun n => .ofNat n.toNat

/-- The signed word of 32 bits that a value is. -/
def toWord (value : Value) : Except ConversionError Int32 :=
  (value.toInteger .word32).map Int32.ofInt

/-- The text that a value is. -/
def toText (value : Value) : Except ConversionError String :=
  match value.toBytes? with
  | none => .error (value.misfit .text .notText)
  | some bytes =>
    match Text.decode? bytes with
    | some s => .ok s
    | none => .error (value.misfit .text (.malformed (Text.flaw 0 bytes)))

end Value

end DungeonHooks.Script
