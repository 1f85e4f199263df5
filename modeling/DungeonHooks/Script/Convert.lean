import DungeonHooks.Script.Number
import DungeonHooks.Text.Utf8

/-! What can go wrong between a host and a script, and the texts of it. -/

namespace DungeonHooks.Script

/-- What a host asks of a script's value. -/
inductive Wanted where
  | byte
  | word16
  | word32
  | wide
  | text
  | table
  | function
  deriving DecidableEq, Inhabited

/-- The name of what is asked for. -/
def Wanted.name : Wanted → String
  | .byte => "u8"
  | .word16 => "u16"
  | .word32 => "i32"
  | .wide => "i64"
  | .text => "String"
  | .table => "table"
  | .function => "function"

/-- The whole numbers that an integer type holds; the first is the least, the second the greatest. -/
def Wanted.range : Wanted → Int × Int
  | .byte => (0, UInt8.size - 1)
  | .word16 => (0, UInt16.size - 1)
  | .word32 => (Int32.minValue.toInt, Int32.maxValue.toInt)
  | .wide => (Int64.minValue.toInt, Int64.maxValue.toInt)
  | _ => (0, 0)

/-- Why a value could not be converted. -/
inductive ConversionCause where
  | notNumber
  | outOfRange
  | notText
  | malformed (flaw : Text.Flaw)
  | otherType
  deriving DecidableEq, Inhabited

/-- A conversion that failed: the type there was, what was asked for, and the cause. -/
structure ConversionError where
  type : String
  wanted : Wanted
  cause : ConversionCause
  deriving DecidableEq, Inhabited

/-- The text of a cause, if it has one. -/
def ConversionCause.message? : ConversionCause → Option String
  | .notNumber => some "expected number or string coercible to number"
  | .outOfRange => some "out of range"
  | .notText => some "expected string or number"
  | .malformed flaw => some flaw.message
  | .otherType => none

/-- The text of a conversion that failed. -/
def ConversionError.message (error : ConversionError) : String :=
  let reason := match error.cause.message? with
    | some text => " (" ++ text ++ ")"
    | none => ""
  s!"error converting Lua {error.type} to {error.wanted.name}{reason}"

/-- Why a service of the host refused a script. -/
inductive HostFault where
  /-- An argument, counted from 1, that is not what the service takes. -/
  | argument (position : Nat) (error : ConversionError)
  /-- The service belonged to a call that is over. -/
  | expired
  deriving DecidableEq, Inhabited

/-- The text of a refusal. -/
def HostFault.message : HostFault → String
  | .argument position error => s!"bad argument #{position}: {error.message}"
  | .expired => "a destructed callback or destructed userdata method was called"

end DungeonHooks.Script
