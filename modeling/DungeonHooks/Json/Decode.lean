import DungeonHooks.Json.Reader
import DungeonHooks.Text.Quoted

/-! From tree to value of a known shape, in document order: the first problem met is the one reported. -/

namespace DungeonHooks.Json

/-- How a value is reached: straight from the text, with so many containers still allowed to open, or from one that was read whole and kept aside. -/
inductive Reach where
  | text (depth : Nat)
  | kept
  deriving DecidableEq, Inhabited

/-- Reads a value of a shape. -/
abbrev Decoder (α : Type) := Reach → Node → Except ReadError α

/-- A fault as a read error. -/
def faulty {α : Type} (result : Except Fault α) : Except ReadError α :=
  result.mapError .malformed

/-- Opens a container. -/
def Reach.enter : Reach → Except ReadError Reach
  | .text depth => faulty ((deeper depth).map .text)
  | .kept => .ok .kept

/-- Leaves a value out. -/
def Node.ignore (node : Node) : Except ReadError Unit :=
  match node.skip with
  | some fault => .error (.malformed fault)
  | none => .ok ()

/-- What a value is found to be. -/
def Node.found : Node → Except Fault Found
  | .null => .ok .null
  | .bool value => .ok (.bool value)
  | .number value => value.map Number.found
  | .text value => value.map fun s => .text (Text.quoted s)
  | .list _ => .ok .sequence
  | .record _ => .ok .map
  | .broken place => .error place.read

/-- Reports a value that is not what is wanted. -/
def Node.mismatch {α : Type} (node : Node) (want : String) : Except ReadError α := do
  throw (.misfit (.wrongType (← faulty node.found) want))

/-- The range of a fixed-width integer, and its name. -/
structure IntegerType where
  name : String
  low : Int
  high : Int
  deriving DecidableEq, Inhabited

namespace IntegerType

/-- Bytes. -/
def u8 : IntegerType := { name := "u8", low := 0, high := UInt8.size - 1 }

/-- Unsigned words of 16 bits. -/
def u16 : IntegerType := { name := "u16", low := 0, high := UInt16.size - 1 }

/-- Unsigned words of 32 bits. -/
def u32 : IntegerType := { name := "u32", low := 0, high := UInt32.size - 1 }

/-- Sizes. -/
def usize : IntegerType := { name := "usize", low := 0, high := UInt64.size - 1 }

/-- Signed words of 16 bits. -/
def i16 : IntegerType :=
  { name := "i16", low := Int16.minValue.toInt, high := Int16.maxValue.toInt }

/-- Signed words of 32 bits. -/
def i32 : IntegerType :=
  { name := "i32", low := Int32.minValue.toInt, high := Int32.maxValue.toInt }

/-- An integer that has to lie in the range. -/
def accept (type : IntegerType) (value : Int) : Except ReadError Int :=
  if type.low ≤ value && value ≤ type.high then .ok value
  else .error (.misfit (.outOfRange value type.name))

/-- Reads an integer of the range. -/
def decode (type : IntegerType) : Decoder Int := fun _ node =>
  match node with
  | .number (.ok (.integer value)) => type.accept value
  | _ => node.mismatch type.name

end IntegerType

/-- Reads a byte. -/
def byte : Decoder UInt8 := fun reach node => return .ofNat (← IntegerType.u8.decode reach node).toNat

/-- Reads an unsigned word of 16 bits. -/
def word16 : Decoder UInt16 := fun reach node =>
  return .ofNat (← IntegerType.u16.decode reach node).toNat

/-- Reads an unsigned word of 32 bits. -/
def word32 : Decoder UInt32 := fun reach node =>
  return .ofNat (← IntegerType.u32.decode reach node).toNat

/-- Reads a size. -/
def size : Decoder Nat := fun reach node => return (← IntegerType.usize.decode reach node).toNat

/-- Reads a signed word of 16 bits. -/
def short : Decoder Int16 := fun reach node => return .ofInt (← IntegerType.i16.decode reach node)

/-- Reads a signed word of 32 bits. -/
def int : Decoder Int32 := fun reach node => return .ofInt (← IntegerType.i32.decode reach node)

/-- Reads a truth value. -/
def boolean : Decoder Bool := fun _ node =>
  match node with
  | .bool value => .ok value
  | _ => node.mismatch "a boolean"

/-- Reads a string where `want` is wanted. -/
def textAs (want : String) : Decoder String := fun _ node =>
  match node with
  | .text value => faulty value
  | _ => node.mismatch want

/-- Reads a string. -/
def text : Decoder String :=
  textAs "a string"

/-- Reads a value that may be null. -/
def optional {α : Type} (decode : Decoder α) : Decoder (Option α) := fun reach node =>
  match node with
  | .null => .ok none
  | _ => return some (← decode reach node)

/-- Reads all elements that are left. -/
def Items.decode {α : Type} (element : Node → Except ReadError α) :
    Items → Except ReadError (List α)
  | .close => .ok []
  | .stop place => .error (.malformed place.read)
  | .item node rest => do
    let first ← element node
    return first :: (← rest.decode element)

/-- The number of elements that are left. -/
def Items.count : Items → Nat
  | .item _ rest => rest.count + 1
  | _ => 0

/-- Words for a number of elements. -/
def elements (count : Nat) : String :=
  if count = 1 then "1 element" else s!"{count} elements"

/-- Ends a list of which no further element is wanted. -/
def Items.finish (reach : Reach) (taken : Nat) (items : Items) : Except ReadError Unit :=
  match reach, items with
  | _, .close => .ok ()
  | .text _, .stop place => .error (.malformed place.closing)
  | .text _, .item _ _ => .error (.malformed .trailingCharacters)
  | .kept, _ =>
    .error (.misfit (.wrongLength (taken + items.count) (elements taken ++ " in sequence")))

/-- Reads a list of any length. -/
def listOf {α : Type} (element : Decoder α) : Decoder (List α) := fun reach node =>
  match node with
  | .list items => do
    let inner ← reach.enter
    items.decode (element inner)
  | _ => node.mismatch "a sequence"

/-- Reads a list of two. -/
def pairOf {α : Type} (element : Decoder α) : Decoder (α × α) := fun reach node =>
  let want := "an array of length 2"
  match node with
  | .list items => do
    let inner ← reach.enter
    let next (count : Nat) : Items → Except ReadError (α × Items)
      | .item node rest => return (← element inner node, rest)
      | .stop place => throw (.malformed place.read)
      | .close => throw (.misfit (.wrongLength count want))
    let (first, items) ← next 0 items
    let (second, items) ← next 1 items
    items.finish reach 2
    return (first, second)
  | _ => node.mismatch want

/-- Reads the key of a map. -/
abbrev KeyDecoder (κ : Type) := Key → Except ReadError κ

/-- Reads a key as text. -/
def textKey : KeyDecoder String := fun key => faulty key.text

/-- Reads a key as an integer: its characters, as they stand, have to be a numeral. -/
def integerKey (type : IntegerType) : KeyDecoder Int := fun key => do
  let starts := match key.raw with
    | c :: _ => c == '-' || c.isDigit
    | [] => false
  if !starts then throw (.malformed .expectedNumericKey)
  let (numeral, rest) ← (Numeral.scan key.raw).mapError fun place => .malformed place.read
  let value ← match ← faulty numeral.value with
    | .integer value => type.accept value
    | number => throw (.misfit (.wrongType number.found type.name))
  if rest == ['"'] then return value else throw (.malformed .expectedQuote)

/-- Reads all members that are left, in order. -/
def Members.decode {κ α : Type} (key : KeyDecoder κ) (value : Node → Except ReadError α) :
    Members → Except ReadError (List (κ × α))
  | .close => .ok []
  | .stop place => .error (.malformed place.read)
  | .member name node rest => do
    let first := (← key name, ← value node)
    return first :: (← rest.decode key value)

/-- Reads a map as its members in order; of several with one key the last counts. -/
def membersOf {κ α : Type} (key : KeyDecoder κ) (value : Decoder α) : Decoder (List (κ × α)) :=
  fun reach node =>
    match node with
    | .record members => do
      let inner ← reach.enter
      members.decode key (value inner)
    | _ => node.mismatch "a map"

/-- A field of a structure, read into a value that has all others already. -/
structure Field (α : Type) where
  name : String
  required : Bool
  decode : Decoder (α → α)

/-- A field that has to be there. -/
def Field.mandatory {α β : Type} (name : String) (decode : Decoder β) (set : β → α → α) :
    Field α :=
  { name, required := true, decode := fun reach node => set <$> decode reach node }

/-- A field that keeps its default where it is left out. -/
def Field.optional {α β : Type} (name : String) (decode : Decoder β) (set : β → α → α) :
    Field α :=
  { name, required := false, decode := fun reach node => set <$> decode reach node }

/-- A structure: its fields in order, over a value that holds their defaults. -/
structure Shape (α : Type) where
  title : String
  start : α
  fields : List (Field α)

namespace Shape

variable {α : Type}

/-- Reads the members of an object into the fields; members that are no fields are left out. -/
def readMembers (shape : Shape α) (reach : Reach) (seen : List String) (value : α) :
    Members → Except ReadError α
  | .stop place => .error (.malformed place.read)
  | .close =>
    match shape.fields.find? fun field => field.required && !seen.contains field.name with
    | some field => .error (.misfit (.missingField field.name))
    | none => .ok value
  | .member key node rest => do
    let name ← faulty key.text
    match shape.fields.find? (·.name == name) with
    | none =>
      node.ignore
      shape.readMembers reach seen value rest
    | some field =>
      if seen.contains name then throw (.misfit (.duplicateField name))
      let set ← field.decode reach node
      shape.readMembers reach (name :: seen) (set value) rest

/-- Reads the elements of a list into the fields, in order; those at the end may be left out if none is required. -/
def readItems (shape : Shape α) (reach : Reach) (taken : Nat) :
    List (Field α) → α → Items → Except ReadError (α × Nat × Items)
  | [], value, items => .ok (value, taken, items)
  | field :: fields, value, .item node rest => do
    let set ← field.decode reach node
    shape.readItems reach (taken + 1) fields (set value) rest
  | _ :: _, _, .stop place => .error (.malformed place.read)
  | field :: fields, value, .close =>
    match (field :: fields).findIdx? (·.required) with
    | some index =>
      .error (.misfit (.wrongLength (taken + index)
        s!"{shape.title} with {elements shape.fields.length}"))
    | none => .ok (value, taken, .close)

/-- Reads a structure from the elements of a list. -/
def ofItems (shape : Shape α) (outer inner : Reach) (items : Items) : Except ReadError α := do
  let (value, taken, rest) ← shape.readItems inner 0 shape.fields shape.start items
  rest.finish outer taken
  return value

/-- Reads a structure, written as an object or as the list of its fields. -/
def decode (shape : Shape α) : Decoder α := fun reach node =>
  match node with
  | .record members => do
    shape.readMembers (← reach.enter) [] shape.start members
  | .list items => do
    shape.ofItems reach (← reach.enter) items
  | _ => node.mismatch shape.title

end Shape

/-- One alternative of a tagged value: its tag, and how it is read from the rest. -/
structure Variant (α : Type) where
  tag : String
  ofMembers : Members → Except ReadError α
  ofItems : Items → Except ReadError α

/-- An alternative that holds a structure. -/
def Variant.ofShape {α β : Type} (tag : String) (shape : Shape β) (make : β → α) : Variant α where
  tag := tag
  ofMembers members := make <$> shape.readMembers .kept [] shape.start members
  ofItems items := make <$> shape.ofItems .kept .kept items

/-- A value whose alternative is named by one of its members, or by its first element. -/
structure Tagged (α : Type) where
  title : String
  tagName : String
  variants : List (Variant α)

namespace Tagged

variable {α : Type}

/-- Reads a tag. -/
def readTag (tagged : Tagged α) (reach : Reach) (node : Node) : Except ReadError (Variant α) := do
  let name ← textAs "variant identifier" reach node
  match tagged.variants.find? (·.tag == name) with
  | some variant => return variant
  | none => throw (.misfit (.unknownVariant name (tagged.variants.map (·.tag))))

/-- Reads a value whole, to keep it aside. -/
def hold (reach : Reach) (node : Node) : Except ReadError Unit :=
  match reach with
  | .text depth => faulty (node.keep depth)
  | .kept => .ok ()

/-- Reads the members whole and finds the tag among them: the alternative, and the others. -/
def splitMembers (tagged : Tagged α) (reach : Reach) (found : Option (Variant α)) :
    Members → Except ReadError (Variant α × Members)
  | .stop place => .error (.malformed place.read)
  | .close =>
    match found with
    | some variant => .ok (variant, .close)
    | none => .error (.misfit (.missingField tagged.tagName))
  | .member key node rest => do
    let name ← faulty key.text
    if name == tagged.tagName then
      if found.isSome then throw (.misfit (.duplicateField tagged.tagName))
      let variant ← tagged.readTag reach node
      tagged.splitMembers reach (some variant) rest
    else
      hold reach node
      let (variant, rest) ← tagged.splitMembers reach found rest
      return (variant, .member key node rest)

/-- Reads a tagged value: all of it first, and then what its alternative wants. -/
def decode (tagged : Tagged α) : Decoder α := fun reach node =>
  match node with
  | .record members => do
    let (variant, rest) ← tagged.splitMembers (← reach.enter) none members
    variant.ofMembers rest
  | .list items => do
    let inner ← reach.enter
    match items with
    | .close => throw (.misfit (.missingField tagged.tagName))
    | .stop place => throw (.malformed place.read)
    | .item first rest =>
      let variant ← tagged.readTag inner first
      discard (rest.decode (hold inner))
      variant.ofItems rest
  | _ => node.mismatch tagged.title

end Tagged

/-- How many containers may be open at once, and one more. -/
def depthLimit : Nat := 128

/-- Reads a whole text as a value of a shape. -/
def fromText {α : Type} (decode : Decoder α) (text : String) : Except ReadError α := do
  let document := Document.ofText text
  let value ← decode (.text depthLimit) document.root
  match document.trailing with
  | some fault => throw (.malformed fault)
  | none => return value

end DungeonHooks.Json
