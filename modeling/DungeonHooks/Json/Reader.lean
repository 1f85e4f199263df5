import DungeonHooks.Json.Node

/-! From text to tree. -/

namespace DungeonHooks.Json

/-- Whether a character may stand between the parts of a document. -/
def isBlank (c : Char) : Bool :=
  c == ' ' || c == '\n' || c == '\t' || c == '\r'

/-- The text without the blanks at its start. -/
def skipBlanks (cs : List Char) : List Char :=
  cs.dropWhile isBlank

/-- The rest of a text after the letters of a word. -/
def afterWord : List Char → List Char → Except Fault (List Char)
  | [], cs => .ok cs
  | _ :: _, [] => .error .endInValue
  | letter :: word, c :: cs => if c == letter then afterWord word cs else .error .expectedWord

/-- A value that breaks off, and nothing behind it. -/
def brokenOff (place : Break) : Node × Option (List Char) :=
  (.broken place, none)

/-- A word that stands for a value. -/
def readWord (word : String) (node : Node) (cs : List Char) : Node × Option (List Char) :=
  match afterWord word.toList cs with
  | .ok rest => (node, some rest)
  | .error fault => brokenOff { read := fault }

/-- A number. -/
def readNumber (cs : List Char) : Node × Option (List Char) :=
  match Numeral.scan cs with
  | .ok (numeral, rest) => (.number numeral.value, some rest)
  | .error place => brokenOff place

/-- The string behind an opening quote. -/
def decodeString (cs : List Char) : Except Fault String :=
  (decodeText cs).map String.ofList

/-- A string, without its opening quote. -/
def readText (cs : List Char) : Node × Option (List Char) :=
  match closeText cs with
  | .ok (_, rest) => (.text (decodeString cs), some rest)
  | .error (fault, _) =>
    let read := match decodeString cs with
      | .error first => first
      | .ok _ => fault
    brokenOff { read, skipped := fault }

/-- A key, without its opening quote, and the text behind its closing one. -/
def readKey (cs : List Char) : Key × Option (List Char) :=
  match closeText cs with
  | .ok (inside, rest) => ({ raw := inside ++ ['"'], text := decodeString cs }, some rest)
  | .error (fault, seen) =>
    ({ raw := seen, text := decodeString cs, unclosed := some fault }, none)

/-- Where a list stands before an element. -/
inductive Next where
  | close (rest : List Char)
  | stop (place : Break)
  | element (rest : List Char)

/-- What comes next in a list, after an element or at its start. -/
def nextItem (first : Bool) (cs : List Char) : Next :=
  match skipBlanks cs with
  | [] => .stop { read := .endInList }
  | ']' :: rest => .close rest
  | c :: rest =>
    if first then .element (c :: rest)
    else if c == ',' then
      match skipBlanks rest with
      | [] => .stop { read := .endInValue, closing := .trailingCharacters }
      | ']' :: _ =>
        .stop { read := .trailingComma, skipped := .expectedValue }
      | rest => .element rest
    else .stop { read := .expectedListEnd, closing := .trailingCharacters }

/-- What comes next in an object, after a member or at its start. An element starts behind the quote of its key. -/
def nextMember (first : Bool) (cs : List Char) : Next :=
  match skipBlanks cs with
  | [] => .stop { read := .endInObject }
  | '\x7d' :: rest => .close rest
  | c :: rest =>
    if first then
      if c == '"' then .element rest else .stop { read := .keyNotString }
    else if c == ',' then
      match skipBlanks rest with
      | [] => .stop { read := .endInValue, skipped := .endInObject }
      | '"' :: rest => .element rest
      | '\x7d' :: _ => .stop { read := .trailingComma, skipped := .keyNotString }
      | _ => .stop { read := .keyNotString }
    else .stop { read := .expectedObjectEnd }

/-- The text behind the colon that follows a key. -/
def afterColon (cs : List Char) : Except Fault (List Char) :=
  match skipBlanks cs with
  | ':' :: rest => .ok rest
  | [] => .error .endInObject
  | _ => .error .expectedColon

mutual

/-- Reads a value; nothing follows one that breaks off. -/
def readNode : Nat → List Char → Node × Option (List Char)
  | 0, _ => brokenOff { read := .endInValue }
  | fuel + 1, cs =>
    match skipBlanks cs with
    | [] => brokenOff { read := .endInValue }
    | 'n' :: rest => readWord "ull" .null rest
    | 't' :: rest => readWord "rue" (.bool true) rest
    | 'f' :: rest => readWord "alse" (.bool false) rest
    | '"' :: rest => readText rest
    | '[' :: rest =>
      let (items, rest) := readItems fuel true rest
      (.list items, rest)
    | '\x7b' :: rest =>
      let (members, rest) := readMembers fuel true rest
      (.record members, rest)
    | c :: rest =>
      if c == '-' || c.isDigit then readNumber (c :: rest)
      else brokenOff { read := .expectedValue }

/-- Reads the elements of a list. -/
def readItems : Nat → Bool → List Char → Items × Option (List Char)
  | 0, _, _ => (.stop { read := .endInList }, none)
  | fuel + 1, first, cs =>
    match nextItem first cs with
    | .close rest => (.close, some rest)
    | .stop place => (.stop place, none)
    | .element rest =>
      match readNode fuel rest with
      | (node, none) => (.item node .close, none)
      | (node, some rest) =>
        let (items, rest) := readItems fuel false rest
        (.item node items, rest)

/-- Reads the members of an object. -/
def readMembers : Nat → Bool → List Char → Members × Option (List Char)
  | 0, _, _ => (.stop { read := .endInObject }, none)
  | fuel + 1, first, cs =>
    match nextMember first cs with
    | .close rest => (.close, some rest)
    | .stop place => (.stop place, none)
    | .element rest =>
      match readKey rest with
      | (key, none) => (.member key .null .close, none)
      | (key, some rest) =>
        match afterColon rest with
        | .error fault => (.member key (.broken { read := fault }) .close, none)
        | .ok rest =>
          match readNode fuel rest with
          | (node, none) => (.member key node .close, none)
          | (node, some rest) =>
            let (members, rest) := readMembers fuel false rest
            (.member key node members, rest)

end

/-- A document: its value, and what is wrong behind it. -/
structure Document where
  root : Node
  trailing : Option Fault

/-- Reads a document. Every step either opens a value or passes a character, so twice the length is enough. -/
def Document.ofText (text : String) : Document :=
  let cs := text.toList
  match readNode (2 * cs.length + 2) cs with
  | (root, none) => { root, trailing := none }
  | (root, some rest) =>
    { root, trailing := if (skipBlanks rest).isEmpty then none else some .trailingCharacters }

end DungeonHooks.Json
