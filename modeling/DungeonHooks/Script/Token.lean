import DungeonHooks.Script.Number

/-! The tokens of a script, each with the line on which it ends. -/

namespace DungeonHooks.Script

open Text

/-- What is wrong with the text of a program. -/
inductive SyntaxCause where
  | unexpectedSymbol
  | expected (token : String)
  /-- Something opened on an earlier line has not been closed. -/
  | unclosed (token opener : String) (line : Nat)
  | parameterExpected
  | argumentsExpected
  | loopExpected
  | notAssignable
  | ambiguousCall
  | noLoop
  | noVarargs
  | tooManyLevels
  | unfinishedText
  | unfinishedLongText
  | unfinishedComment
  | longDelimiter
  | nestedLongText
  | malformedNumber
  | escapeTooLarge
  deriving DecidableEq, Inhabited

/-- The text of a cause. -/
def SyntaxCause.message : SyntaxCause → String
  | .unexpectedSymbol => "unexpected symbol"
  | .expected token => s!"'{token}' expected"
  | .unclosed token opener line => s!"'{token}' expected (to close '{opener}' at line {line})"
  | .parameterExpected => "<name> or '...' expected"
  | .argumentsExpected => "function arguments expected"
  | .loopExpected => "'=' or 'in' expected"
  | .notAssignable => "syntax error"
  | .ambiguousCall => "ambiguous syntax (function call x new statement)"
  | .noLoop => "no loop to break"
  | .noVarargs => "cannot use '...' outside a vararg function"
  | .tooManyLevels => "chunk has too many syntax levels"
  | .unfinishedText => "unfinished string"
  | .unfinishedLongText => "unfinished long string"
  | .unfinishedComment => "unfinished long comment"
  | .longDelimiter => "invalid long string delimiter"
  | .nestedLongText => "nesting of [[...]] is deprecated"
  | .malformedNumber => "malformed number"
  | .escapeTooLarge => "escape sequence too large"

/-- A token. The reserved words, the operators and every other single letter are symbols. -/
inductive Token where
  | name (name : String)
  | number (value : Number)
  | text (value : List UInt8)
  | symbol (text : String)
  | finish
  /-- Text that is no token; the program ends in error when it is reached. -/
  | fault (cause : SyntaxCause)
  deriving Inhabited

/-- A token as it stands in a program: the line on which it ends, and how an error shows it. -/
structure Lexeme where
  token : Token
  line : Nat
  shown : List Char
  deriving Inhabited

/-- The reserved words. -/
def reserved : List String :=
  ["and", "break", "do", "else", "elseif", "end", "false", "for", "function", "if", "in", "local",
    "nil", "not", "or", "repeat", "return", "then", "true", "until", "while"]

/-- How an error shows the end of a program. -/
def endShown : String := "<eof>"

/-- Every kind of line end is written as a newline. -/
def unifyLines : List Char → List Char
  | '\r' :: '\n' :: rest => '\n' :: unifyLines rest
  | '\n' :: '\r' :: rest => '\n' :: unifyLines rest
  | '\r' :: rest => '\n' :: unifyLines rest
  | c :: rest => c :: unifyLines rest
  | [] => []

/-- A lexeme of letters that are shown as they stand. -/
def lexeme (token : Token) (line : Nat) (shown : List Char) : Lexeme :=
  { token, line, shown }

/-- A lexeme that stands for an error. -/
def faulty (cause : SyntaxCause) (line : Nat) (shown : List Char) : Lexeme × List Char :=
  (lexeme (.fault cause) line shown, [])

/-- A symbol; control characters are shown by their number. -/
def symbol (line : Nat) (cs : List Char) : Lexeme :=
  let shown := match cs with
    | [c] => if isControl c then s!"char({c.toNat})".toList else cs
    | cs => cs
  lexeme (.symbol (String.ofList cs)) line shown

/-- What a letter after a backslash stands for; most stand for themselves. -/
def escaped : Char → Char
  | 'a' => '\x07'
  | 'b' => '\x08'
  | 'f' => '\x0c'
  | 'n' => '\n'
  | 'r' => '\r'
  | 't' => '\t'
  | 'v' => '\x0b'
  | c => c

/-- The number that up to three decimal digits name. -/
def codeOf (digits : List Char) : Nat :=
  Decimal.ofDigits 10 (digits.filterMap Decimal.decimalValue)

/-- Reads a text up to its closing quote. The letters read so far, opening quote included, come last first. -/
def readText (quote : Char) (line : Nat) (seen : List Char) : List Char → Lexeme × List Char
  | [] => faulty .unfinishedText line endShown.toList
  | ['\\'] => faulty .unfinishedText line endShown.toList
  | '\\' :: e :: rest =>
    if e == '\n' then readText quote (line + 1) ('\n' :: seen) rest
    else if !e.isDigit then readText quote line (escaped e :: seen) rest
    else
      let more := (rest.take 2).takeWhile Char.isDigit
      let code := codeOf (e :: more)
      if 255 < code then faulty .escapeTooLarge line seen.reverse
      else readText quote line (Char.ofNat code :: seen) (rest.drop more.length)
  | c :: rest =>
    if c == quote then
      let inside := seen.reverse.drop 1
      (lexeme (.text (bytesOf inside)) line ((c :: seen).reverse), rest)
    else if c == '\n' then faulty .unfinishedText line seen.reverse
    else readText quote line (c :: seen) rest
  termination_by cs => cs.length
  decreasing_by all_goals simp only [List.length_cons, List.length_drop]; omega

/-- The rest of some letters behind equal signs and a bracket. -/
def afterMarks (bracket : Char) : Nat → List Char → Option (List Char)
  | 0, c :: rest => if c == bracket then some rest else none
  | n + 1, '=' :: rest => afterMarks bracket n rest
  | _, _ => none

/-- How many equal signs stand between two brackets, if a long bracket is opened here; and the rest. -/
def openLong? (cs : List Char) : Option (Nat × List Char) :=
  let level := (cs.takeWhile (· == '=')).length
  (afterMarks '[' level cs).map fun rest => (level, rest)

/-- A long text up to its closing bracket: the letters inside, the line of its end, and the rest. -/
structure LongText where
  inside : List Char
  line : Nat
  rest : List Char
  deriving Inhabited

/-- Reads a long text. On failure, the cause, its line, and what is shown. -/
def closeLong (unfinished : SyntaxCause) (level line : Nat) (seen : List Char) :
    List Char → Except (SyntaxCause × Nat × List Char) LongText
  | [] => .error (unfinished, line, endShown.toList)
  | c :: rest =>
    if c == '\n' then closeLong unfinished level (line + 1) (c :: seen) rest
    else
      match (if c == ']' then afterMarks ']' level rest else none) with
      | some after => .ok { inside := seen.reverse, line, rest := after }
      | none =>
        if c == '[' && level == 0 && rest.head? == some '[' then
          .error (.nestedLongText, line, ['['])
        else closeLong unfinished level line (c :: seen) rest

/-- Reads a long text behind its opening bracket; a line end right there is left out. -/
def readLong (unfinished : SyntaxCause) (level line : Nat) :
    List Char → Except (SyntaxCause × Nat × List Char) LongText
  | '\n' :: rest => closeLong unfinished level (line + 1) [] rest
  | cs => closeLong unfinished level line [] cs

/-- The letters of a numeral, and the rest: digits and points, an exponent, and whatever could belong to a name. -/
def takeNumeral (cs : List Char) : List Char × List Char :=
  let inMantissa := fun (c : Char) => c.isDigit || c == '.'
  let (mantissa, rest) := (cs.takeWhile inMantissa, cs.dropWhile inMantissa)
  let (mark, rest) := match rest with
    | e :: rest =>
      if lower e != 'e' then ([], e :: rest)
      else match rest with
        | '+' :: rest => ([e, '+'], rest)
        | '-' :: rest => ([e, '-'], rest)
        | rest => ([e], rest)
    | [] => ([], [])
  (mantissa ++ mark ++ rest.takeWhile isWord, rest.dropWhile isWord)

/-- Reads a numeral. -/
def readNumeral (line : Nat) (cs : List Char) : Lexeme × List Char :=
  let (numeral, rest) := takeNumeral cs
  match Number.read? numeral with
  | some n => (lexeme (.number n) line numeral, rest)
  | none => faulty .malformedNumber line numeral

/-- Reads a name or a reserved word. -/
def readName (line : Nat) (cs : List Char) : Lexeme × List Char :=
  let word := cs.takeWhile isWord
  let name := String.ofList word
  let token := if reserved.contains name then Token.symbol name else .name name
  (lexeme token line word, cs.dropWhile isWord)

/-- Reads a long text as a token, behind its first bracket. -/
def readLongText (line : Nat) (cs : List Char) : Lexeme × List Char :=
  match openLong? cs with
  | some (level, rest) =>
    let marks := List.replicate level '='
    match readLong .unfinishedLongText level line rest with
    | .ok text =>
      let shown := ['['] ++ marks ++ ['['] ++ text.inside ++ [']'] ++ marks ++ [']']
      (lexeme (.text (bytesOf text.inside)) text.line shown, text.rest)
    | .error (cause, line, shown) => faulty cause line shown
  | none =>
    let marks := cs.takeWhile (· == '=')
    if marks.isEmpty then (symbol line ['['], cs)
    else faulty .longDelimiter line ('[' :: marks)

/-- Reads the token that starts here; there is no blank at its start. -/
def readToken (line : Nat) : List Char → Lexeme × List Char
  | [] => (lexeme .finish line endShown.toList, [])
  | '=' :: '=' :: rest => (symbol line ['=', '='], rest)
  | '<' :: '=' :: rest => (symbol line ['<', '='], rest)
  | '>' :: '=' :: rest => (symbol line ['>', '='], rest)
  | '~' :: '=' :: rest => (symbol line ['~', '='], rest)
  | '.' :: '.' :: '.' :: rest => (symbol line ['.', '.', '.'], rest)
  | '.' :: '.' :: rest => (symbol line ['.', '.'], rest)
  | '[' :: rest => readLongText line rest
  | c :: rest =>
    if c == '"' || c == '\'' then readText c line [c] rest
    else if c.isDigit || (c == '.' && (rest.head?.map Char.isDigit).getD false) then
      readNumeral line (c :: rest)
    else if isAlpha c || c == '_' then readName line (c :: rest)
    else (symbol line [c], rest)

/-- The tokens of a text. Each takes at least one letter, so the number of letters bounds their number. -/
def readTokens : Nat → Nat → List Char → List Lexeme
  | 0, line, _ => [lexeme .finish line endShown.toList]
  | fuel + 1, line, cs =>
    match cs with
    | '\n' :: rest => readTokens fuel (line + 1) rest
    | '-' :: '-' :: '[' :: rest =>
      match openLong? rest with
      | some (level, inside) =>
        match readLong .unfinishedComment level line inside with
        | .ok text => readTokens fuel text.line text.rest
        | .error (cause, line, shown) => [(faulty cause line shown).1]
      | none => readTokens fuel line (rest.dropWhile (· != '\n'))
    | '-' :: '-' :: rest => readTokens fuel line (rest.dropWhile (· != '\n'))
    | c :: rest =>
      if isSpace c then readTokens fuel line rest
      else
        let (next, rest) := readToken line cs
        next :: readTokens fuel next.line rest
    | [] => [(readToken line []).1]

/-- The tokens of a program; the last one is its end, or the first fault in it. -/
def tokens (source : List UInt8) : List Lexeme :=
  let cs := unifyLines (letters source)
  readTokens (cs.length + 1) 1 cs

end DungeonHooks.Script
