import SoapGateway.Text.Decimal

/-!
# Lexemes of TOML

Blanks, comments, line ends, strings and keys. A reader takes its lexeme from the front of the text
and returns what follows, or nothing if the text begins otherwise.
-/
namespace SoapGateway.Toml

/-- Takes something from the front of a text. -/
abbrev Reader (α : Type) := List Char → Option (α × List Char)

def isBlank (c : Char) : Bool := c == ' ' || c == '\t'

def skipBlanks (s : List Char) : List Char := s.dropWhile isBlank

/-- A character that may stand in a comment: no control character except the tab. -/
def isPlain (c : Char) : Bool := c == '\t' || (0x20 ≤ c.toNat && c.toNat != 0x7F)

/-- A character that stands for itself between double quotes. -/
def isBasic (c : Char) : Bool := isPlain c && c != '"' && c != '\\'

def isLiteral (c : Char) : Bool := isPlain c && c != '\''

/-- A character of a key without quotes. -/
def isBare (c : Char) : Bool :=
  ('a' ≤ c && c ≤ 'z') || ('A' ≤ c && c ≤ 'Z') || ('0' ≤ c && c ≤ '9') || c == '-' || c == '_'

def newline? : List Char → Option (List Char)
  | '\n' :: rest => some rest
  | '\r' :: '\n' :: rest => some rest
  | _ => none

def skipComment : List Char → List Char
  | '#' :: rest => rest.dropWhile isPlain
  | s => s

/-- What follows the rest of a line on which nothing but a comment may stand. -/
def endLine? (s : List Char) : Option (List Char) :=
  match skipComment (skipBlanks s) with
  | [] => some []
  | rest => newline? rest

def skipBlankLines : List Char → List Char
  | [] => []
  | '\r' :: '\n' :: rest => skipBlankLines rest
  | c :: rest => if isBlank c || c == '\n' then skipBlankLines rest else c :: rest

/-- Drops blanks, line ends and comments; bounded by the length of the text. -/
def skipTriviaFrom : Nat → List Char → List Char
  | 0, s => s
  | n + 1, s =>
    match skipBlankLines s with
    | '#' :: rest => skipTriviaFrom n (rest.dropWhile isPlain)
    | rest => rest

def skipTrivia (s : List Char) : List Char := skipTriviaFrom (s.length + 1) s

/-- The character that hexadecimal digits name. -/
def codePoint? (hex : List Char) : Option Char :=
  let n := Text.valueOf 16 hex
  if n.isValidChar then some (Char.ofNat n) else none

/-- Reads a code point of exactly `width` hexadecimal digits. -/
def hexEscape (width : Nat) : Reader Char := fun s =>
  let hex := s.take width
  if hex.length = width ∧ hex.all (fun c => (Text.hexValue? c).isSome) then
    (codePoint? hex).map fun c => (c, s.drop width)
  else none

def escape : Reader Char
  | 'b' :: rest => some ('\x08', rest)
  | 't' :: rest => some ('\t', rest)
  | 'n' :: rest => some ('\n', rest)
  | 'f' :: rest => some ('\x0c', rest)
  | 'r' :: rest => some ('\r', rest)
  | '"' :: rest => some ('"', rest)
  | '\\' :: rest => some ('\\', rest)
  | 'u' :: rest => hexEscape 4 rest
  | 'U' :: rest => hexEscape 8 rest
  | _ => none

/-- Puts characters in front of what is read. -/
def andThen (front : List Char) (rest : Option (List Char × List Char)) :
    Option (List Char × List Char) :=
  rest.map fun (s, rest) => (front ++ s, rest)

/-- Reads the inside of a string between double quotes and the closing quote; bounded by the length
of the text. -/
def basicFrom : Nat → Reader (List Char)
  | 0, _ => none
  | _ + 1, [] => none
  | n + 1, c :: rest =>
    if c = '"' then some ([], rest)
    else if c = '\\' then
      match escape rest with
      | some (e, rest) => andThen [e] (basicFrom n rest)
      | none => none
    else if isBasic c then andThen [c] (basicFrom n rest)
    else none

/-- Reads a string between double quotes, after the opening one. -/
def basic : Reader (List Char) := fun s => basicFrom (s.length + 1) s

/-- Reads a string between single quotes, after the opening one. -/
def literal : Reader (List Char) := fun s =>
  match s.dropWhile isLiteral with
  | '\'' :: rest => some (s.takeWhile isLiteral, rest)
  | _ => none

/-- Takes a run of quotes at the front. Three of them close a string, and up to two more belong to
it; fewer are part of the text. The first component tells whether the string is closed. -/
def quoteRun (quote : Char) (s : List Char) : Bool × List Char × List Char :=
  let k := (s.takeWhile (· == quote)).length
  if k < 3 then (false, List.replicate k quote, s.drop k)
  else (true, List.replicate (min (k - 3) 2) quote, s.drop (3 + min (k - 3) 2))

/-- What follows a backslash that hides the end of its line and the blanks after it. -/
def hiddenNewline? (s : List Char) : Option (List Char) :=
  (newline? (skipBlanks s)).map skipBlankLines

/-- Reads the inside of a string of several lines between double quotes, and the closing quotes;
bounded by the length of the text. -/
def multilineBasicFrom : Nat → Reader (List Char)
  | 0, _ => none
  | _ + 1, [] => none
  | n + 1, c :: rest =>
    if c = '"' then
      match quoteRun '"' (c :: rest) with
      | (true, quotes, rest) => some (quotes, rest)
      | (false, quotes, rest) => andThen quotes (multilineBasicFrom n rest)
    else if c = '\\' then
      match hiddenNewline? rest with
      | some rest => multilineBasicFrom n rest
      | none =>
        match escape rest with
        | some (e, rest) => andThen [e] (multilineBasicFrom n rest)
        | none => none
    else
      match newline? (c :: rest) with
      | some rest => andThen ['\n'] (multilineBasicFrom n rest)
      | none => if isBasic c then andThen [c] (multilineBasicFrom n rest) else none

/-- Reads the inside of a string of several lines between single quotes, and the closing quotes;
bounded by the length of the text. -/
def multilineLiteralFrom : Nat → Reader (List Char)
  | 0, _ => none
  | _ + 1, [] => none
  | n + 1, c :: rest =>
    if c = '\'' then
      match quoteRun '\'' (c :: rest) with
      | (true, quotes, rest) => some (quotes, rest)
      | (false, quotes, rest) => andThen quotes (multilineLiteralFrom n rest)
    else
      match newline? (c :: rest) with
      | some rest => andThen ['\n'] (multilineLiteralFrom n rest)
      | none => if isLiteral c then andThen [c] (multilineLiteralFrom n rest) else none

/-- A line end right after the opening quotes does not belong to the string. -/
def dropFirstNewline (s : List Char) : List Char := (newline? s).getD s

def string : Reader (List Char)
  | '"' :: '"' :: '"' :: rest =>
    let s := dropFirstNewline rest
    multilineBasicFrom (s.length + 1) s
  | '"' :: rest => basic rest
  | '\'' :: '\'' :: '\'' :: rest =>
    let s := dropFirstNewline rest
    multilineLiteralFrom (s.length + 1) s
  | '\'' :: rest => literal rest
  | _ => none

def keyPart : Reader (List Char)
  | '"' :: rest => basic rest
  | '\'' :: rest => literal rest
  | s =>
    if (s.takeWhile isBare).isEmpty then none
    else some (s.takeWhile isBare, s.dropWhile isBare)

/-- Reads the parts of a key with points between them; bounded by the length of the text. -/
def keyFrom : Nat → Reader (List String)
  | 0, _ => none
  | n + 1, s =>
    match keyPart (skipBlanks s) with
    | none => none
    | some (part, rest) =>
      match skipBlanks rest with
      | '.' :: rest => (keyFrom n rest).map fun (parts, rest) => (String.ofList part :: parts, rest)
      | rest => some ([String.ofList part], rest)

/-- Parts of a key must be fewer, and values may be nested less deep. -/
def depthLimit : Nat := 80

/-- Reads a key and the blanks around it. -/
def key : Reader (List String) := fun s =>
  (keyFrom (s.length + 1) s).bind fun (parts, rest) =>
    if parts.length < depthLimit then some (parts, rest) else none

end SoapGateway.Toml
