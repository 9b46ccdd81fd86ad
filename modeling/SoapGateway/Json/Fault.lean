import SoapGateway.Text.Decimal

/-!
# Faults of JSON documents

What can be wrong with a document, how it is worded, and where: a fault keeps the octets that were
still unread at the reported place, from which its line and column are computed.
-/
namespace SoapGateway.Json

inductive Problem where
  | unfinishedList | unfinishedObject | unfinishedText | unfinishedValue
  | expectedColon | expectedListEnd | expectedObjectEnd | expectedWord | expectedValue
  | invalidEscape | invalidNumber | numberOutOfRange | invalidCodePoint | controlCharacter
  | keyNotText | loneSurrogate | brokenSurrogatePair | trailingComma | trailingCharacters
  /-- A value of another kind than the one that is read. -/
  | mismatch (found expected : String)
  | duplicateField (name : String)
  | missingField (name : String)
  /-- An array that ends before the required members of a record of `size` members. -/
  | shortRecord (found : Nat) (record : String) (size : Nat)
  deriving DecidableEq, Repr

namespace Problem

def message : Problem → String
  | unfinishedList => "EOF while parsing a list"
  | unfinishedObject => "EOF while parsing an object"
  | unfinishedText => "EOF while parsing a string"
  | unfinishedValue => "EOF while parsing a value"
  | expectedColon => "expected `:`"
  | expectedListEnd => "expected `,` or `]`"
  | expectedObjectEnd => "expected `,` or `\x7d`"
  | expectedWord => "expected ident"
  | expectedValue => "expected value"
  | invalidEscape => "invalid escape"
  | invalidNumber => "invalid number"
  | numberOutOfRange => "number out of range"
  | invalidCodePoint => "invalid unicode code point"
  | controlCharacter => "control character (\\u0000-\\u001F) found while parsing a string"
  | keyNotText => "key must be a string"
  | loneSurrogate => "lone leading surrogate in hex escape"
  | brokenSurrogatePair => "unexpected end of hex escape"
  | trailingComma => "trailing comma"
  | trailingCharacters => "trailing characters"
  | mismatch found expected => "invalid type: " ++ found ++ ", expected " ++ expected
  | duplicateField name => "duplicate field `" ++ name ++ "`"
  | missingField name => "missing field `" ++ name ++ "`"
  | shortRecord found record size =>
    "invalid length " ++ Text.ofNat found ++ ", expected " ++ record ++ " with " ++
      Text.ofNat size ++ (if size = 1 then " element" else " elements")

end Problem

/-- A problem and the octets that were unread where it is reported. -/
structure Fault where
  problem : Problem
  unread : List UInt8
  deriving DecidableEq, Repr

namespace Fault

/-- Line and column after the octets `read`: lines count from one, columns are octets of the line.
-/
def position (read : List UInt8) : Nat × Nat :=
  (1 + read.count 0x0A, (read.reverse.takeWhile (· != 0x0A)).length)

def message (input : List UInt8) (f : Fault) : String :=
  let (line, column) := position (input.take (input.length - f.unread.length))
  f.problem.message ++ " at line " ++ Text.ofNat line ++ " column " ++ Text.ofNat column

end Fault

def failHere {α : Type} (problem : Problem) (rest : List UInt8) : Except Fault α :=
  .error ⟨problem, rest⟩

/-- Reports a problem at the octet that comes next. -/
def failNext {α : Type} (problem : Problem) (rest : List UInt8) : Except Fault α :=
  .error ⟨problem, rest.drop 1⟩

end SoapGateway.Json
