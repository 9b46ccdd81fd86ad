/-!
# Blank characters

The three notions of emptiness that texts are judged by: white space in the sense of Unicode's
`White_Space` property, control characters, and the ASCII blanks of a request body. Trimming,
splitting into words and cleaning a field are defined from them, on lists of characters.
-/
namespace SoapGateway.Text

def isBlank (c : Char) : Bool :=
  let n := c.toNat
  (0x09 ≤ n && n ≤ 0x0D) || n == 0x20 || n == 0x85 || n == 0xA0 || n == 0x1680 ||
    (0x2000 ≤ n && n ≤ 0x200A) || n == 0x2028 || n == 0x2029 || n == 0x202F || n == 0x205F ||
    n == 0x3000

/-- The control characters, general category `Cc`. -/
def isControl (c : Char) : Bool :=
  let n := c.toNat
  n ≤ 0x1F || (0x7F ≤ n && n ≤ 0x9F)

/-- Characters that a text field may be padded with. -/
def isPadding (c : Char) : Bool := isBlank c || isControl c

def trimBy (p : Char → Bool) (s : List Char) : List Char :=
  ((s.dropWhile p).reverse.dropWhile p).reverse

def trim (s : String) : String := String.ofList (trimBy isBlank s.toList)

/-- Strips padding, that is white space and control characters, from both ends of a field. -/
def clean (s : String) : String := String.ofList (trimBy isPadding s.toList)

/-- Cuts a text at white space; `current` holds the open word backwards. -/
def wordsFrom (current : List Char) : List Char → List (List Char)
  | [] => if current.isEmpty then [] else [current.reverse]
  | c :: rest =>
    if isBlank c then
      if current.isEmpty then wordsFrom [] rest else current.reverse :: wordsFrom [] rest
    else wordsFrom (c :: current) rest

/-- The maximal runs of characters that are not white space, in order. -/
def words (s : String) : List String := (wordsFrom [] s.toList).map String.ofList

/-- The blanks of ASCII: space, tab, line feed, form feed and carriage return. -/
def isAsciiBlank (b : UInt8) : Bool :=
  b == 0x20 || b == 0x09 || b == 0x0A || b == 0x0C || b == 0x0D

/-- Lower-case form of a letter of ASCII; any other character is kept. -/
def lowerAscii (c : Char) : Char :=
  if 'A' ≤ c ∧ c ≤ 'Z' then Char.ofNat (c.toNat + 32) else c

/-- Equality up to the case of ASCII letters. -/
def sameAscii (a b : List Char) : Bool := a.map lowerAscii == b.map lowerAscii

end SoapGateway.Text
