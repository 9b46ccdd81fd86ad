import SoapGateway.Idna.Normalization
import SoapGateway.Idna.Punycode

/-!
# Internationalised domain names

The form of a domain name that is sent, in ASCII. The name is mapped, normalized and cut into
labels; a label in Punycode is decoded, and its text has to be in its one spelling already. Every
label has to be valid, and with writing from right to left anywhere
in the name, every label has to keep to one direction. What is not ASCII is then written in
Punycode.
-/
namespace SoapGateway.Idna

def punycodeMark : List Char := "xn--".toList

/-- The name after mapping, or nothing if a character is refused. -/
def mapName? : List Char → Option (List Char)
  | [] => some []
  | c :: rest =>
    match mapped? c, mapName? rest with
    | some s, some t => some (s ++ t)
    | _, _ => none

/-- The last letter of a joining that is not transparent. -/
def lastJoining (before : List Char) : Option Char := (before.map joining).find? (· != 'T')

/-- Whether a joiner may stand between two texts, of which the first is given backwards. After a
mark that suppresses a vowel it may; one that separates may stand between letters that would join,
too. -/
def allowsJoiner (separates : Bool) (before after : List Char) : Bool :=
  match before with
  | [] => false
  | c :: _ =>
    mark c == 'V' ||
      (separates &&
        (lastJoining before == some 'L' || lastJoining before == some 'D') &&
        (lastJoining after == some 'R' || lastJoining after == some 'D'))

def joinersFit (before : List Char) : List Char → Bool
  | [] => true
  | c :: rest =>
    (if c = '\u200C' then allowsJoiner true before rest
      else if c = '\u200D' then allowsJoiner false before rest
      else true) && joinersFit (c :: before) rest

def isLabel (s : List Char) : Bool :=
  match s with
  | [] => true
  | c :: _ => mark c == 'O' && joinersFit [] s

/-- A label without its writing in Punycode, or nothing if it must not stand in a name. -/
def openLabel? (label : List Char) : Option (List Char) :=
  match Text.dropStart? punycodeMark label with
  | none => if isLabel label then some label else none
  | some code =>
    if !isAscii code then none
    else
      match Punycode.decode? code with
      | none => none
      | some s =>
        if !isAscii s && (Text.dropStart? punycodeMark s).isNone && s.all isValid &&
            normalize s == s && isLabel s then
          some s
        else none

/-- Whether a name is written from right to left in some place. -/
def isBidirectional (labels : List (List Char)) : Bool :=
  labels.any fun s => s.any fun c => direction c == 'R' || direction c == 'N'

/-- Whether a label from right to left keeps to its direction; `letters` are those of the
directions. -/
def isRightToLeft (letters : List Char) : Bool :=
  letters.all (fun d => ['R', 'N', 'E', 'M', 'O'].contains d) &&
    ((letters.reverse.find? (· != 'M')).any fun d => ['R', 'E', 'N'].contains d) &&
    !(letters.contains 'E' && letters.contains 'N')

def isLeftToRight (letters : List Char) : Bool :=
  letters.all (fun d => ['L', 'E', 'M', 'O'].contains d) &&
    ((letters.reverse.find? (· != 'M')).any fun d => ['L', 'E'].contains d)

/-- Whether a label keeps to one direction, which its first character sets. -/
def keepsDirection (label : List Char) : Bool :=
  let letters := label.map direction
  match letters with
  | [] => true
  | 'R' :: _ => isRightToLeft letters
  | 'L' :: _ => isLeftToRight letters
  | _ => false

def sentLabel (s : List Char) : List Char :=
  if isAscii s then s else punycodeMark ++ Punycode.encode s

def joinLabels : List (List Char) → List Char
  | [] => []
  | [s] => s
  | s :: rest => s ++ '.' :: joinLabels rest

def openLabels? : List (List Char) → Option (List (List Char))
  | [] => some []
  | s :: rest =>
    match openLabel? s, openLabels? rest with
    | some s, some rest => some (s :: rest)
    | _, _ => none

/-- The form of a name that is sent. -/
def toAscii? (name : List Char) : Option (List Char) :=
  match (mapName? name).bind fun s => openLabels? (Text.splitAll '.' (normalize s)) with
  | none => none
  | some labels =>
    if !isBidirectional labels || labels.all keepsDirection then
      some (joinLabels (labels.map sentLabel))
    else none

end SoapGateway.Idna
