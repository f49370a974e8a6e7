import FlowPlan.Text.Digit
import FlowPlan.Yaml.Source
import FlowPlan.Yaml.Token

/-!
Tags and directives. A tag is a row of octets, since its escapes name octets and not characters.
-/

namespace FlowPlan.Yaml

def isUri (verbatim : Bool) (c : Char) : Bool :=
  isWord c || ";/?:@&=+$.%!~*'()".contains c || (verbatim && ",[]".contains c)

def readOctet : List Char → Option (UInt8 × List Char)
  | '%' :: a :: b :: rest => do return ((← Text.number? 16 [a, b]).toUInt8, rest)
  | _ => none

def furtherOctets? (first : UInt8) : Option Nat :=
  if first < 0x80 then some 0
  else if 0xC0 ≤ first ∧ first < 0xE0 then some 1
  else if 0xE0 ≤ first ∧ first < 0xF0 then some 2
  else if 0xF0 ≤ first ∧ first < 0xF8 then some 3
  else none

def readFurther : Nat → List Char → Option (Octets × List Char)
  | 0, text => some ([], text)
  | count + 1, text => do
    let (octet, rest) ← readOctet text
    if 0x80 ≤ octet ∧ octet < 0xC0 then
      let (octets, rest) ← readFurther count rest
      return (octet :: octets, rest)
    else none

/-- The octets of the characters of a tag, escaped ones among them. `fuel` bounds the steps. -/
def uriOctets? : Nat → List Char → Option Octets
  | 0, _ => none
  | _ + 1, [] => some []
  | fuel + 1, '%' :: rest => do
    let (first, after) ← readOctet ('%' :: rest)
    let (further, after) ← readFurther (← furtherOctets? first) after
    return first :: further ++ (← uriOctets? fuel after)
  | fuel + 1, c :: rest => do return c.toNat.toUInt8 :: (← uriOctets? fuel rest)

/-- The octets of a tag. They end in front of a zero octet. -/
def tagOctets? (chars : List Char) : Option Octets := do
  return (← uriOctets? (chars.length + 1) chars).takeWhile (· ≠ 0)

/-- Reads the characters of a tag; there has to be one. -/
def readUri (verbatim : Bool) (text : List Spot) : Option (Octets × List Spot) := do
  let (chars, rest) := takeChars (isUri verbatim) text
  if chars.isEmpty then none else return (← tagOctets? chars, rest)

/-- A tag as it is written: the handle, and what follows it. -/
structure TagText where
  handle : String
  rest : Octets

/-- Reads a tag from behind its first exclamation mark. -/
def readTagText (text : List Spot) : Option (TagText × List Spot) :=
  match text with
  | ⟨'<', _, _, _⟩ :: rest => do
    let (uri, rest) ← readUri true rest
    match rest with
    | ⟨'>', _, _, _⟩ :: rest => return (⟨"", uri⟩, rest)
    | _ => none
  | _ =>
    let (name, rest) := takeChars isWord text
    match rest with
    | ⟨'!', _, _, _⟩ :: rest => do
      let (uri, rest) ← readUri false rest
      return (⟨"!" ++ String.ofList name ++ "!", uri⟩, rest)
    | _ => do
      let (chars, rest) := takeChars (isUri false) rest
      let tail ← tagOctets? (name ++ chars)
      return (if tail.isEmpty then ⟨"", octets "!"⟩ else ⟨"!", tail⟩, rest)

/-- Reads a tag. A gap follows it, or a comma in a flow collection. -/
def readTag (inFlow : Bool) (text : List Spot) : Option (TagText × List Spot) := do
  let (tag, rest) ← readTagText text
  match rest with
  | spot :: _ =>
    if isGap spot.char || (inFlow && spot.char == ',') then return (tag, rest) else none
  | [] => none

def skipBlanks (text : List Spot) : List Spot :=
  text.dropWhile fun spot => isBlank spot.char

def readVersionNumber (text : List Spot) : Option (Nat × List Spot) := do
  let (digits, rest) := takeChars Char.isDigit text
  if digits.length > 9 then none else return (← Text.number? 10 digits, rest)

def readVersion (text : List Spot) : Option (Nat × Nat × List Spot) := do
  let (major, rest) ← readVersionNumber (skipBlanks text)
  match rest with
  | ⟨'.', _, _, _⟩ :: rest =>
    let (minor, rest) ← readVersionNumber rest
    return (major, minor, rest)
  | _ => none

/-- Reads a handle: exclamation marks around a name, or a single one. -/
def readHandle : List Spot → Option (String × List Spot)
  | ⟨'!', _, _, _⟩ :: rest =>
    let (name, rest) := takeChars isWord rest
    match rest with
    | ⟨'!', _, _, _⟩ :: rest => some ("!" ++ String.ofList name ++ "!", rest)
    | _ => if name.isEmpty then some ("!", rest) else none
  | _ => none

def readShorthand (text : List Spot) : Option (TagText × List Spot) := do
  let (handle, rest) ← readHandle (skipBlanks text)
  match rest with
  | spot :: _ =>
    if isBlank spot.char then
      let (start, rest) ← readUri true (skipBlanks rest)
      match rest with
      | next :: _ => if isGap next.char then return (⟨handle, start⟩, rest) else none
      | [] => none
    else none
  | [] => none

end FlowPlan.Yaml
