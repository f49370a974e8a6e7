import FlowPlan.Json.Printer
import FlowPlan.Yaml.Scalar
import FlowPlan.Yaml.Source

/-!
Writing documents as YAML text in block style. A text is written plain where it reads back as
itself, as a literal block if it has several lines, and between quotes otherwise.
-/

namespace FlowPlan.Yaml

def numberLayout : Decimal.Layout :=
  { Json.numberLayout with plus := false, notANumber := ".nan", infinity := ".inf" }

def isPrintable (c : Char) : Bool :=
  Text.inRanges [(0xA, 0xA), (0x20, 0x7E), (0xA0, 0xD7FF), (0xE000, 0xFEFE), (0xFF00, 0xFFFD),
    (0x10000, 0x10FFFF)] c.toNat

inductive Style where
  | plain
  | single
  | double
  | literal
deriving DecidableEq

namespace Style

def anyPair (p : Char → Char → Bool) (text : List Char) : Bool :=
  (text.zip text.tail).any fun (a, b) => p a b

def hasSpaceBreak (text : List Char) : Bool :=
  anyPair (fun a b => a == ' ' && isBreak b) text

def hasBreakSpace (text : List Char) : Bool :=
  anyPair (fun a b => isBreak a && b == ' ') text

def fitsSingle (text : List Char) : Bool :=
  text.all isPrintable && !hasSpaceBreak text && !hasBreakSpace text

def fitsLiteral (text : List Char) : Bool :=
  text.all isPrintable && !hasSpaceBreak text && text.getLast? != some ' '

def hasIndicator : List Char → Bool
  | '-' :: '-' :: '-' :: _ => true
  | '.' :: '.' :: '.' :: _ => true
  | [c] => "#,[]\x7b\x7d&*!|>'\"%@`?:-".contains c
  | c :: next :: _ =>
    "#,[]\x7b\x7d&*!|>'\"%@`".contains c || ("?:-".contains c && next == ' ')
  | [] => false

def hasMark (text : List Char) : Bool :=
  anyPair (fun a b => (a == ' ' && b == '#') || (a == ':' && b == ' ')) text ||
    text.getLast? == some ':'

def fitsPlain (text : List Char) : Bool :=
  text.all (fun c => isPrintable c && !isBreak c) && text.head? != some ' ' &&
    text.getLast? != some ' ' && !hasIndicator text && !hasMark text

def readsAsText (text : String) : Bool :=
  match Scalar.plain? text with
  | some (.text _) => !Scalar.isPadded text.toList
  | _ => false

def ofText (text : String) : Style :=
  let chars := text.toList
  if chars.contains '\n' then
    if fitsLiteral chars then .literal else .double
  else if readsAsText text && fitsPlain chars then .plain
  else if fitsSingle chars then .single
  else .double

end Style

/-- A letter that stands for a character after a backslash. -/
def shortEscape? : Char → Option Char
  | '\x00' => some '0'
  | '\x07' => some 'a'
  | '\x08' => some 'b'
  | '\t' => some 't'
  | '\n' => some 'n'
  | '\x0b' => some 'v'
  | '\x0c' => some 'f'
  | '\r' => some 'r'
  | '\x1b' => some 'e'
  | '"' => some '"'
  | '\\' => some '\\'
  | '\u0085' => some 'N'
  | '\u2028' => some 'L'
  | '\u2029' => some 'P'
  | _ => none

def hexText (width code : Nat) : String :=
  let digits := (Nat.toDigits 16 code).map Char.toUpper
  String.ofList (List.replicate (width - digits.length) '0' ++ digits)

def doubleChar (c : Char) : String :=
  match shortEscape? c with
  | some letter => "\\" ++ String.singleton letter
  | none =>
    if isPrintable c then String.singleton c
    else if c.toNat < 0x100 then "\\x" ++ hexText 2 c.toNat
    else "\\u" ++ hexText 4 c.toNat

def doubleText (text : List Char) : String :=
  "\"" ++ String.join (text.map doubleChar) ++ "\""

def indentation (indent : Nat) : String :=
  String.ofList (List.replicate indent ' ')

/-- The lines of a text, indented unless they are empty. `atStart` tells that a line starts here. -/
def indentLines (indent : Nat) (write : Char → String) : Bool → List Char → String
  | _, [] => ""
  | atStart, c :: rest =>
    if isBreak c then String.singleton c ++ indentLines indent write true rest
    else
      (if atStart then indentation indent else "") ++ write c ++
        indentLines indent write false rest

def singleChar (c : Char) : String :=
  if c = '\'' then "''" else String.singleton c

def singleText (indent : Nat) (text : List Char) : String :=
  "'" ++ indentLines indent singleChar false text ++
    (if (text.getLast?.map isBreak).getD false then indentation indent else "") ++ "'"

/-- The marks behind the indicator of a literal block: the width of the indentation, if the text
starts with a blank or a break, and what becomes of the breaks at its end. -/
def literalHints (text : List Char) : String :=
  let width := if (text.head?.map fun c => c == ' ' || isBreak c).getD false then "2" else ""
  let chomping := match text.reverse with
    | last :: before =>
      if !isBreak last then "-"
      else if (before.head?.map isBreak).getD true then "+"
      else ""
    | [] => "-"
  width ++ chomping

def literalText (indent : Nat) (text : List Char) : String :=
  "|" ++ literalHints text ++ "\n" ++ indentLines indent String.singleton true text

def textText (indent : Nat) (text : String) : String :=
  match Style.ofText text with
  | .plain => text
  | .single => singleText indent text.toList
  | .double => doubleText text.toList
  | .literal => literalText indent text.toList

def keyText (key : String) : String :=
  match Style.ofText key with
  | .plain => key
  | .single => singleText 0 key.toList
  | _ => doubleText key.toList

def endLine (text : String) : String :=
  if (text.toList.getLast?.map isBreak).getD false then text else text ++ "\n"

mutual

def itemText (indent : Nat) : Document → String
  | .sequence (item :: rest) => " " ++ itemsText (indent + 2) (item :: rest)
  | .mapping (field :: rest) => " " ++ fieldsText (indent + 2) (field :: rest)
  | other => endLine (" " ++ leafText (indent + 2) other)

/-- A document behind a key, with the end of its last line. Items stand below the key itself. -/
def valueText (indent : Nat) : Document → String
  | .sequence (item :: rest) => "\n" ++ indentation indent ++ itemsText indent (item :: rest)
  | .mapping (field :: rest) =>
    "\n" ++ indentation (indent + 2) ++ fieldsText (indent + 2) (field :: rest)
  | other => endLine (" " ++ leafText (indent + 2) other)

def leafText (indent : Nat) : Document → String
  | .null => "null"
  | .boolean b => if b then "true" else "false"
  | .number (.integer n) => toString n
  | .number (.real x) => numberLayout.text x
  | .text s => textText indent s
  | .sequence _ => "[]"
  | .mapping _ => "\x7b\x7d"

/-- The items of a sequence. The first stands where the line has got to. -/
def itemsText (indent : Nat) : List Document → String
  | [] => ""
  | [item] => "-" ++ itemText indent item
  | item :: rest =>
    "-" ++ itemText indent item ++ indentation indent ++ itemsText indent rest

/-- The fields of a mapping. The first stands where the line has got to. -/
def fieldsText (indent : Nat) : List (String × Document) → String
  | [] => ""
  | [(key, value)] => keyText key ++ ":" ++ valueText indent value
  | (key, value) :: rest =>
    keyText key ++ ":" ++ valueText indent value ++ indentation indent ++ fieldsText indent rest

end

def write : Document → String
  | .sequence (item :: rest) => itemsText 0 (item :: rest)
  | .mapping (field :: rest) => fieldsText 0 (field :: rest)
  | other => endLine (leafText 0 other)

end FlowPlan.Yaml
