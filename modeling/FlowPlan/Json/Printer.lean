import FlowPlan.Document.Basic

namespace FlowPlan.Json

/-- Numbers have a point or an exponent, and an exponent only outside of 10^-5 to 10^16. -/
def numberLayout : Decimal.Layout where
  positional := some (-5, 15)
  pointZero := true
  plus := true
  tie := .toEven
  notANumber := "null"
  infinity := "null"

def escape (c : Char) : String :=
  match c with
  | '"' => "\\\""
  | '\\' => "\\\\"
  | '\x08' => "\\b"
  | '\x0c' => "\\f"
  | '\n' => "\\n"
  | '\r' => "\\r"
  | '\t' => "\\t"
  | c =>
    if c.toNat < 0x20 then
      "\\u00" ++ String.ofList [Nat.digitChar (c.toNat / 16), Nat.digitChar (c.toNat % 16)]
    else String.singleton c

def quoted (s : String) : String :=
  s.foldl (fun written c => written ++ escape c) "\"" ++ "\""

def numberText : Numeral → String
  | .integer n => toString n
  | .real x => if x.isFinite then numberLayout.text x else "null"

mutual

def compact : Document → String
  | .null => "null"
  | .boolean b => if b then "true" else "false"
  | .number n => numberText n
  | .text s => quoted s
  | .sequence items => "[" ++ compactItems items ++ "]"
  | .mapping fields => "\x7b" ++ compactFields fields ++ "\x7d"

def compactItems : List Document → String
  | [] => ""
  | [item] => compact item
  | item :: rest => compact item ++ "," ++ compactItems rest

def compactFields : List (String × Document) → String
  | [] => ""
  | [(key, value)] => quoted key ++ ":" ++ compact value
  | (key, value) :: rest => quoted key ++ ":" ++ compact value ++ "," ++ compactFields rest

end

def lineStart (depth : Nat) : String :=
  "\n" ++ String.ofList (List.replicate (2 * depth) ' ')

mutual

/-- The document over several lines; empty sequences and mappings stay on one. -/
def indented (depth : Nat) : Document → String
  | .null => "null"
  | .boolean b => if b then "true" else "false"
  | .number n => numberText n
  | .text s => quoted s
  | .sequence [] => "[]"
  | .sequence (item :: rest) =>
    "[" ++ indentedItems (depth + 1) (item :: rest) ++ lineStart depth ++ "]"
  | .mapping [] => "\x7b\x7d"
  | .mapping (entry :: rest) =>
    "\x7b" ++ indentedFields (depth + 1) (entry :: rest) ++ lineStart depth ++ "\x7d"

def indentedItems (depth : Nat) : List Document → String
  | [] => ""
  | [item] => lineStart depth ++ indented depth item
  | item :: rest => lineStart depth ++ indented depth item ++ "," ++ indentedItems depth rest

def indentedFields (depth : Nat) : List (String × Document) → String
  | [] => ""
  | [(key, value)] => lineStart depth ++ quoted key ++ ": " ++ indented depth value
  | (key, value) :: rest =>
    lineStart depth ++ quoted key ++ ": " ++ indented depth value ++ "," ++
      indentedFields depth rest

end

def pretty (document : Document) : String :=
  indented 0 document

end FlowPlan.Json
