import FlowPlan.Text.Hidden

namespace FlowPlan.Text

def codePoint (c : Char) : String :=
  "\\u\x7b" ++ String.ofList (Nat.toDigits 16 c.toNat) ++ "\x7d"

/-- The written form of one character: the usual letters after a backslash, and the code point of
what would not show. -/
def quoteChar (c : Char) : String :=
  match c with
  | '\x00' => "\\0"
  | '\t' => "\\t"
  | '\r' => "\\r"
  | '\n' => "\\n"
  | '\\' => "\\\\"
  | '"' => "\\\""
  | c =>
    if 0x20 ≤ c.toNat ∧ c.toNat < 0x7F then String.singleton c
    else if isHidden c then codePoint c
    else String.singleton c

def quoted (s : String) : String :=
  s.foldl (fun written c => written ++ quoteChar c) "\"" ++ "\""

end FlowPlan.Text
