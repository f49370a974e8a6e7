import FlowPlan.Text.Case

namespace FlowPlan.Text

def lowerChar (c : Char) : Char :=
  if c.toNat < 0x80 then c.toLower
  else
    match lowerRuns.find? fun run => run.first ≤ c.toNat && c.toNat ≤ run.last with
    | some run =>
      if (c.toNat - run.first) % run.stride = 0 then Char.ofNat (c.toNat + run.distance).toNat
      else c
    | none => c

/-- Whether the first character that case does not ignore is a letter with case. -/
def meetsCased (text : List Char) : Bool :=
  match text.dropWhile isCaseIgnorable with
  | [] => false
  | c :: _ => isCased c

/-- The lower-case form of `text`, `before` being the reversed text in front of it. A capital sigma
at the end of a word has a form of its own, and a dotted capital I keeps its dot. -/
def lowerFrom (before : List Char) : List Char → List Char
  | [] => []
  | c :: rest =>
    let lowered :=
      if c = 'Σ' then
        if meetsCased before && !meetsCased rest then ['ς'] else ['σ']
      else if c = 'İ' then ['i', '\u0307']
      else [lowerChar c]
    lowered ++ lowerFrom (c :: before) rest

def lowercase (s : String) : String :=
  String.ofList (lowerFrom [] s.toList)

end FlowPlan.Text
