namespace FlowPlan.Path

def isAbsolute (path : String) : Bool :=
  path.startsWith "/"

/-- `path` seen from `base`. An absolute path stands for itself. -/
def join (base path : String) : String :=
  if isAbsolute path ∨ base.isEmpty then path
  else if base.endsWith "/" then base ++ path
  else base ++ "/" ++ path

/-- The mark that a path starts with, a root or a leading dot, and what follows it. -/
def splitLead : List Char → List Char × List Char
  | '/' :: rest => (['/'], rest)
  | ['.'] => (['.'], [])
  | '.' :: '/' :: rest => (['.'], '/' :: rest)
  | body => ([], body)

def lastPiece (reversed : List Char) : List Char :=
  reversed.takeWhile (· ≠ '/')

def dropPiece (reversed : List Char) : List Char :=
  reversed.drop ((lastPiece reversed).length + 1)

/-- Drops the empty pieces and the dots at the end of a path that is given in reverse. -/
def trimEnd : List Char → List Char
  | [] => []
  | c :: rest =>
    if lastPiece (c :: rest) = [] ∨ lastPiece (c :: rest) = ['.'] then
      trimEnd (dropPiece (c :: rest))
    else c :: rest
termination_by reversed => reversed.length
decreasing_by
  simp only [dropPiece, List.length_drop, List.length_cons]
  omega

def fileName? (path : String) : Option String :=
  let reversed := trimEnd (splitLead path.toList).2.reverse
  let piece := (lastPiece reversed).reverse
  if piece = [] ∨ piece = ['.', '.'] then none else some (String.ofList piece)

/-- What follows the last dot of the file name. A dot at its start counts as part of the name. -/
def extension? (path : String) : Option String :=
  match fileName? path with
  | none => none
  | some name =>
    let reversed := name.toList.reverse
    let after := reversed.takeWhile (· ≠ '.')
    if after.length + 1 < reversed.length then some (String.ofList after.reverse) else none

/-- The path without its last component; none when nothing is left. -/
def parent? (path : String) : Option String :=
  let (lead, body) := splitLead path.toList
  let reversed := trimEnd body.reverse
  if reversed = [] then none
  else
    let parent := lead ++ (trimEnd (dropPiece reversed)).reverse
    if parent = [] then none else some (String.ofList parent)

end FlowPlan.Path
