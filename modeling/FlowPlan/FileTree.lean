import FlowPlan.Error

namespace FlowPlan

abbrev Files := String → Except ReadFailure String

def decodeText (bytes : ByteArray) : Except ReadFailure String :=
  match String.fromUTF8? bytes with
  | some text => .ok text
  | none => .error .invalidData

/-- A working directory: its files, under the names that lead to them. There are no files outside
of it. -/
structure FileTree where
  files : List (List String × ByteArray)

namespace FileTree

def names (path : String) : List String :=
  (path.splitOn "/").filter fun name => name ≠ "" ∧ name ≠ "."

def ofList (files : List (String × ByteArray)) : FileTree where
  files := files.map fun (path, bytes) => (names path, bytes)

inductive Place where
  /-- A directory that the working directory lies in. -/
  | outside
  /-- A directory of the tree, by the names that lead to it. -/
  | directory (names : List String)
  | file (bytes : ByteArray)

def isDirectory (tree : FileTree) (names : List String) : Bool :=
  tree.files.any fun (file, _) => names.isPrefixOf file && names.length < file.length

def child (tree : FileTree) (names : List String) : Except ReadFailure Place :=
  match tree.files.lookup names with
  | some bytes => .ok (.file bytes)
  | none => if tree.isDirectory names then .ok (.directory names) else .error .notFound

def step (tree : FileTree) (place : Place) (piece : String) : Except ReadFailure Place :=
  match place with
  | .file _ => .error .notADirectory
  | .outside => if ["", ".", ".."].contains piece then .ok .outside else .error .notFound
  | .directory names =>
    if piece = "" ∨ piece = "." then .ok place
    else if piece = ".." then
      .ok (if names.isEmpty then .outside else .directory names.dropLast)
    else tree.child (names ++ [piece])

def find (tree : FileTree) (path : String) : Except ReadFailure Place :=
  if path.isEmpty then .error .notFound
  else
    (path.splitOn "/").foldlM tree.step
      (if path.startsWith "/" then .outside else .directory [])

def read (tree : FileTree) : Files := fun path => do
  match ← tree.find path with
  | .file bytes => decodeText bytes
  | _ => .error .isADirectory

end FileTree

end FlowPlan
