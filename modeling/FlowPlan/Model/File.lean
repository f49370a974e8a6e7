import FlowPlan.FileTree
import FlowPlan.Model.Text
import FlowPlan.Path
import FlowPlan.Text.Lowercase

/-!
Models in files. The extension of the file tells its format, and relative paths in the model start
from the directory of the file.
-/

namespace FlowPlan

def Files.require (files : Files) (path : String) : Except ModelError String :=
  (files path).mapError (.unreadable path)

namespace Model

def fileFormat (path : String) : Except ModelError TextFormat :=
  let extension := Text.lowercase ((Path.extension? path).getD "")
  match TextFormat.ofExtension? extension with
  | some format => .ok format
  | none => .error (.unsupportedFileType extension path)

def loadFile (files : Files) (strictness : Strictness) (path : String) : Load Model := do
  let format ← fileFormat path
  let model ← loadText format strictness (← files.require path)
  return { model with path := Path.parent? path }

end Model

end FlowPlan
