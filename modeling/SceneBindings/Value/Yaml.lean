import SceneBindings.Value.Basic

/-!
The library with which documents are written to files and read from them. How a document is laid out
is its own affair.
-/

namespace SceneBindings

class Yaml where
  dump : Value → List Char
  /-- What a text holds, if it is well formed. -/
  load : List Char → Option Value

end SceneBindings
