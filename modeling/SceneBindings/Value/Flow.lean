import SceneBindings.Value.Printer
import SceneBindings.Value.Reader
import SceneBindings.Value.Yaml

/-!
Documents on one line, each value in the flow style.
-/

namespace SceneBindings

instance flowStyle : Yaml := ⟨Value.chars, Value.ofChars?⟩

end SceneBindings
