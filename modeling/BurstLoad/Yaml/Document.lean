import BurstLoad.Yaml.Node.Grammar
import BurstLoad.Yaml.Object

/-!
The value of a document: from its text to tokens, to nodes, and to the object of the root.
-/

set_option autoImplicit false

namespace BurstLoad.Yaml

/-- The value of a text; one without a document has none. -/
def read (text : String) : Except Failure Value := do
  match ← Node.ofTokens? (← Token.ofText (unifyLines text.toList)) with
  | none => pure .null
  | some (nodes, root) => nodes.value root

end BurstLoad.Yaml
