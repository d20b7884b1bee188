import Highlight.Registry.Basic
import Highlight.Text.Quoted

/-!
# A registry in one line

The names of the languages in ascending order, and the number of aliases.
-/

namespace Highlight.Registry

def describe {G : Type} (r : Registry G) : String :=
  "Registry \x7b languages: " ++ Text.quotedList r.languages ++ ", aliases: " ++
    toString r.aliases.size ++ " \x7d"

end Highlight.Registry
