import AccessStream.Files.Tree
import AccessStream.Policy.Format

/-!
# Policy files

The format of a policy file is told by the extension of its name, in small letters.
-/

namespace AccessStream

/-- The format of the policy file under a path, if its name tells one. -/
def PolicyFormat.ofPath? (path : String) : Option PolicyFormat :=
  (Path.extension? path).bind ofName?

namespace Policy

/-- The well-formed policy that a file says. -/
def ofFile (format : PolicyFormat) (found : Found) : Except PolicyError Policy :=
  match found.text? with
  | some text => parse format text
  | none => .error .unreadable

/-- The well-formed policy of the file under a path. -/
def load {m : Type → Type} [Monad m] (find : String → m Found) (path : String) :
    m (Except PolicyError Policy) :=
  match PolicyFormat.ofPath? path with
  | none => pure (.error (.unsupported path))
  | some format => do return ofFile format (← find path)

end Policy

end AccessStream
