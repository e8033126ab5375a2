import WrapperGen.Text.Basic

/-!
Paths as they are written. Joining normalizes nothing; taking a path apart ignores empty components
and the components `.` that do not open the path.
-/

namespace WrapperGen

structure Path where
  text : Text
deriving DecidableEq, Repr, Inhabited

namespace Path

instance : Coe String Path := ⟨fun text => ⟨text⟩⟩

def isAbsolute (path : Path) : Bool := path.text.head? = some '/'

/-- The path from a base: an absolute path stands for itself, another follows the base and a
slash. -/
def join (base path : Path) : Path :=
  if path.isAbsolute then path
  else if base.text.isEmpty || base.text.getLast? = some '/' then ⟨base.text ++ path.text⟩
  else ⟨base.text ++ ['/'] ++ path.text⟩

def components (path : Path) : List Text := path.text.splitWhere (· = '/')

/-- Whether a component leads nowhere. -/
def isIdle (component : Text) : Bool := component.isEmpty || component = "."

/-- The name of the file that the path leads to, unless it ends at the root, in `..` or where it
began. -/
def fileName? (path : Path) : Option Text :=
  match path.components.reverse.dropWhile isIdle with
  | [] => none
  | last :: _ => if last = ".." then none else some last

/-- What is left of a path of which nothing but idle components is left: the root, the component `.`
that opens it, or nothing. -/
def origin (path : Path) : Path :=
  if path.isAbsolute then "/"
  else if path.components.head? = some "." then "."
  else ""

/-- The paths above one with the given components, innermost first in both lists. -/
def above (origin : Path) : List Text → List Path
  | [] => if origin = "." then [""] else []
  | last :: before =>
    if isIdle last then above origin before
    else match before.dropWhile isIdle with
      | [] => origin :: above origin before
      | kept => ⟨Text.join "/" kept.reverse⟩ :: above origin before

/-- The paths above the path, each without one more of its last components. -/
def ancestors (path : Path) : List Path := above path.origin path.components.reverse

/-- The path without its last component, unless it has none. -/
def parent? (path : Path) : Option Path := path.ancestors.head?

end Path

end WrapperGen
