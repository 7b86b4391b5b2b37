import ArithAsm.Text.Basic

/-!
The name that the program goes by in its messages.
-/

namespace ArithAsm

/-- The parts of a path that name something: neither empty nor the dot that stands for no step. -/
def pathParts (path : Text) : List Text :=
  (Text.splitOn '/' path).filter fun part => part ≠ [] && part ≠ "."

def pathName (path : Text) : Text := (pathParts path).getLast?.getD []

def moduleFile : Text := "__main__.py"

/-- The name given, if it is not empty, and otherwise that of the file that is run. -/
def programName (given : Option Text) (path : Text) : Text :=
  let given := given.getD []
  if given ≠ [] then given
  else if pathName path = moduleFile then "python -m exprc"
  else pathName path

end ArithAsm
