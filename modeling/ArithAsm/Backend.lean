import ArithAsm.Assembly.Program
import ArithAsm.Target

/-!
Code generators and the targets they serve.
-/

namespace ArithAsm

inductive Backend where
  | amd64
  deriving DecidableEq

namespace Backend

def ofTarget (target : Target) : Except Error Backend :=
  if target.architecture = Target.amd64 then .ok .amd64 else .error (.unsupportedTarget target)

/-- Writes a program with a code generator, which insists on a target of its own architecture. -/
def program (backend : Backend) (target : Option Target) (layout : Layout) (expr : Expr) :
    Emit Unit :=
  match backend, Target.required "architecture" target with
  | .amd64, .error defect => throw (.defect defect)
  | .amd64, .ok target =>
    if target.architecture = Target.amd64 then Emit.program layout expr
    else throw (.defect .architectureForeign)

end Backend

def Expr.generate (target : Option Target) (layout : Layout) (expr : Expr) : Emit Unit :=
  let target := target.getD .standard
  match Backend.ofTarget target with
  | .ok backend => backend.program target layout expr
  | .error error => throw (.error error)

end ArithAsm
