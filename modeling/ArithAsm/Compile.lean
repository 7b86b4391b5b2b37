import ArithAsm.Backend
import ArithAsm.Expr.Parse
import ArithAsm.Token.Tokenize

/-!
From the text of an expression to its assembly: tokens, tree, program.
-/

namespace ArithAsm

structure Compilation where
  trace : Text
  assembly : Text
  failure : Option Failure
  deriving DecidableEq

def tokenizeTraced (traced : Bool) (source : Text) : Except Error (List Token × Text) :=
  match Token.tokenize source with
  | .ok tokens => .ok (tokens, if traced then Token.trace tokens else [])
  | .error error => .error error

/-- Compiles a text. Tokens are traced as soon as all are read, even if they are no expression. -/
def compile (target : Option Target) (layout : Layout) (traced : Bool) (source : Text) :
    Compilation :=
  match tokenizeTraced traced source with
  | .error error => ⟨[], [], some (.error error)⟩
  | .ok (tokens, trace) =>
    match Expr.parse tokens with
    | .error failure => ⟨trace, [], some failure⟩
    | .ok expr =>
      let (assembly, failure) := (expr.generate target layout).run layout
      ⟨trace, assembly, failure⟩

end ArithAsm
