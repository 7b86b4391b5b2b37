import ArithAsm.Defect

/-!
Diagnostics: messages for the person who wrote the expression, most of them with a caret under
the character they are about.
-/

namespace ArithAsm

inductive Diagnostic.Kind where
  | usage
  | lex
  | syntactic
  deriving DecidableEq

/-- A message; `offset` is the column it is about, if it is about one. -/
structure Diagnostic where
  kind : Diagnostic.Kind
  message : Text
  offset : Option Int
  deriving DecidableEq

namespace Diagnostic

def Kind.name : Kind → Text
  | .usage => "USAGE"
  | .lex => "LEX"
  | .syntactic => "SYNTAX"

def renderPlain (message : Text) : Text := message ++ "\n"

/-- A message with a place is written under the source, behind a caret that as many spaces as
the offset put under the right character. -/
def renderAt (source : Text) (offset : Int) (message : Text) : Except Defect Text :=
  if offset < 0 then .error .offsetNegative
  else .ok (source ++ "\n" ++ List.replicate offset.toNat ' ' ++ "^ " ++ message ++ "\n")

def render (diagnostic : Diagnostic) (source : Text) : Except Defect Text :=
  match diagnostic.offset with
  | none => .ok (renderPlain diagnostic.message)
  | some offset => renderAt source offset diagnostic.message

end Diagnostic

end ArithAsm
