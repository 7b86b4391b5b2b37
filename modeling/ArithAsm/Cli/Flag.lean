import ArithAsm.Text.Basic

/-!
The flags of the command line: how each is spelled and what the help says about it.
-/

namespace ArithAsm

inductive Flag where
  | help
  | version
  | tokens
  | tree
  | verbose
  | traceTokens
  | rawErrors
  deriving DecidableEq

/-- The flags given, other than the one for help. -/
structure Switches where
  version : Bool := false
  tokens : Bool := false
  tree : Bool := false
  verbose : Bool := false
  traceTokens : Bool := false
  rawErrors : Bool := false
  deriving DecidableEq

namespace Flag

def all : List Flag := [.help, .version, .tokens, .tree, .verbose, .traceTokens, .rawErrors]

def spellings : Flag → List Text
  | .help => ["-h", "--help"]
  | .version => ["--version"]
  | .tokens => ["--tokens"]
  | .tree => ["--ast"]
  | .verbose => ["--verbose", "-v"]
  | .traceTokens => ["--debug-emit-lexemes"]
  | .rawErrors => ["--debug-unwrap-errors"]

def ofSpelling? (spelling : Text) : Option Flag := all.find? (·.spellings.contains spelling)

/-- What the help says about a flag; it is silent about two. -/
def summary? : Flag → Option Text
  | .help => some "show this help message and exit"
  | .version => some "Show version info"
  | .tokens =>
    some "If passed will just emit tokens of provided expression into stdout."
  | .tree =>
    some "If passed will just emit expression tree (AST) of provided expression into stdout."
  | .verbose => some "If passed will enable INFO level logs from compiler."
  | .traceTokens => none
  | .rawErrors => none

def isInspection : Flag → Bool
  | .tokens | .tree | .verbose => true
  | _ => false

end Flag

def Switches.set (switches : Switches) : Flag → Switches
  | .help => switches
  | .version => { switches with version := true }
  | .tokens => { switches with tokens := true }
  | .tree => { switches with tree := true }
  | .verbose => { switches with verbose := true }
  | .traceTokens => { switches with traceTokens := true }
  | .rawErrors => { switches with rawErrors := true }

end ArithAsm
