import ArithAsm.Token.Scanner
import ArithAsm.Main
import ArithAsm.Proofs.Lines
import ArithAsm.Proofs.Compilation
import ArithAsm.Proofs.Lexemes
import ArithAsm.Proofs.Faults
import ArithAsm.Proofs.Automaton
import ArithAsm.Proofs.Prefixes
import ArithAsm.Proofs.CommandLine
import ArithAsm.Proofs.Sessions
import ArithAsm.Proofs.Spacing
import ArithAsm.Proofs.Nesting
import ArithAsm.Proofs.Writing
import ArithAsm.Proofs.Subexpressions
import ArithAsm.Proofs.Postorder
import ArithAsm.Proofs.Height
import ArithAsm.Proofs.Outlines
import ArithAsm.Proofs.Renderings
import ArithAsm.Proofs.PlainText
import ArithAsm.Proofs.Carets
import ArithAsm.Proofs.Concatenation
import ArithAsm.Proofs.Requests
import ArithAsm.Proofs.Messages
import ArithAsm.Proofs.Recursion
import ArithAsm.Proofs.Steps
import ArithAsm.Proofs.Separators
import ArithAsm.Proofs.Literals
import ArithAsm.Proofs.Balance
