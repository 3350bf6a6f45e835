import Calculator.Text.CodeRange
import Calculator.Text.Blank
import Calculator.Text.WordChar
import Calculator.Text.Printable
import Calculator.Text.DecimalDigit
import Calculator.Text.Quoted
import Calculator.Text.Capital
import Calculator.Text.Json
import Calculator.Decimal.Binary
import Calculator.Decimal.Shortest
import Calculator.Decimal.Layout
import Calculator.Decimal.Read
import Calculator.Location
import Calculator.Token
import Calculator.Token.Scan
import Calculator.Total
import Calculator.Expr
import Calculator.Arithmetic
import Calculator.Expr.Eval
import Calculator.Expr.Machine
import Calculator.Expr.Parse
import Calculator.Display
import Calculator.Settings
import Calculator.Calculation
import Calculator.Graph
import Calculator.Toml.Value
import Calculator.Toml.Marks
import Calculator.Toml.Lexeme
import Calculator.Toml.Inline
import Calculator.Toml.Document
import Calculator.Settings.Lenient
import Calculator.Settings.Load
import Calculator.Console.Wrap
import Calculator.Console.Table
import Calculator.Console.Tree
import Calculator.Command
import Calculator.Main
import Calculator.Proofs.Machine
import Calculator.Proofs.Grammar
import Calculator.Proofs.Descent
import Calculator.Proofs.Recognition
import Calculator.Proofs.Lexical
import Calculator.Proofs.Canonical
import Calculator.Proofs.Literal
import Calculator.Proofs.Pipeline
import Calculator.Proofs.Splitting
import Calculator.Proofs.Joining
import Calculator.Proofs.Nesting
import Calculator.Proofs.Signs
import Calculator.Proofs.Viability
import Calculator.Proofs.Export
import Calculator.Proofs.Inorder
import Calculator.Proofs.Depth
import Calculator.Proofs.Loading
import Calculator.Proofs.Termination
