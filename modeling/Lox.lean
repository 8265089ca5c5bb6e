import Lox.Main
import Lox.Scope.Outline
import Lox.Proofs.Run.Recorded
import Lox.Proofs.Run.Bound
import Lox.Proofs.Run.Dispatch
import Lox.Proofs.Run.Signals
import Lox.Proofs.Source.Tiles
import Lox.Proofs.Source.Written
import Lox.Proofs.Run.Truncated
import Lox.Proofs.Run.Braces
import Lox.Proofs.Scope.Reported
import Lox.Proofs.Run.References
import Lox.Proofs.Run.Lasting
import Lox.Proofs.Run.Initializers
import Lox.Proofs.Run.Paths
import Lox.Proofs.Run.Protocol
import Lox.Proofs.Run.Properties
import Lox.Proofs.Run.Spelled
import Lox.Proofs.Slice.Damaged
import Lox.Proofs.Run.Effectless
import Lox.Proofs.Number.Listed
import Lox.Proofs.Slice.Unended
import Lox.Proofs.Grammar.Printed
import Lox.Proofs.Scope.Balanced
import Lox.Proofs.Grammar.WellFormed
import Lox.Proofs.Run.Located
