import Dpll.Main
import Dpll.World
import Dpll.Proofs.Search.Answer
import Dpll.Proofs.Search.Recursion
import Dpll.Proofs.Search.Interruption
import Dpll.Proofs.Search.Lockstep
import Dpll.Proofs.Report
import Dpll.Proofs.Search.Faults
import Dpll.Proofs.Search.Stepwise
import Dpll.Proofs.Search.Account
import Dpll.Proofs.Search.Bounds
import Dpll.Proofs.Words
import Dpll.Proofs.Grammar
import Dpll.Proofs.Rendering
import Dpll.Proofs.Readback
import Dpll.Proofs.Trailer
import Dpll.Proofs.Calls
import Dpll.Proofs.Offence
import Dpll.Proofs.Refreshes
import Dpll.Proofs.Finality
import Dpll.Proofs.Forcing
import Dpll.Proofs.Tables
import Dpll.Proofs.Priority
import Dpll.Proofs.Stack
import Dpll.Proofs.Failure
import Dpll.Proofs.ClauseLine
import Dpll.Proofs.Renaming
import Dpll.Proofs.Evaluation
import Dpll.Proofs.Declarations
import Dpll.Proofs.Search.Lookup
import Dpll.Proofs.Delivery
