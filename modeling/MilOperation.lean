import MilOperation.Python
import MilOperation.Types
import MilOperation.SymbolicArray
import MilOperation.InputSpec
import MilOperation.Precondition
import MilOperation.State
import MilOperation.Inference
import MilOperation.Inputs
import MilOperation.Edges
import MilOperation.AutoVal
import MilOperation.Creation
import MilOperation.Reinference
import MilOperation.Drift
import MilOperation.Runs
import MilOperation.TypeDomains
import MilOperation.Consumers
import MilOperation.WellFormed
