import Rekindle.Body.Assembler
import Rekindle.Machine.Contention
import Rekindle.Main
import Rekindle.Proofs.Reload.Weaving
import Rekindle.Proofs.Reload.Members
import Rekindle.Proofs.Validity.Extension
import Rekindle.Proofs.Machine.Hosted
import Rekindle.Proofs.Validity.Valid
import Rekindle.Proofs.Machine.Storage
import Rekindle.Proofs.Registration.Exactness
import Rekindle.Proofs.Transparency.Transparent
import Rekindle.Proofs.Reload.Processing
import Rekindle.Proofs.Loading.Lockstep
import Rekindle.Proofs.Reload.Installing
import Rekindle.Proofs.Loading.Load
import Rekindle.Proofs.Registry.Listing
import Rekindle.Proofs.Reload.Touching
import Rekindle.Proofs.Machine.Fields
import Rekindle.Proofs.Hosting.Closed
import Rekindle.Proofs.Hosting.Discipline
import Rekindle.Proofs.Contention.Interleaving
import Rekindle.Proofs.Loading.Unload
import Rekindle.Proofs.Isolation.Isolated
import Rekindle.Proofs.Cycles.Reloading
import Rekindle.Proofs.Module.Building
import Rekindle.Proofs.Reload.Debugging
import Rekindle.Proofs.Indexing.Instrumenting
import Rekindle.Proofs.Termination.Ending
import Rekindle.Proofs.Validity.AnyOrder
import Rekindle.Proofs.Reload.Scanning
import Rekindle.Proofs.Body.Finishing
import Rekindle.Proofs.Machine.FromInside
import Rekindle.Proofs.Reload.Strictness
import Rekindle.Proofs.Reload.Repeating
import Rekindle.Proofs.Symbols.Edits
import Rekindle.Proofs.Reload.Marking
import Rekindle.Proofs.Reload.Eligibility
import Rekindle.Proofs.Statics.Members
import Rekindle.Proofs.Module.Naming
import Rekindle.Proofs.ValueType.Substitution
import Rekindle.Proofs.Command.Outputs
