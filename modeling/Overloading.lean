import Overloading.Types
import Overloading.Diagnostic
import Overloading.Diagnostic.Interchange
import Overloading.Registry
import Overloading.Tree
import Overloading.Tree.Rewrite
import Overloading.Program
import Overloading.Fold
import Overloading.Fold.ParamTypes
import Overloading.Fold.Events
import Overloading.Call.Candidate
import Overloading.Call.Resolve
import Overloading.Override
import Overloading.Specialize.Group
import Overloading.Specialize.Module
import Overloading.Toml.Text
import Overloading.Toml.Number
import Overloading.Toml.Table
import Overloading.Options.File
import Overloading.Proofs.Meaning
import Overloading.Proofs.Meaning.Exit
import Overloading.Proofs.Tree
import Overloading.Proofs.Meaning.Fold
import Overloading.Proofs.Except
import Overloading.Proofs.Specialize
import Overloading.Proofs.Specialize.Complete
import Overloading.Proofs.Fold
import Overloading.Proofs.Specialize.Escape
import Overloading.Proofs.Specialize.Group
import Overloading.Proofs.Specialize.Module
import Overloading.Proofs.Specialize.Failure
import Overloading.Proofs.Specialize.Accepted
import Overloading.Proofs.Tree.Label
import Overloading.Proofs.Tree.Scope
import Overloading.Proofs.Tree.Rewrite
import Overloading.Proofs.Call.Pick
import Overloading.Proofs.Call.Resolve
import Overloading.Proofs.Call.Score
import Overloading.Proofs.Call.Settle
import Overloading.Proofs.Fold.Erase
import Overloading.Proofs.Fold.Normal
import Overloading.Proofs.Fold.Stable
import Overloading.Proofs.Specialize.Erase
import Overloading.Proofs.Registry.Run
import Overloading.Proofs.Specialize.Visibility
import Overloading.Proofs.Fold.Exit
import Overloading.Proofs.Fold.Deletion
import Overloading.Proofs.Fold.Answers
import Overloading.Proofs.Fold.Scope
import Overloading.Proofs.Types
import Overloading.Proofs.Types.Equality
import Overloading.Proofs.Types.Transitive
import Overloading.Proofs.Specialize.Binding
import Overloading.Proofs.Specialize.Partition
import Overloading.Proofs.Types.Union
import Overloading.Proofs.Call.Tally
import Overloading.Proofs.Call.TypeClass
import Overloading.Proofs.Tree.Position
import Overloading.Proofs.Specialize.Reporting
