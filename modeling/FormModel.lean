import FormModel.Main
import FormModel.Merge
import FormModel.Proofs.FormData.Leaves
import FormModel.Proofs.Draft.Idempotent
import FormModel.Proofs.Build.Termination
import FormModel.Proofs.Build.Group
import FormModel.Proofs.Rule.Meaning
import FormModel.Proofs.Draft.Limits
import FormModel.Proofs.Draft.Everywhere
import FormModel.Proofs.Rule.Agree
import FormModel.Proofs.Rule.Keyed
import FormModel.Proofs.Rule.Limits
import FormModel.Proofs.Reference.Visits
import FormModel.Proofs.Pointer.Fragment
import FormModel.Proofs.Reference.Repetitions
import FormModel.Proofs.Reference.Left
import FormModel.Proofs.Build.Recursion
import FormModel.Proofs.Pointer.Fold
import FormModel.Proofs.Build.LifeCycle
import FormModel.Proofs.Build.FirstWriter
import FormModel.Proofs.Build.Keys
import FormModel.Proofs.Pointer.Governing
import FormModel.Proofs.Draft.Report
import FormModel.Proofs.FormData.Kinds
import FormModel.Proofs.Draft.Unchanged
import FormModel.Proofs.Template.Written
import FormModel.Proofs.Pointer.Flatten
import FormModel.Proofs.Pointer.Removal
import FormModel.Proofs.Pointer.Frame
import FormModel.Proofs.Pointer.Insertion
import FormModel.Proofs.Build.Bounds
import FormModel.Proofs.Rule.Unique
import FormModel.Proofs.Rule.Modes
import FormModel.Proofs.Rule.Empty
import FormModel.Proofs.Rule.Control
import FormModel.Proofs.Coercion.Idempotent
import FormModel.Proofs.Merge
import FormModel.Proofs.Build.Required
import FormModel.Proofs.Build.Order
import FormModel.Proofs.Reference.Calls
import FormModel.Proofs.Draft.Calls
import FormModel.Proofs.Json.Rebuild
import FormModel.Proofs.Pointer.ObjectPath
import FormModel.Proofs.Pointer.Format
import FormModel.Proofs.Pointer.Ancestor
import FormModel.Proofs.Pointer.Confluence
import FormModel.Proofs.Pointer.EncodedSlash
import FormModel.Proofs.Rule.Dependencies
