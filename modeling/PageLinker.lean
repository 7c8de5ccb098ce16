import PageLinker.Binary64.Shortest
import PageLinker.Catalog.Lookup
import PageLinker.Command.Session
import PageLinker.Disk.Preparation
import PageLinker.Main
import PageLinker.Memory
import PageLinker.Path.Joining
import PageLinker.Snapshot
import PageLinker.Proofs.Program.Interruption
import PageLinker.Proofs.Program.Resumption
import PageLinker.Proofs.Memory.Shape
import PageLinker.Proofs.Memory.Effects
import PageLinker.Proofs.Tree.Survey
import PageLinker.Proofs.Tree.Members
import PageLinker.Proofs.Tree.Places
import PageLinker.Proofs.Tree.Stability
import PageLinker.Proofs.Page.Completing
import PageLinker.Proofs.Page.Resuming
import PageLinker.Proofs.Index.Sequence
import PageLinker.Proofs.Index.Effects
import PageLinker.Proofs.Build.Effects
import PageLinker.Proofs.Index.Resuming
import PageLinker.Proofs.Build.Recovery
import PageLinker.Proofs.Index.Placing
import PageLinker.Proofs.Tree.Collecting
import PageLinker.Proofs.Index.Independence
import PageLinker.Proofs.Memory.Reordering
import PageLinker.Proofs.Tree.Reordering
import PageLinker.Proofs.Build.Success
import PageLinker.Proofs.Build.Reordering
import PageLinker.Proofs.Build.Keys
import PageLinker.Proofs.Disk.Places
import PageLinker.Proofs.Program.Yielding
import PageLinker.Proofs.Disk.Storing
import PageLinker.Proofs.Disk.Requests
import PageLinker.Proofs.Disk.Trees
import PageLinker.Proofs.Build.Steps
import PageLinker.Proofs.Build.Repetition
import PageLinker.Proofs.Page.References
import PageLinker.Proofs.Page.Bindings
import PageLinker.Proofs.Page.Scanning
import PageLinker.Proofs.Build.Imports
import PageLinker.Proofs.Build.Separation
import PageLinker.Proofs.Tree.Violations
import PageLinker.Proofs.Build.Faults
import PageLinker.Proofs.Tree.Extensions
import PageLinker.Proofs.Index.Decoding
import PageLinker.Proofs.Text.LetterCase
import PageLinker.Proofs.Build.Beforehand
import PageLinker.Proofs.Build.Directories
import PageLinker.Proofs.Disk.Completing
import PageLinker.Proofs.Text.LetterClasses
import PageLinker.Proofs.Text.Endings
import PageLinker.Proofs.Tree.Stripping
import PageLinker.Proofs.Index.Identifiers
import PageLinker.Proofs.Command.Printing
import PageLinker.Proofs.Command.Preview
import PageLinker.Proofs.Command.RootOption
import PageLinker.Proofs.Page.FirstPlaces
import PageLinker.Proofs.Page.Borders
import PageLinker.Proofs.Build.Mistyped
import PageLinker.Proofs.Program.Comparing
import PageLinker.Proofs.Disk.Bystanders
import PageLinker.Proofs.Build.Bystanders
import PageLinker.Proofs.Command.Initialising
