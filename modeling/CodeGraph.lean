import CodeGraph.Main
import CodeGraph.Session.Shared
import CodeGraph.Session.Faults
import CodeGraph.Proofs.Arena
import CodeGraph.Proofs.OrderedMap
import CodeGraph.Proofs.Store.Sound
import CodeGraph.Proofs.Store.Reachable
import CodeGraph.Proofs.Statement.Checked
import CodeGraph.Proofs.Session.Atomicity
import CodeGraph.Proofs.Loader.Acceptance
import CodeGraph.Proofs.Statement.OfFact
import CodeGraph.Proofs.Loader.Embedded
import CodeGraph.Proofs.Store.Settled
import CodeGraph.Proofs.Loader.Rerun
import CodeGraph.Proofs.Store.Picture
import CodeGraph.Proofs.Loader.Graph
import CodeGraph.Proofs.Loader.Calls
import CodeGraph.Proofs.Loader.Counts
import CodeGraph.Proofs.Writer.Conservation
import CodeGraph.Proofs.Generator.Stopping
import CodeGraph.Proofs.Store.Merging
import CodeGraph.Proofs.Store.Entities
import CodeGraph.Proofs.Store.Deletion
import CodeGraph.Proofs.Statement.Effects
import CodeGraph.Proofs.Statement.Lifetime
import CodeGraph.Proofs.Statement.Frame
import CodeGraph.Proofs.Statement.Failing
import CodeGraph.Proofs.Statement.Rebinding
import CodeGraph.Proofs.Node.Walk
import CodeGraph.Proofs.Visitor.Extraction
import CodeGraph.Proofs.Disk
import CodeGraph.Proofs.Store.Snapshot
import CodeGraph.Proofs.Store.Restored
import CodeGraph.Proofs.Store.Restart
import CodeGraph.Proofs.Session.Directory
import CodeGraph.Proofs.Session.Failing
import CodeGraph.Proofs.Session.Serial
import CodeGraph.Proofs.Statement.Parsing
import CodeGraph.Proofs.Statement.Derivation
import CodeGraph.Proofs.Statement.Grammar
import CodeGraph.Proofs.Store.Layout
import CodeGraph.Proofs.Store.Development
import CodeGraph.Proofs.Store.Isomorphism
import CodeGraph.Proofs.Loader.Commutation
import CodeGraph.Proofs.Loader.Clearing
import CodeGraph.Proofs.Loader.Faults
import CodeGraph.Proofs.Node.Scope
import CodeGraph.Proofs.Visitor.Sourced
import CodeGraph.Proofs.Java.Tree
import CodeGraph.Proofs.Java.Scoping
import CodeGraph.Proofs.Java.Naming
import CodeGraph.Proofs.Java.Sourced
import CodeGraph.Proofs.Store.Decoding
import CodeGraph.Proofs.Statement.Deleting
import CodeGraph.Proofs.Java.Opening
import CodeGraph.Proofs.Java.Places
import CodeGraph.Proofs.Java.Ways
import CodeGraph.Proofs.Java.Declaring
import CodeGraph.Proofs.Java.Unqualified
import CodeGraph.Proofs.Java.Receivers
import CodeGraph.Proofs.Node.Events
import CodeGraph.Proofs.Statement.Lexing
import CodeGraph.Proofs.Statement.Composition
import CodeGraph.Proofs.Statement.Literals
import CodeGraph.Proofs.Java.Numbering
import CodeGraph.Proofs.Java.Words
import CodeGraph.Proofs.Node.Types
import CodeGraph.Proofs.Java.Uniqueness
import CodeGraph.Proofs.Pattern.Matching
import CodeGraph.Proofs.Pattern.Closing
import CodeGraph.Proofs.Pattern.Brackets
import CodeGraph.Proofs.Filter.Policy
import CodeGraph.Proofs.Filter.Whole
import CodeGraph.Proofs.Settings.Items
import CodeGraph.Proofs.Java.Reading
import CodeGraph.Proofs.Java.Bodies
import CodeGraph.Proofs.Java.Reaching
import CodeGraph.Proofs.Java.Collecting
