import SqlTrees.Format.Read
import SqlTrees.Format.Write
import SqlTrees.Name.LetterCase
import SqlTrees.Passes.Recording
import SqlTrees.Passes.Restructure
import SqlTrees.Passes.Scoped
import SqlTrees.Passes.Spatial
import SqlTrees.Passes.Substitute
import SqlTrees.Passes.Tally
import SqlTrees.Pipeline
import SqlTrees.Rebuild.Sequence
import SqlTrees.Sample.Drawn
import SqlTrees.Sample.Queries
import SqlTrees.Tree.Alike
import SqlTrees.Proofs.Grammar.Treatment
import SqlTrees.Proofs.Tree.Cleared
import SqlTrees.Proofs.Rebuild.Tour
import SqlTrees.Proofs.Pipeline.Arrival
import SqlTrees.Proofs.Pipeline.Order
import SqlTrees.Proofs.Rebuild.Identity
import SqlTrees.Proofs.Pipeline.History
import SqlTrees.Proofs.Pipeline.Dependencies
import SqlTrees.Proofs.Tree.Nodes
import SqlTrees.Proofs.Tree.Substituted
import SqlTrees.Proofs.Rebuild.Routing
import SqlTrees.Proofs.Rebuild.Override
import SqlTrees.Proofs.Rebuild.Nodewise
import SqlTrees.Proofs.Rebuild.FirstFailure
import SqlTrees.Proofs.Tree.Extent
import SqlTrees.Proofs.Rebuild.Accounting
import SqlTrees.Proofs.Grammar.Legible
import SqlTrees.Proofs.Format.RoundTrip
import SqlTrees.Proofs.Format.Faithful
import SqlTrees.Proofs.Format.Census
import SqlTrees.Proofs.Format.Spellings
import SqlTrees.Proofs.Rebuild.Scope
import SqlTrees.Proofs.Rebuild.Substitution
import SqlTrees.Proofs.Tree.Relabelled
import SqlTrees.Proofs.Rebuild.Fusion
import SqlTrees.Proofs.Pipeline.Commuting
import SqlTrees.Proofs.Pipeline.Spare
import SqlTrees.Proofs.Tree.Normal
import SqlTrees.Proofs.Rebuild.Congruence
import SqlTrees.Proofs.Tree.Situated
import SqlTrees.Proofs.Rebuild.Log
import SqlTrees.Proofs.Rebuild.Spatial
import SqlTrees.Proofs.Sample.Always
import SqlTrees.Proofs.Sample.Fits
import SqlTrees.Proofs.Sample.Drawn
import SqlTrees.Proofs.Sample.Supported
import SqlTrees.Proofs.Format.Corrupted
import SqlTrees.Proofs.Format.Strict
import SqlTrees.Proofs.Tree.Reshaped
import SqlTrees.Proofs.Rebuild.Reshaping
import SqlTrees.Proofs.Rebuild.Qualifiers
import SqlTrees.Proofs.Rebuild.Negations
import SqlTrees.Proofs.Rebuild.Catalogs
import SqlTrees.Proofs.Tree.Replaced
import SqlTrees.Proofs.Name.Dotted
import SqlTrees.Proofs.Name.Lowercase
import SqlTrees.Proofs.Rebuild.Parameters
import SqlTrees.Proofs.Rebuild.Versioned
import SqlTrees.Proofs.Sample.WellFormed
import SqlTrees.Pipeline.Registry
import SqlTrees.Proofs.Pipeline.Registry
import SqlTrees.Proofs.Name.Quoted
import SqlTrees.Proofs.Rebuild.Sequence
import SqlTrees.Proofs.Pipeline.Representation
