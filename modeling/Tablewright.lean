import Tablewright.Main
import Tablewright.Column.Stored
import Tablewright.Naming.Plural
import Tablewright.Json.Ascii
import Tablewright.Rule.Described
import Tablewright.Schema.Findings
import Tablewright.Proofs.Migration.Release
import Tablewright.Proofs.Migration.Queue
import Tablewright.Proofs.Text.Order
import Tablewright.Proofs.Column.Table
import Tablewright.Proofs.Migration.Order
import Tablewright.Proofs.Rule.Shorthand
import Tablewright.Proofs.Rule.Pass
import Tablewright.Proofs.Rule.Meaning
import Tablewright.Proofs.Rule.Pairs
import Tablewright.Proofs.Rule.Creation
import Tablewright.Proofs.Failure
import Tablewright.Proofs.Rule.Dependencies
import Tablewright.Proofs.Column.Builder
import Tablewright.Proofs.Generator
import Tablewright.Proofs.Rule.Constraint
import Tablewright.Proofs.Rule.Share
import Tablewright.Proofs.Rule.Lines
import Tablewright.Proofs.Rule.Arrangement
import Tablewright.Proofs.Rule.Carriers
import Tablewright.Proofs.Rule.Enforcement
import Tablewright.Proofs.Context
import Tablewright.Proofs.Schema.Validation
import Tablewright.Proofs.Relation.Inference
import Tablewright.Proofs.Migration.Pivot
import Tablewright.Proofs.Generator.Tables
import Tablewright.Proofs.Migration.Junction
import Tablewright.Proofs.Generator.Junctions
import Tablewright.Proofs.Schema.Closed
import Tablewright.Proofs.Schema.Reordering
import Tablewright.Proofs.Relation.Symmetry
import Tablewright.Proofs.Relation.Failure
import Tablewright.Proofs.Migration.Closed
import Tablewright.Proofs.Migration.Silence
import Tablewright.Proofs.Migration.Unique
import Tablewright.Proofs.Generator.Failure
import Tablewright.Proofs.Generator.Reordering
import Tablewright.Proofs.Rule.Named
import Tablewright.Proofs.Rule.Unique
import Tablewright.Proofs.Rule.Silence
import Tablewright.Proofs.Rule.Extension
import Tablewright.Proofs.Rule.Frame
import Tablewright.Proofs.Reference
import Tablewright.Proofs.Relation.Reference
import Tablewright.Proofs.Column.Reference
import Tablewright.Proofs.Generator.Reference
import Tablewright.Proofs.Migration.Key
import Tablewright.Proofs.Rule.Collapse
import Tablewright.Proofs.Migration.Polymorphic
import Tablewright.Proofs.Text.Lines
import Tablewright.Proofs.Directive.Line
import Tablewright.Proofs.Directive.Merge
import Tablewright.Proofs.Directive.Composition
import Tablewright.Proofs.Json.Canonical
import Tablewright.Proofs.Json.Extent
import Tablewright.Proofs.Json.Delivery
import Tablewright.Proofs.Json.Strings
import Tablewright.Proofs.Json.Numbers
import Tablewright.Proofs.Json.ReadBack
import Tablewright.Proofs.Json.Shape
import Tablewright.Proofs.Schema.RoundTrip
import Tablewright.Proofs.Code.Numeral
import Tablewright.Proofs.Decimal.Shortest
import Tablewright.Proofs.Json.Numeral
import Tablewright.Proofs.Relation.Precedence
import Tablewright.Proofs.Relation.Scope
import Tablewright.Proofs.Rule.Registration
import Tablewright.Proofs.Code.Token
import Tablewright.Proofs.Code.Quote
import Tablewright.Proofs.Rule.Placed
import Tablewright.Proofs.Rule.Lexical
import Tablewright.Proofs.Migration.Turn
import Tablewright.Proofs.Rule.Priority
import Tablewright.Proofs.Rule.Primary
import Tablewright.Proofs.Migration.Primary
import Tablewright.Proofs.Relation.Registry
import Tablewright.Proofs.Text.Slice
import Tablewright.Proofs.Text.Trim
import Tablewright.Proofs.Directive.Quoted
import Tablewright.Proofs.Directive.Slices
import Tablewright.Proofs.Directive.Written
import Tablewright.Proofs.Directive.Division
import Tablewright.Proofs.Directive.Partition
import Tablewright.Proofs.Directive.Cursor
import Tablewright.Proofs.Directive.Remainder
import Tablewright.Proofs.Directive.Listing
import Tablewright.Proofs.Directive.Plain
import Tablewright.Proofs.Directive.Entries
import Tablewright.Proofs.Directive.Alias
import Tablewright.Proofs.Directive.Draft
import Tablewright.Proofs.Directive.Morph
import Tablewright.Proofs.Directive.Chunk
import Tablewright.Proofs.Directive.Group
import Tablewright.Proofs.Directive.Part
import Tablewright.Proofs.Column.Storage
import Tablewright.Proofs.Migration.KeyType
import Tablewright.Proofs.Generator.Namesake
import Tablewright.Proofs.Relation.Discriminator
import Tablewright.Proofs.Schema.Documentation
import Tablewright.Proofs.Relation.Documentation
import Tablewright.Proofs.Column.Comment
import Tablewright.Proofs.Rule.Comment
import Tablewright.Proofs.Migration.Comment
import Tablewright.Proofs.ModelClass.Comment
import Tablewright.Proofs.Generator.Comment
import Tablewright.Proofs.Migration.Synthesis
