import PathTemplates.Assignment
import PathTemplates.Command.Invocation
import PathTemplates.Command.Reach
import PathTemplates.Command.Report
import PathTemplates.Command.Run
import PathTemplates.Command.Words
import PathTemplates.Crumb.Basic
import PathTemplates.Crumb.Compilation
import PathTemplates.Crumb.Component
import PathTemplates.Crumb.Creation
import PathTemplates.Crumb.Error
import PathTemplates.Crumb.Join
import PathTemplates.Crumb.Listing
import PathTemplates.Exclusions
import PathTemplates.Expr
import PathTemplates.Failure
import PathTemplates.FileSystem.Basic
import PathTemplates.FileSystem.Create
import PathTemplates.FileSystem.Error
import PathTemplates.FileSystem.Path
import PathTemplates.FileSystem.Resolve
import PathTemplates.Glob.AsRegex
import PathTemplates.Glob.Basic
import PathTemplates.Glob.Error
import PathTemplates.Glob.Item
import PathTemplates.Glob.Reader
import PathTemplates.Glob.Shortcut
import PathTemplates.Main
import PathTemplates.NameMap
import PathTemplates.Nesting
import PathTemplates.Pattern
import PathTemplates.PatternTable
import PathTemplates.Regex.Blanks
import PathTemplates.Regex.Boundary
import PathTemplates.Regex.Bracket
import PathTemplates.Regex.Escape
import PathTemplates.Regex.Flags
import PathTemplates.Regex.Reader
import PathTemplates.Regex.SetName
import PathTemplates.SortedList
import PathTemplates.Template.Basic
import PathTemplates.Template.Error
import PathTemplates.Template.Reader
import PathTemplates.Text
import PathTemplates.Unicode.Age
import PathTemplates.Unicode.BinaryProperty
import PathTemplates.Unicode.CaseFold
import PathTemplates.Unicode.Category
import PathTemplates.Unicode.CharClass
import PathTemplates.Unicode.CharSet
import PathTemplates.Unicode.GraphemeBreak
import PathTemplates.Unicode.NamedSet
import PathTemplates.Unicode.Script
import PathTemplates.Unicode.SentenceBreak
import PathTemplates.Unicode.WordBreak
import PathTemplates.Utf8
import PathTemplates.Crumb.Walk
import PathTemplates.Proofs.Listing.Descent
import PathTemplates.Proofs.Listing.Walk
import PathTemplates.Proofs.Crumb.Compilation
import PathTemplates.Proofs.Crumb.Components
import PathTemplates.Proofs.Listing.Enumeration
import PathTemplates.Proofs.Listing.Targets
import PathTemplates.Proofs.Listing.Turns
import PathTemplates.Proofs.Nesting
import PathTemplates.Proofs.Outcome
import PathTemplates.Proofs.Template.Grammar
import PathTemplates.Proofs.Template.Malformed
import PathTemplates.Proofs.Template.Reading
import PathTemplates.Proofs.Template.RoundTrip
import PathTemplates.Proofs.Text.Pieces
import PathTemplates.Proofs.Text.Trimming
import PathTemplates.Proofs.FileSystem.Names
import PathTemplates.Proofs.FileSystem.Resolution
import PathTemplates.Proofs.FileSystem.Paths
import PathTemplates.Proofs.Crumb.Binding
import PathTemplates.Proofs.Crumb.Matching
import PathTemplates.Proofs.Crumb.Shortest
import PathTemplates.Proofs.Listing.Filling
import PathTemplates.Proofs.Listing.Soundness
import PathTemplates.Proofs.Listing.Compilation
import PathTemplates.Proofs.Listing.Completeness
import PathTemplates.Proofs.Listing.Restriction
import PathTemplates.Proofs.Listing.Spelling
import PathTemplates.Proofs.Listing.Levels
import PathTemplates.Proofs.Listing.Likeness
import PathTemplates.Proofs.Listing.Policy
import PathTemplates.Proofs.Join.Tuples
import PathTemplates.Proofs.Join.Rebuilding
import PathTemplates.Proofs.Listing.Pruning
import PathTemplates.Proofs.Template.Edits
import PathTemplates.Proofs.State.Operations
import PathTemplates.Proofs.State.Consistency
import PathTemplates.Proofs.Template.Cutting
import PathTemplates.Proofs.Template.Fronts
import PathTemplates.Proofs.Template.Rendering
import PathTemplates.Proofs.State.Rereading
import PathTemplates.Proofs.State.Equality
import PathTemplates.Proofs.Glob.Braces
import PathTemplates.Proofs.Glob.Matching
import PathTemplates.Proofs.Glob.Shortcuts
import PathTemplates.Proofs.Glob.Exclusions
import PathTemplates.Proofs.State.Reprinting
import PathTemplates.Proofs.FileSystem.Inclusion
import PathTemplates.Proofs.FileSystem.Growth
import PathTemplates.Proofs.Crumb.Creation
import PathTemplates.Proofs.FileSystem.Trees
import PathTemplates.Proofs.Listing.MadeTrees
import PathTemplates.Proofs.FileSystem.Below
import PathTemplates.Proofs.Text.Utf8
import PathTemplates.Proofs.FileSystem.Current
import PathTemplates.Proofs.Crumb.Rooting
import PathTemplates.Proofs.Listing.Beneath
import PathTemplates.Proofs.Listing.Rooting
import PathTemplates.Proofs.Listing.Refusals
import PathTemplates.Proofs.Listing.Monotone
import PathTemplates.Proofs.Command.Outcomes
import PathTemplates.Proofs.Command.RowArguments
import PathTemplates.Proofs.Regex.Elements
import PathTemplates.Proofs.Regex.Matching
import PathTemplates.Proofs.Regex.Sets
import PathTemplates.Proofs.Regex.Groups
import PathTemplates.Proofs.Regex.Anchoring
import PathTemplates.Proofs.Crumb.Rows
import PathTemplates.Proofs.State.Rewriting
import PathTemplates.Proofs.State.Histories
import PathTemplates.Proofs.Template.Places
import PathTemplates.Proofs.Template.Repatterning
import PathTemplates.Proofs.Template.Remainders
import PathTemplates.Proofs.Listing.Grouping
import PathTemplates.Proofs.State.Rerooting
import PathTemplates.Proofs.Crumb.Splitting
import PathTemplates.Proofs.State.Deriving
