import StaticSite.Binary64
import StaticSite.Bundling.Bundle
import StaticSite.Bundling.Extraction
import StaticSite.Bundling.Registry
import StaticSite.Bundling.Signature
import StaticSite.CommandLine.Listing
import StaticSite.CommandLine.Number
import StaticSite.CommandLine.Options
import StaticSite.CommandLine.Run
import StaticSite.Component
import StaticSite.ComponentTable
import StaticSite.Config
import StaticSite.Digest
import StaticSite.Expansion
import StaticSite.FileTime
import StaticSite.FileTree
import StaticSite.Layout
import StaticSite.Log
import StaticSite.Main
import StaticSite.Markup.NamedReference
import StaticSite.Markup.Node
import StaticSite.Markup.Parse
import StaticSite.Markup.Reference
import StaticSite.Markup.Script
import StaticSite.Markup.Serialize
import StaticSite.Markup.Token
import StaticSite.Numeral
import StaticSite.Path
import StaticSite.Site.Artefact
import StaticSite.Site.Build
import StaticSite.Site.Directories
import StaticSite.Site.Sources
import StaticSite.Slot
import StaticSite.Sort
import StaticSite.Text.Base64
import StaticSite.Text.Case
import StaticSite.Text.CodeRanges
import StaticSite.Text.Decode
import StaticSite.Text.Digits
import StaticSite.Text.Quote
import StaticSite.Text.Search
import StaticSite.Text.Whitespace
import StaticSite.Yaml.Calendar
import StaticSite.Yaml.Cursor
import StaticSite.Yaml.Equality
import StaticSite.Yaml.Parser
import StaticSite.Yaml.Read
import StaticSite.Yaml.Resolve
import StaticSite.Yaml.Scalar
import StaticSite.Yaml.Scanner
import StaticSite.Yaml.Value
import StaticSite.Proofs.FileTime
import StaticSite.Proofs.FirstOccurrence
import StaticSite.Proofs.Outcomes
import StaticSite.Proofs.Text.LowerCase
import StaticSite.Proofs.Text.Search
import StaticSite.Proofs.Config.Acceptance
import StaticSite.Proofs.Config.Showing
import StaticSite.Proofs.Config.Refusals
import StaticSite.Proofs.Config.Overriding
import StaticSite.Proofs.Markup.Replace
import StaticSite.Proofs.Markup.Addresses
import StaticSite.Proofs.Bundling.Forest
import StaticSite.Proofs.Bundling.Registry
import StaticSite.Proofs.Bundling.Grouping
import StaticSite.Proofs.Bundling.Usage
import StaticSite.Proofs.Bundling.Merging
import StaticSite.Proofs.Bundling.Finishing
import StaticSite.Proofs.Bundling.Linking
import StaticSite.Proofs.Bundling.Extraction
import StaticSite.Proofs.Bundling.Safety
import StaticSite.Proofs.Bundling.Naming
import StaticSite.Proofs.Bundling.Carriers
import StaticSite.Proofs.Bundling.PageSets
import StaticSite.Proofs.Bundling.Rewriting
import StaticSite.Proofs.Bundling.Loads
import StaticSite.Proofs.Expansion.References
import StaticSite.Proofs.Expansion.Walk
import StaticSite.Proofs.Expansion.Success
import StaticSite.Proofs.Expansion.Parametric
import StaticSite.Proofs.Expansion.Substitution
import StaticSite.Proofs.Expansion.Plainness
import StaticSite.Proofs.Expansion.Route
import StaticSite.Proofs.Expansion.Progress
import StaticSite.Proofs.Expansion.Stack
import StaticSite.Proofs.Expansion.Invocation
import StaticSite.Proofs.Expansion.Invocable
import StaticSite.Proofs.Bundling.Labelling
import StaticSite.Proofs.Bundling.PageCode
import StaticSite.Proofs.Bundling.Repetition
import StaticSite.Proofs.Bundling.LoadOrder
import StaticSite.Proofs.Bundling.Gathering
import StaticSite.Proofs.Bundling.Reordering
import StaticSite.Proofs.Markup.Written
import StaticSite.Proofs.Markup.TagNames
import StaticSite.Proofs.Markup.AttributeNames
import StaticSite.Proofs.Markup.RawText
import StaticSite.Proofs.Markup.ElementNames
import StaticSite.Proofs.Bundling.Identity
import StaticSite.Proofs.Expansion.Scripts
import StaticSite.Proofs.Expansion.OwnScripts
import StaticSite.Proofs.Expansion.SlotGroups
import StaticSite.Proofs.Expansion.Extension
import StaticSite.Proofs.Layout.AuthoredIndent
import StaticSite.Proofs.Layout.Relaid
import StaticSite.Proofs.Layout.Respacing
import StaticSite.Proofs.Layout.AuthoredLayout
import StaticSite.Proofs.Layout.VisibleText
import StaticSite.Proofs.Layout.Glyphs
import StaticSite.Proofs.Layout.Ties
import StaticSite.Proofs.Layout.Adjacency
import StaticSite.Proofs.Files.Places
import StaticSite.Proofs.Files.Trees
import StaticSite.Proofs.Files.Changes
import StaticSite.Proofs.Files.Names
import StaticSite.Proofs.Files.Preservation
import StaticSite.Proofs.Files.Comparison
import StaticSite.Proofs.Site.Placing
import StaticSite.Proofs.Site.Reading
import StaticSite.Proofs.Site.Copying
import StaticSite.Proofs.Site.Endings
import StaticSite.Proofs.Site.Failures
import StaticSite.Proofs.Site.PageAddresses
import StaticSite.Proofs.Site.CopiesKept
import StaticSite.Proofs.Site.Containment
import StaticSite.Proofs.Site.Phases
import StaticSite.Proofs.Site.Freshness
import StaticSite.Proofs.Site.Accounting
import StaticSite.Proofs.Site.Rebuilding
import StaticSite.Proofs.Site.Histories
import StaticSite.Proofs.Site.CurrentCopies
