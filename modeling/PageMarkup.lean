import PageMarkup.Text.Blank
import PageMarkup.Text.Capital
import PageMarkup.Text.Digit
import PageMarkup.Text.Encoding
import PageMarkup.Text.Letter
import PageMarkup.Text.LetterCase
import PageMarkup.Text.LetterClass
import PageMarkup.Text.Lines
import PageMarkup.Text.Pieces
import PageMarkup.Text.Printable
import PageMarkup.Text.Quoted
import PageMarkup.Decimal.Binary
import PageMarkup.Decimal.Hexadecimal
import PageMarkup.Decimal.Shortest
import PageMarkup.Decimal.Style
import PageMarkup.Content.Value
import PageMarkup.Content.Same
import PageMarkup.Content.Display
import PageMarkup.Content.Misuse
import PageMarkup.Content.Entries
import PageMarkup.Fault
import PageMarkup.Identifier.Script
import PageMarkup.Markup.Literal
import PageMarkup.Markup.Layout
import PageMarkup.Json.Reader
import PageMarkup.Json.Writer
import PageMarkup.Imports.Statement
import PageMarkup.Schema.HookScript
import PageMarkup.Schema.Reading
import PageMarkup.Render.Node
import PageMarkup.Page.Check
import PageMarkup.Page.Tree
import PageMarkup.Page.Module
import PageMarkup.Template.Source
import PageMarkup.Files.Workspace
import PageMarkup.Settings.File
import PageMarkup.Loading.Member
import PageMarkup.Loading.Operation
import PageMarkup.Loading.Schema
import PageMarkup.Target.Creation
import PageMarkup.Terminal.Screen
import PageMarkup.CommandLine.Options
import PageMarkup.CommandLine.Run
import PageMarkup.CommandLine.Channel
import PageMarkup.Main
import PageMarkup.Proofs.Content.TextKeys
import PageMarkup.Proofs.Imports.Requests
import PageMarkup.Proofs.Imports.Merge
import PageMarkup.Proofs.Imports.LocalNames
import PageMarkup.Proofs.Markup.Pieces
import PageMarkup.Proofs.Text.Quoted
import PageMarkup.Proofs.Markup.Reader
import PageMarkup.Proofs.Markup.RoundTrip
import PageMarkup.Proofs.Markup.Ink
import PageMarkup.Proofs.Content.PlainData
import PageMarkup.Proofs.Render.Meeting
import PageMarkup.Proofs.Render.Literals
import PageMarkup.Proofs.Render.Outline
import PageMarkup.Proofs.Render.Traversal
import PageMarkup.Proofs.Render.Components
import PageMarkup.Proofs.Render.Levels
import PageMarkup.Proofs.Render.Refinement
import PageMarkup.Proofs.Schema.Bisimulation
import PageMarkup.Proofs.Render.Parametric
import PageMarkup.Proofs.Render.Congruence
import PageMarkup.Proofs.Render.Calls
import PageMarkup.Proofs.Render.Needs
import PageMarkup.Proofs.Page.StaticPage
import PageMarkup.Proofs.Page.Success
import PageMarkup.Proofs.Page.Exactness
import PageMarkup.Proofs.Render.Editing
import PageMarkup.Proofs.Page.Counting
import PageMarkup.Proofs.Page.Capture
import PageMarkup.Proofs.Render.UnknownTypes
import PageMarkup.Proofs.Page.Reporting
import PageMarkup.Proofs.Page.Unseen
import PageMarkup.Proofs.Page.Depth
import PageMarkup.Proofs.Page.DeclaredNames
import PageMarkup.Proofs.Imports.Kept
import PageMarkup.Proofs.Imports.Histories
import PageMarkup.Proofs.Imports.Conflicts
import PageMarkup.Proofs.Imports.ReadBack
import PageMarkup.Proofs.Target.Registration
import PageMarkup.Proofs.Page.TagBinding
import PageMarkup.Proofs.Render.Reordering
import PageMarkup.Proofs.Page.Reordering
import PageMarkup.Proofs.Markup.NeatLines
import PageMarkup.Proofs.Render.WellNamed
import PageMarkup.Proofs.Identifier.Words
import PageMarkup.Proofs.Identifier.Casing
import PageMarkup.Proofs.Identifier.BareNames
import PageMarkup.Proofs.Identifier.ComponentName
import PageMarkup.Proofs.Imports.StatementLines
import PageMarkup.Proofs.Page.TidyModule
import PageMarkup.Proofs.Render.PureData
import PageMarkup.Proofs.Target.KeptNames
import PageMarkup.Proofs.Content.Overlay
import PageMarkup.Proofs.Json.Objects
import PageMarkup.Proofs.Settings.Layering
import PageMarkup.Proofs.Settings.SavedSettings
import PageMarkup.Proofs.CommandLine.Output
import PageMarkup.Proofs.Schema.ComponentSettings
import PageMarkup.Proofs.Schema.HookMarkup
import PageMarkup.Proofs.Render.Assembly
import PageMarkup.Proofs.Render.EditingHooks
import PageMarkup.Proofs.Render.RenamingHooks
import PageMarkup.Proofs.Render.Leaves
import PageMarkup.Proofs.Render.Description
import PageMarkup.Proofs.Render.Shape
import PageMarkup.Proofs.Page.Shape
import PageMarkup.Proofs.Render.Rows
import PageMarkup.Proofs.Render.Keys
import PageMarkup.Proofs.Page.SiblingKeys
import PageMarkup.Proofs.Text.BlankLines
import PageMarkup.Proofs.Markup.NeatLeaves
import PageMarkup.Proofs.Markup.LineClasses
import PageMarkup.Proofs.Markup.SingleLines
import PageMarkup.Proofs.Markup.Openings
import PageMarkup.Proofs.Markup.Inside
import PageMarkup.Proofs.Markup.TextPlaces
import PageMarkup.Proofs.Render.ElementCount
import PageMarkup.Proofs.Page.NodeCount
import PageMarkup.Proofs.Markup.BlockEdges
import PageMarkup.Proofs.Identifier.WordPlaces
