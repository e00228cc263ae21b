import MarkdownView.Compile
import MarkdownView.Compile.Session
import MarkdownView.Failure
import MarkdownView.Failure.Report
import MarkdownView.Picture
import MarkdownView.Highlight
import MarkdownView.Highlight.Lexed
import MarkdownView.Inline
import MarkdownView.Json
import MarkdownView.Json.Printer
import MarkdownView.Json.Reader
import MarkdownView.Json.Words
import MarkdownView.Node
import MarkdownView.Node.Printer
import MarkdownView.Options.Basic
import MarkdownView.Options.Reading
import MarkdownView.Options.Rendering
import MarkdownView.Path
import MarkdownView.Reading
import MarkdownView.Requirement
import MarkdownView.Similarity
import MarkdownView.Source
import MarkdownView.Text.Basic
import MarkdownView.Text.Casing
import MarkdownView.Text.Lowercase
import MarkdownView.Text.Printable
import MarkdownView.Text.Quoted
import MarkdownView.Text.Utf8
import MarkdownView.Token
import MarkdownView.Token.Document
import MarkdownView.Token.Position
import MarkdownView.Trace
import MarkdownView.Url
import MarkdownView.Url.Host
import MarkdownView.Version
import MarkdownView.Version.Specifier
import MarkdownView.Visual
import MarkdownView.Visual.Printer
import MarkdownView.Proofs.Trace
import MarkdownView.Proofs.Reports
import MarkdownView.Proofs.Census
import MarkdownView.Proofs.Compile.Content
import MarkdownView.Proofs.Compile.Derivation
import MarkdownView.Proofs.Compile.Placeholders
import MarkdownView.Proofs.Compile.VisibleText
import MarkdownView.Proofs.Inline.Atoms
import MarkdownView.Proofs.Inline.Places
import MarkdownView.Proofs.Inline.Reference
import MarkdownView.Proofs.Inline.Reuse
import MarkdownView.Proofs.Compile.Contract
import MarkdownView.Proofs.Token.Contract
import MarkdownView.Proofs.Alike
import MarkdownView.Proofs.Inline.Alike
import MarkdownView.Proofs.Compile.Alike
import MarkdownView.Proofs.Compile.Siblings
import MarkdownView.Proofs.Compile.Acceptance
import MarkdownView.Proofs.Compile.Guards
import MarkdownView.Proofs.Compile.Strictness
import MarkdownView.Proofs.Compile.Caps
import MarkdownView.Proofs.Compile.Depths
import MarkdownView.Proofs.Token.Unmodelled
import MarkdownView.Proofs.Compile.Imageless
import MarkdownView.Proofs.Compile.Reuse
import MarkdownView.Proofs.Json.Grammar
import MarkdownView.Proofs.Json.Reader
import MarkdownView.Proofs.Json.Printer
import MarkdownView.Proofs.Visual.Printer
import MarkdownView.Proofs.Json.Same
import MarkdownView.Proofs.Visual.Same
import MarkdownView.Proofs.Compile.Findings
import MarkdownView.Proofs.Compile.Calls
import MarkdownView.Proofs.Compile.Opaque
import MarkdownView.Proofs.Visual.Contents
import MarkdownView.Proofs.Compile.Promotion
import MarkdownView.Proofs.Compile.Pictures
import MarkdownView.Proofs.Highlight.Answers
import MarkdownView.Proofs.Compile.Grid
import MarkdownView.Proofs.Compile.Reentry
import MarkdownView.Proofs.Inline.Occurrences
import MarkdownView.Proofs.Picture.Resolution
import MarkdownView.Proofs.Picture.Failures
import MarkdownView.Proofs.Picture.Location
import MarkdownView.Proofs.Token.Alternative
import MarkdownView.Proofs.Reading
import MarkdownView.Proofs.Token.Filler
