import TaggedMarkup.Main
import TaggedMarkup.Proofs.Element.Compiled
import TaggedMarkup.Proofs.Template.Quasis
import TaggedMarkup.Proofs.Template.Escaping
import TaggedMarkup.Proofs.Template.Scannable
import TaggedMarkup.Proofs.Markup.NormalForm
import TaggedMarkup.Proofs.Markup.ReadBack
import TaggedMarkup.Proofs.Source.Outermost
import TaggedMarkup.Proofs.Text.Utf8
import TaggedMarkup.Proofs.Document.Splice
import TaggedMarkup.Proofs.Template.Cooked
import TaggedMarkup.Proofs.Source.Expression
import TaggedMarkup.Proofs.Source.LineBreaks
import TaggedMarkup.Proofs.Document.Layout
import TaggedMarkup.Proofs.Document.Heads
import TaggedMarkup.Proofs.Source.Embedded
import TaggedMarkup.Proofs.Document.Fusion
import TaggedMarkup.Proofs.Element.Essential
import TaggedMarkup.Proofs.Source.Shift
import TaggedMarkup.Proofs.Document.Independence
import TaggedMarkup.Proofs.Document.Diagnostics
import TaggedMarkup.Proofs.Build.Sources
import TaggedMarkup.Proofs.Build.Run
import TaggedMarkup.Proofs.Build.Inputs
import TaggedMarkup.Proofs.Build.Targets
import TaggedMarkup.Proofs.CommandLine.Agreement
import TaggedMarkup.Proofs.Document.Session
import TaggedMarkup.Proofs.Text.References
import TaggedMarkup.Proofs.Element.Faults
import TaggedMarkup.Proofs.Template.Shape
import TaggedMarkup.Proofs.Source.Gaps
import TaggedMarkup.Proofs.Element.Seams
import TaggedMarkup.Proofs.Template.Buffering
import TaggedMarkup.Proofs.Source.Partition
import TaggedMarkup.Proofs.Reference.Numerals
import TaggedMarkup.Proofs.Reference.Reading
import TaggedMarkup.Proofs.Reference.Decoding
import TaggedMarkup.Proofs.Reference.Limit
import TaggedMarkup.Proofs.Element.Trimming
import TaggedMarkup.Proofs.Element.TwoPass
import TaggedMarkup.Proofs.Element.Wrapping
import TaggedMarkup.Proofs.Reference.Pieces
import TaggedMarkup.Proofs.Template.Literal
import TaggedMarkup.Proofs.Document.Imports
import TaggedMarkup.Proofs.Source.Stopping
import TaggedMarkup.Proofs.Document.Totality
import TaggedMarkup.Proofs.Document.Opening
import TaggedMarkup.Proofs.Build.SourceBytes
import TaggedMarkup.Proofs.CommandLine.Compiling
import TaggedMarkup.Proofs.Element.Attributes
