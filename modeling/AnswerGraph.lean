import AnswerGraph.Answer.Basic
import AnswerGraph.Answer.Document
import AnswerGraph.Assembly
import AnswerGraph.Command.Basic
import AnswerGraph.Command.Footprint
import AnswerGraph.Command.Job
import AnswerGraph.Command.Options
import AnswerGraph.Command.Run
import AnswerGraph.Configuration.Basic
import AnswerGraph.Configuration.Check
import AnswerGraph.Configuration.Document
import AnswerGraph.Configuration.File
import AnswerGraph.Document
import AnswerGraph.Files.Change
import AnswerGraph.Files.Path
import AnswerGraph.Files.Tree
import AnswerGraph.Files.Walk
import AnswerGraph.Graph.Basic
import AnswerGraph.Graph.Drawing
import AnswerGraph.Graph.Output
import AnswerGraph.Json.Basic
import AnswerGraph.Json.Printer
import AnswerGraph.Json.Reader
import AnswerGraph.Keyed
import AnswerGraph.Matching
import AnswerGraph.Number.Binary64
import AnswerGraph.Number.Decimal
import AnswerGraph.Number.Shortest
import AnswerGraph.Pattern.Binding
import AnswerGraph.Pattern.Component
import AnswerGraph.Pattern.Condition
import AnswerGraph.Pattern.Declaration
import AnswerGraph.Pattern.Error
import AnswerGraph.Pattern.Line
import AnswerGraph.Pattern.Namespaces
import AnswerGraph.Pattern.Outline
import AnswerGraph.Pattern.PatternSet
import AnswerGraph.Pattern.Variables
import AnswerGraph.Proofs.AssemblyReference
import AnswerGraph.Proofs.FileTree
import AnswerGraph.Proofs.Outline
import AnswerGraph.Proofs.Paragraph
import AnswerGraph.Proofs.PatternGrammar
import AnswerGraph.Rdf.Check
import AnswerGraph.Rdf.JsonLd
import AnswerGraph.Rdf.NTriples
import AnswerGraph.Rdf.Turtle
import AnswerGraph.Rdf.Xml
import AnswerGraph.Report.Basic
import AnswerGraph.Report.Document
import AnswerGraph.Source
import AnswerGraph.Store.Basic
import AnswerGraph.Store.Cache
import AnswerGraph.Store.Update
import AnswerGraph.Template.Basic
import AnswerGraph.Template.Document
import AnswerGraph.Term
import AnswerGraph.Text.Alphabet
import AnswerGraph.Text.Blank
import AnswerGraph.Text.Hex
import AnswerGraph.Text.Lowercase
import AnswerGraph.Text.Ranges
import AnswerGraph.Text.Search
import AnswerGraph.Time.Moment
import AnswerGraph.Time.Reader
import AnswerGraph.Url.Address
import AnswerGraph.Url.Basic
import AnswerGraph.Url.Domain
import AnswerGraph.Url.DomainClasses
import AnswerGraph.Url.DomainMapping
import AnswerGraph.Url.Punycode
import AnswerGraph.Yaml.Ambiguous
import AnswerGraph.Yaml.Cursor
import AnswerGraph.Yaml.Node
import AnswerGraph.Yaml.Printer
import AnswerGraph.Yaml.Property
import AnswerGraph.Yaml.Reader
import AnswerGraph.Yaml.Scalar
import AnswerGraph.Yaml.Token
import AnswerGraph.Main
import AnswerGraph.Proofs.StoreSteps
import AnswerGraph.Proofs.StoreFrame
import AnswerGraph.Proofs.FolderLayout
import AnswerGraph.Proofs.JsonText
import AnswerGraph.Proofs.StoreLayout
import AnswerGraph.Proofs.StoreMap
import AnswerGraph.Proofs.RdfCheck
import AnswerGraph.Proofs.TripleReader
import AnswerGraph.Proofs.TripleText
import AnswerGraph.Proofs.StoreFailure
import AnswerGraph.Proofs.UrlAppend
import AnswerGraph.Proofs.IdentifierBase
import AnswerGraph.Proofs.JsonLdReader
import AnswerGraph.Proofs.JsonLdNode
import AnswerGraph.Proofs.JsonLdExpansion
import AnswerGraph.Proofs.JsonLdMeaning
import AnswerGraph.Proofs.PatternTerms
import AnswerGraph.Proofs.IdentifierCollision
import AnswerGraph.Proofs.LinkedFormats
import AnswerGraph.Proofs.Words
import AnswerGraph.Proofs.PatternSheet
import AnswerGraph.Proofs.PatternSheetLines
import AnswerGraph.Proofs.PatternSheetReading
import AnswerGraph.Proofs.Rendering
import AnswerGraph.Proofs.CacheCoherence
import AnswerGraph.Proofs.IrrelevantInput
import AnswerGraph.Proofs.FolderSearch
import AnswerGraph.Proofs.StoreRecovery
import AnswerGraph.Proofs.IndexFolder
import AnswerGraph.Proofs.StoreUpkeep
import AnswerGraph.Proofs.IndexIsolation
import AnswerGraph.Proofs.DocumentRemoval
import AnswerGraph.Proofs.DocumentForm
import AnswerGraph.Proofs.BuildCommand
import AnswerGraph.Proofs.SourceForm
import AnswerGraph.Proofs.XmlReader
import AnswerGraph.Proofs.XmlText
import AnswerGraph.Proofs.XmlTree
import AnswerGraph.Proofs.RdfXmlReader
import AnswerGraph.Proofs.RdfXmlText
import AnswerGraph.Proofs.RdfXmlTree
import AnswerGraph.Proofs.RdfXmlMeaning
import AnswerGraph.Proofs.StatementOrigin
import AnswerGraph.Proofs.SubjectFreshness
import AnswerGraph.Proofs.VariableTokens
import AnswerGraph.Proofs.KeyIndex
import AnswerGraph.Proofs.BuildEffects
import AnswerGraph.Proofs.VariableAgreement
import AnswerGraph.Proofs.TextExtension
import AnswerGraph.Proofs.BindingRun
import AnswerGraph.Proofs.MatchingLinks
import AnswerGraph.Proofs.PatternAttachment
import AnswerGraph.Proofs.BuildCounts
import AnswerGraph.Proofs.JsonLdGrouping
import AnswerGraph.Proofs.RdfXmlTags
import AnswerGraph.Proofs.GraphStatistics
import AnswerGraph.Proofs.StatementLine
import AnswerGraph.Proofs.DrawingLabels
import AnswerGraph.Proofs.DrawingLooks
import AnswerGraph.Proofs.IndexContents
import AnswerGraph.Proofs.WritableIds
import AnswerGraph.Proofs.AnswerReferences
import AnswerGraph.Proofs.Deduplication
import AnswerGraph.Proofs.ConditionKeys
import AnswerGraph.Proofs.ConfigurationFile
