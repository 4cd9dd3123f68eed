import StructuredOutput.Baml.Declarations
import StructuredOutput.Baml.Given
import StructuredOutput.Baml.Source
import StructuredOutput.Baml.Translation
import StructuredOutput.Baml.TypeText
import StructuredOutput.Chat.Completion
import StructuredOutput.Chat.Message
import StructuredOutput.Chat.Response
import StructuredOutput.Client
import StructuredOutput.CommandLine.Arguments
import StructuredOutput.CommandLine.Command
import StructuredOutput.CommandLine.Program
import StructuredOutput.Compiler
import StructuredOutput.Digest.Sha256
import StructuredOutput.Fault
import StructuredOutput.Files.Atomic
import StructuredOutput.Files.Path
import StructuredOutput.Files.Tree
import StructuredOutput.Generation
import StructuredOutput.Hint
import StructuredOutput.Host
import StructuredOutput.Journal
import StructuredOutput.Json.Basic
import StructuredOutput.Json.Call
import StructuredOutput.Json.Literal
import StructuredOutput.Json.Mapping
import StructuredOutput.Json.Parser
import StructuredOutput.Json.Printer
import StructuredOutput.Json.Quoted
import StructuredOutput.Loader
import StructuredOutput.Main
import StructuredOutput.Numeral.Binary64
import StructuredOutput.Numeral.Entry
import StructuredOutput.Numeral.Shortest
import StructuredOutput.Pattern.Basic
import StructuredOutput.Pattern.Class
import StructuredOutput.Pattern.Match
import StructuredOutput.Pattern.Parser
import StructuredOutput.Pattern.Sign
import StructuredOutput.Pipeline
import StructuredOutput.Proofs.Agreement.Fields
import StructuredOutput.Proofs.Agreement.Null
import StructuredOutput.Proofs.Agreement.NullTypes
import StructuredOutput.Proofs.Agreement.ObjectClasses
import StructuredOutput.Proofs.Agreement.ObjectsMet
import StructuredOutput.Proofs.Build.Bytecode
import StructuredOutput.Proofs.Build.CacheHits
import StructuredOutput.Proofs.Build.CacheInvariant
import StructuredOutput.Proofs.Build.CompilerSearch
import StructuredOutput.Proofs.Build.Effects
import StructuredOutput.Proofs.Build.ForwardedOutput
import StructuredOutput.Proofs.Build.LoadedOnce
import StructuredOutput.Proofs.Build.Preparing
import StructuredOutput.Proofs.Build.Steps
import StructuredOutput.Proofs.Build.Workspaces
import StructuredOutput.Proofs.Chat.Answers
import StructuredOutput.Proofs.Chat.HintedMessages
import StructuredOutput.Proofs.Files.AllOrNothing
import StructuredOutput.Proofs.Files.Directories
import StructuredOutput.Proofs.Files.Trees
import StructuredOutput.Proofs.Files.Writing
import StructuredOutput.Proofs.Generation.Retries
import StructuredOutput.Proofs.Generation.Runs
import StructuredOutput.Proofs.Hint.Alternatives
import StructuredOutput.Proofs.Hint.ArrayBinding
import StructuredOutput.Proofs.Hint.Parts
import StructuredOutput.Proofs.Hint.Shapes
import StructuredOutput.Proofs.Hint.SharedTables
import StructuredOutput.Proofs.Hint.Termination
import StructuredOutput.Proofs.Json.Literals
import StructuredOutput.Proofs.Json.Members
import StructuredOutput.Proofs.Json.OneLine
import StructuredOutput.Proofs.Json.QuotedText
import StructuredOutput.Proofs.Meaning.Faithful
import StructuredOutput.Proofs.Meaning.ImageTrees
import StructuredOutput.Proofs.Meaning.Images
import StructuredOutput.Proofs.Meaning.Nodes
import StructuredOutput.Proofs.Meaning.Rosters
import StructuredOutput.Proofs.Meaning.Types
import StructuredOutput.Proofs.Schema.Alike
import StructuredOutput.Proofs.Schema.Definitions
import StructuredOutput.Proofs.Schema.Heights
import StructuredOutput.Proofs.Schema.InStep
import StructuredOutput.Proofs.Schema.Parsed
import StructuredOutput.Proofs.Schema.ReadAlike
import StructuredOutput.Proofs.Schema.Redescriptions
import StructuredOutput.Proofs.Schema.ReferenceTexts
import StructuredOutput.Proofs.Schema.References
import StructuredOutput.Proofs.Schema.RequiredKeys
import StructuredOutput.Proofs.Schema.Rewordings
import StructuredOutput.Proofs.Schema.SharedReferences
import StructuredOutput.Proofs.Schema.SharedTables
import StructuredOutput.Proofs.Schema.Subschemas
import StructuredOutput.Proofs.Schema.UnionSpellings
import StructuredOutput.Proofs.Schema.WrapperStacks
import StructuredOutput.Proofs.Schema.Wrappers
import StructuredOutput.Proofs.SourceText.Annotations
import StructuredOutput.Proofs.SourceText.ClassBlocks
import StructuredOutput.Proofs.SourceText.EnumBlocks
import StructuredOutput.Proofs.SourceText.FieldLines
import StructuredOutput.Proofs.SourceText.Framing
import StructuredOutput.Proofs.SourceText.FunctionName
import StructuredOutput.Proofs.SourceText.LegibleOutput
import StructuredOutput.Proofs.SourceText.LegibleTypes
import StructuredOutput.Proofs.SourceText.LineTypes
import StructuredOutput.Proofs.SourceText.PropertyDescriptions
import StructuredOutput.Proofs.SourceText.RequiredFields
import StructuredOutput.Proofs.SourceText.Unambiguous
import StructuredOutput.Proofs.SourceText.UnusedDefinitions
import StructuredOutput.Proofs.Text.Lines
import StructuredOutput.Proofs.Translation.Cases
import StructuredOutput.Proofs.Translation.ClassOrder
import StructuredOutput.Proofs.Translation.ClosedOutput
import StructuredOutput.Proofs.Translation.Contributions
import StructuredOutput.Proofs.Translation.DeclaredNames
import StructuredOutput.Proofs.Translation.DeclaredOnce
import StructuredOutput.Proofs.Translation.DeeperNesting
import StructuredOutput.Proofs.Translation.DepthBudget
import StructuredOutput.Proofs.Translation.Enumerations
import StructuredOutput.Proofs.Translation.FieldNames
import StructuredOutput.Proofs.Translation.Frame
import StructuredOutput.Proofs.Translation.Growth
import StructuredOutput.Proofs.Translation.Log
import StructuredOutput.Proofs.Translation.Mentions
import StructuredOutput.Proofs.Translation.NameSearch
import StructuredOutput.Proofs.Translation.NameStems
import StructuredOutput.Proofs.Translation.NamedFields
import StructuredOutput.Proofs.Translation.OneNamespace
import StructuredOutput.Proofs.Translation.Outcome
import StructuredOutput.Proofs.Translation.RecordedReferences
import StructuredOutput.Proofs.Translation.SharedTables
import StructuredOutput.Proofs.Translation.SideBySide
import StructuredOutput.Proofs.Translation.Sites
import StructuredOutput.Proofs.Translation.StackedWrappers
import StructuredOutput.Proofs.Translation.Termination
import StructuredOutput.Proofs.TypeText.ClosedTypes
import StructuredOutput.Proofs.TypeText.Reading
import StructuredOutput.Proofs.TypeText.Tokens
import StructuredOutput.Proofs.TypeText.Trees
import StructuredOutput.Schema.Document
import StructuredOutput.Schema.Given
import StructuredOutput.Schema.Graph
import StructuredOutput.Schema.Node
import StructuredOutput.Schema.Outline
import StructuredOutput.Schema.Peel
import StructuredOutput.Session
import StructuredOutput.Settings
import StructuredOutput.Text.Blank
import StructuredOutput.Text.CharName.Alias
import StructuredOutput.Text.CharName.Basic
import StructuredOutput.Text.CharName.Lookup
import StructuredOutput.Text.CharName.Supplement
import StructuredOutput.Text.Digit
import StructuredOutput.Text.Identifier
import StructuredOutput.Text.LetterCase
import StructuredOutput.Text.Name
import StructuredOutput.Text.Printable
import StructuredOutput.Text.Ranges
import StructuredOutput.Text.WordChar
import StructuredOutput.Workspace
