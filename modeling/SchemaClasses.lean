import SchemaClasses.Files.FileTree
import SchemaClasses.Main
import SchemaClasses.Proofs.Member.MappedTypes
import SchemaClasses.Proofs.Classes.MemberNames
import SchemaClasses.Proofs.Naming.AsciiKeys
import SchemaClasses.Proofs.Naming.KeySpellings
import SchemaClasses.Proofs.Classes.MemberParts
import SchemaClasses.Proofs.PointerText
import SchemaClasses.Proofs.Schema.Places
import SchemaClasses.Proofs.Member.Blame
import SchemaClasses.Proofs.Files.Opening
import SchemaClasses.Proofs.Files.Writing
import SchemaClasses.Proofs.Files.Locations
import SchemaClasses.Proofs.Run.Loading
import SchemaClasses.Proofs.Classes.Repository
import SchemaClasses.Proofs.Text.Bytes
import SchemaClasses.Proofs.Classes.Batch
import SchemaClasses.Proofs.Run.Emission
import SchemaClasses.Proofs.Run.Agreement
import SchemaClasses.Proofs.Binary64.Integers
import SchemaClasses.Proofs.Member.Comparison
import SchemaClasses.Proofs.Member.ArrayPredicate
import SchemaClasses.Proofs.Classes.History
import SchemaClasses.Proofs.Classes.LastDocuments
import SchemaClasses.Proofs.Run.PartialOutput
import SchemaClasses.Proofs.Run.RootChoice
import SchemaClasses.Proofs.Naming.Words
import SchemaClasses.Proofs.Naming.Marks
import SchemaClasses.Proofs.CSharp.Unbroken
import SchemaClasses.Proofs.Run.OutputPlaces
import SchemaClasses.Proofs.CSharp.Literals
import SchemaClasses.Proofs.CSharp.OneLine
import SchemaClasses.Proofs.CSharp.Terminators
import SchemaClasses.Proofs.Classes.PropertyLists
import SchemaClasses.Proofs.Member.Initialization
import SchemaClasses.Proofs.Files.Extension
import SchemaClasses.Proofs.Run.Reloading
import SchemaClasses.Proofs.Run.Regeneration
import SchemaClasses.Proofs.Json.Scanning
import SchemaClasses.Proofs.Json.Layout
import SchemaClasses.Proofs.Json.Breaks
import SchemaClasses.Proofs.Schema.WholeValues
import SchemaClasses.Proofs.Schema.DocumentText
import SchemaClasses.Proofs.Schema.Spellings
import SchemaClasses.Proofs.Classes.Spellings
import SchemaClasses.Proofs.CSharp.StringLiterals
import SchemaClasses.Proofs.CSharp.Comments
import SchemaClasses.Proofs.CSharp.ArrayLiterals
import SchemaClasses.Proofs.Run.Writers
import SchemaClasses.Proofs.Binary64.PlainCharacters
import SchemaClasses.Proofs.Binary64.ReadingBack
import SchemaClasses.Proofs.Binary64.PlainText
import SchemaClasses.Proofs.CSharp.LiteralReading
import SchemaClasses.Proofs.CSharp.LiteralTexts
import SchemaClasses.Proofs.Naming.ClassNames
import SchemaClasses.Proofs.Classes.Collisions
import SchemaClasses.Proofs.Classes.Titles
import SchemaClasses.Proofs.Naming.BackingFields
import SchemaClasses.Proofs.Classes.BackingFields
import SchemaClasses.Proofs.Classes.Attributes
import SchemaClasses.Proofs.Text.CasedLetters
import SchemaClasses.Proofs.Naming.Identifiers
import SchemaClasses.Proofs.Classes.Identifiers
import SchemaClasses.Proofs.Classes.References
import SchemaClasses.Proofs.Member.ElementTypes
import SchemaClasses.Proofs.Json.ReadsAs
import SchemaClasses.Proofs.Json.Places
import SchemaClasses.Proofs.Json.Depth
import SchemaClasses.Proofs.Schema.Related
import SchemaClasses.Proofs.Schema.ReadingPlaces
import SchemaClasses.Proofs.Schema.TypedAlike
import SchemaClasses.Proofs.Schema.Contexts
import SchemaClasses.Proofs.Classes.AlikeDocuments
import SchemaClasses.Proofs.Schema.MemberOrder
import SchemaClasses.Proofs.Classes.MemberOrder
import SchemaClasses.Proofs.Schema.ValueBranches
import SchemaClasses.Proofs.Classes.ValueBranches
import SchemaClasses.Proofs.Schema.Enumerations
import SchemaClasses.Proofs.CSharp.TypeSpellings
