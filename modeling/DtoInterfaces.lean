import DtoInterfaces.CommandLine.Project
import DtoInterfaces.FileStore.Disk
import DtoInterfaces.FileStore.Memory
import DtoInterfaces.Main
import DtoInterfaces.Registry.DtoType
import DtoInterfaces.Proofs.Inheritance
import DtoInterfaces.Proofs.FileStore.Lawful
import DtoInterfaces.Proofs.FileStore.Disk
import DtoInterfaces.Proofs.Export.Accounting
import DtoInterfaces.Proofs.Export.Spellings
import DtoInterfaces.Proofs.TypeExpr.Reader
import DtoInterfaces.Proofs.TypeExpr.ReadBack
import DtoInterfaces.Proofs.Registry.Registrations
import DtoInterfaces.Proofs.Registry.Listing
import DtoInterfaces.Proofs.FileStore.Memory
import DtoInterfaces.Proofs.Export.Effect
import DtoInterfaces.Proofs.Export.Repetition
import DtoInterfaces.Proofs.Registry.Described
import DtoInterfaces.Proofs.Export.FileReader
import DtoInterfaces.Proofs.Export.InterfaceNames
import DtoInterfaces.Proofs.Export.References
import DtoInterfaces.Proofs.Export.SupplyOrder
import DtoInterfaces.Proofs.FileStore.DotlessPaths
import DtoInterfaces.Proofs.FileStore.Walk
import DtoInterfaces.Proofs.FileStore.Scans
import DtoInterfaces.Proofs.FirstOccurrences
import DtoInterfaces.Proofs.TypeExpr.Simplify
import DtoInterfaces.Proofs.SourceScan.Pattern
import DtoInterfaces.Proofs.SourceScan.Declarations
import DtoInterfaces.Proofs.Rules
import DtoInterfaces.Proofs.TypeExpr.QuotedText
import DtoInterfaces.Proofs.Interface.Signatures
import DtoInterfaces.Proofs.Typing.Resolution
import DtoInterfaces.Proofs.Typing.NormalForms
import DtoInterfaces.Proofs.Text.Trimming
import DtoInterfaces.Proofs.Text.Endings
import DtoInterfaces.Proofs.Rules.Tokens
import DtoInterfaces.Proofs.Rules.Forms
import DtoInterfaces.Proofs.Json.WrittenText
import DtoInterfaces.Proofs.Json.WrittenValues
import DtoInterfaces.Proofs.Typing.RuleSignals
import DtoInterfaces.Proofs.Registry.Circles
import DtoInterfaces.Proofs.Config.SourcePath
import DtoInterfaces.Proofs.TypeExpr.OpenBars
import DtoInterfaces.Proofs.Typing.CastNames
import DtoInterfaces.Proofs.Registry.Growth
import DtoInterfaces.Proofs.Json.IndentedValues
import DtoInterfaces.Proofs.CommandLine.Setup
import DtoInterfaces.Proofs.FileStore.Enclosing
import DtoInterfaces.Proofs.FileStore.Histories
import DtoInterfaces.Proofs.FileStore.DeniedPaths
import DtoInterfaces.Proofs.FileStore.Footprint
import DtoInterfaces.Proofs.PropertyMap
import DtoInterfaces.Proofs.CommandLine.Export
