import SchemaBridge.Files.System
import SchemaBridge.Fixture.Run
import SchemaBridge.JsonSchema.Agreement
import SchemaBridge.JsonSchema.Parser.Lemmas
import SchemaBridge.JsonSchema.Subschemas
import SchemaBridge.Main
import SchemaBridge.Proofs.Columnar.Bare
import SchemaBridge.Proofs.Columnar.Cycle
import SchemaBridge.Proofs.Columnar.ReadBack
import SchemaBridge.Proofs.Columnar.Stability
import SchemaBridge.Proofs.Columnar.WellFormed
import SchemaBridge.Proofs.Json.Pointers
import SchemaBridge.Proofs.JsonSchema.Complaints
import SchemaBridge.Proofs.JsonSchema.Culprits
import SchemaBridge.Proofs.JsonSchema.FlatRequired
import SchemaBridge.Proofs.JsonSchema.Grammar
import SchemaBridge.Proofs.JsonSchema.NormalForm
import SchemaBridge.Proofs.JsonSchema.Readable
import SchemaBridge.Proofs.JsonSchema.Relevance
import SchemaBridge.Proofs.JsonSchema.TypeArrays
import SchemaBridge.Proofs.JsonSchema.FlatDepth
import SchemaBridge.Proofs.JsonSchema.FlatLevels
import SchemaBridge.Proofs.CommandLine.FlatDocuments
import SchemaBridge.Proofs.JsonSchema.FlatKeys
import SchemaBridge.Proofs.Columnar.StructColumns
import SchemaBridge.Proofs.Columnar.Shapes
import SchemaBridge.Proofs.Columnar.Describable
import SchemaBridge.Proofs.Columnar.Converted
import SchemaBridge.Proofs.Columnar.Variants
import SchemaBridge.Proofs.Columnar.Congruence
