import ActionRelay.Declaration.Builder
import ActionRelay.Folder
import ActionRelay.Json.Printer
import ActionRelay.Main
import ActionRelay.Proofs.Forwarding
import ActionRelay.Proofs.TypeExpr.RoundTrip
import ActionRelay.Proofs.Declaration.Copy
import ActionRelay.Proofs.Declaration.Visit
import ActionRelay.Proofs.Nameless
import ActionRelay.Proofs.Survey
import ActionRelay.Proofs.Locality
import ActionRelay.Proofs.DroppedCases
import ActionRelay.Proofs.FirstFault
import ActionRelay.Proofs.Declaration.RoundTrip
import ActionRelay.Proofs.Places
import ActionRelay.Proofs.Reordering
import ActionRelay.Proofs.Rendering.Lines
import ActionRelay.Proofs.Rendering.Parameters
import ActionRelay.Proofs.Rendering.Separators
import ActionRelay.Proofs.Rendering.Injectivity
import ActionRelay.Proofs.TypeExpr.Height
import ActionRelay.Proofs.Declaration.Levels
import ActionRelay.Proofs.EntryPoints
import ActionRelay.Proofs.Log
import ActionRelay.Proofs.Declaration.Chains
import ActionRelay.Proofs.TypeExpr.Paths
import ActionRelay.Proofs.NestedTypes
import ActionRelay.Proofs.TypeExpr.QualifiedText
import ActionRelay.Proofs.Declaration.Storable
import ActionRelay.Proofs.ParameterTypes
import ActionRelay.Proofs.Rendering.Columns
import ActionRelay.Proofs.NameSearch
import ActionRelay.Proofs.Capability
import ActionRelay.Proofs.Declaration.Worklist
import ActionRelay.Proofs.Indexing
import ActionRelay.Proofs.Json.RoundTrip
