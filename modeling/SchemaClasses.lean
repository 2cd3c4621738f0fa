import SchemaClasses.Main
import SchemaClasses.Proofs.Generation.References
import SchemaClasses.Proofs.Conversion.Mentions
import SchemaClasses.Proofs.Layout.Coverage
import SchemaClasses.Proofs.Generation.Distinct
import SchemaClasses.Proofs.Layout.Client
import SchemaClasses.Proofs.Generation.Exports
import SchemaClasses.Proofs.Layout.Faults
import SchemaClasses.Proofs.Generation.Failure
import SchemaClasses.Proofs.Generation.Split
import SchemaClasses.Proofs.Generation.Locality
import SchemaClasses.Proofs.FileSystem.Places
import SchemaClasses.Proofs.FileSystem.Writes
import SchemaClasses.Proofs.Generation.Effect
import SchemaClasses.Proofs.Settings.Coercion
import SchemaClasses.Proofs.Generation.Layers
import SchemaClasses.Proofs.FileSystem.Shape
import SchemaClasses.Proofs.Generation.Preview
import SchemaClasses.Proofs.Generation.Documentation
import SchemaClasses.Proofs.Path.Specifiers
import SchemaClasses.Proofs.Schema.Stability
import SchemaClasses.Proofs.TypeScript.Histories
import SchemaClasses.Proofs.Layout.Placing
import SchemaClasses.Proofs.Layout.Names
import SchemaClasses.Proofs.Layout.ClientWay
import SchemaClasses.Proofs.Text.Quoted
import SchemaClasses.Proofs.Generation.Statements
import SchemaClasses.Proofs.Layout.Registration
import SchemaClasses.Proofs.Settings.Acceptance
import SchemaClasses.Proofs.Settings.Echo
import SchemaClasses.Proofs.Conversion.Initializers
import SchemaClasses.Proofs.TypeScript.ObjectLiterals
import SchemaClasses.Proofs.Conversion.Agreement
