import ResolverTypings.Main
import ResolverTypings.Proofs.Command.Credentials
import ResolverTypings.Proofs.Command.Sources
import ResolverTypings.Proofs.Federation.EnumValues
import ResolverTypings.Proofs.Federation.FieldSetRecords
import ResolverTypings.Proofs.Federation.Merging
import ResolverTypings.Proofs.Federation.OrderIndependence
import ResolverTypings.Proofs.Federation.RepeatedKeys
import ResolverTypings.Proofs.Federation.RepeatedMembers
import ResolverTypings.Proofs.Federation.Rereading
import ResolverTypings.Proofs.Federation.Roots
import ResolverTypings.Proofs.Federation.SchemaGrowth
import ResolverTypings.Proofs.Federation.Transparency
import ResolverTypings.Proofs.Federation.Undeclared
import ResolverTypings.Proofs.Federation.Unresolvable
import ResolverTypings.Proofs.Service.Fetching
import ResolverTypings.Proofs.Service.HeaderLines
import ResolverTypings.Proofs.TypeScript.Brackets
import ResolverTypings.Proofs.TypeScript.Comments
import ResolverTypings.Proofs.TypeScript.DeclaredNames
import ResolverTypings.Proofs.TypeScript.Defects
import ResolverTypings.Proofs.TypeScript.Filtering
import ResolverTypings.Proofs.TypeScript.Shapes
