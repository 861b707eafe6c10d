import SchemaRest.Config.Loader
import SchemaRest.Proofs.Service.Access
import SchemaRest.Proofs.Service.Published
import SchemaRest.Proofs.Sql.CreateReading
import SchemaRest.Proofs.Sql.FilterTruth
import SchemaRest.Proofs.Sql.SelectReading
import SchemaRest.Service.Serve
import SchemaRest.Proofs.Json.Pointer
import SchemaRest.Proofs.OpenApi.References
import SchemaRest.Proofs.OpenApi.Components
import SchemaRest.Proofs.Sql.ChangeReader
import SchemaRest.Proofs.Sql.ChangeReading
import SchemaRest.Proofs.Database.Store
import SchemaRest.Proofs.Service.Pages
import SchemaRest.Proofs.Service.Displacement
import SchemaRest.Proofs.Service.Atomicity
import SchemaRest.Proofs.Service.Routing
import SchemaRest.Proofs.Service.Values
import SchemaRest.Proofs.Service.Refusals
import SchemaRest.Proofs.Service.Declarations
import SchemaRest.Proofs.Service.Projections
import SchemaRest.Proofs.Sql.Negation
import SchemaRest.Proofs.Service.FailClosed
import SchemaRest.Proofs.Service.Addressing
import SchemaRest.Proofs.Request.Documented
import SchemaRest.Proofs.Endpoint.FirstWins
import SchemaRest.Proofs.Service.Accumulation
import SchemaRest.Proofs.Sql.ConstraintNames
import SchemaRest.Proofs.Config.DatabaseName
import SchemaRest.Proofs.Sql.Compilation
import SchemaRest.Proofs.Policy.TemplatePaths
import SchemaRest.Proofs.Request.Spellings
import SchemaRest.Proofs.Service.Grants
import SchemaRest.Proofs.Policy.Templates
import SchemaRest.Proofs.Catalog.Reports
