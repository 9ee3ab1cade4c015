import WasmHost.Main
import WasmHost.Proofs.Registry.Footprint
import WasmHost.Proofs.Registry.Tables
import WasmHost.Proofs.Registry.Request
import WasmHost.Proofs.Registry.Failure
import WasmHost.Proofs.Registry.Interleaving
import WasmHost.Proofs.Registry.Resolution
import WasmHost.Proofs.Registry.Making
import WasmHost.Proofs.Registry.StaticNames
import WasmHost.Proofs.Handle
import WasmHost.Proofs.Registry.Loading
import WasmHost.Proofs.Strategy
import WasmHost.Proofs.Registry.Selection
import WasmHost.Proofs.Registry.Roster
import WasmHost.Proofs.Registry.Tidy
import WasmHost.Proofs.Http.Exchange
import WasmHost.Proofs.Http.Serving
import WasmHost.Proofs.Http.Token
import WasmHost.Proofs.Registry.Ordered
import WasmHost.Proofs.Http.Listing
import WasmHost.Proofs.WellFormed
import WasmHost.Proofs.Http.Admission
import WasmHost.Proofs.Policy
import WasmHost.Proofs.Http.Calls
import WasmHost.Proofs.Backends
import WasmHost.Proofs.Registry.Provenance
import WasmHost.Proofs.Http.Isolation
import WasmHost.Proofs.Http.Uploads
import WasmHost.Proofs.Fuel
import WasmHost.Proofs.Registry.Reloading
import WasmHost.Proofs.Registry.Inheritance
import WasmHost.Proofs.Registry.Overlap
import WasmHost.Proofs.Fallback
import WasmHost.Proofs.Registry.Declarations
import WasmHost.Proofs.Http.Refreshing
import WasmHost.Proofs.Building
import WasmHost.Proofs.Resources
import WasmHost.Proofs.Logging
import WasmHost.Proofs.Metadata
import WasmHost.Proofs.Boundary
import WasmHost.Proofs.Http.Forms
import WasmHost.Proofs.ConfigFile
import WasmHost.Proofs.Configuration
import WasmHost.Proofs.Http.Arguments
