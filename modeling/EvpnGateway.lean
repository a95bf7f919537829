import EvpnGateway.Backend.Simulation
import EvpnGateway.Backend.Tools
import EvpnGateway.Backend.Trace
import EvpnGateway.Config
import EvpnGateway.Gateway.Request
import EvpnGateway.Gateway.TenantBridge
import EvpnGateway.Http.Service
import EvpnGateway.Main
import EvpnGateway.Resource.Codec
import EvpnGateway.Shell.OsError
import EvpnGateway.Shell.Script
import EvpnGateway.Startup.Launch
import EvpnGateway.Proofs.Stores
import EvpnGateway.Proofs.Ids
import EvpnGateway.Proofs.Names
import EvpnGateway.Proofs.Pages
import EvpnGateway.Proofs.Resources
import EvpnGateway.Proofs.Decisions
import EvpnGateway.Proofs.Exchanges
import EvpnGateway.Proofs.Reachable
import EvpnGateway.Proofs.Commit
import EvpnGateway.Proofs.WellFormed
import EvpnGateway.Proofs.Frozen
import EvpnGateway.Proofs.Segments
import EvpnGateway.Proofs.Vlans
import EvpnGateway.Proofs.Links
import EvpnGateway.Proofs.Ownership
import EvpnGateway.Proofs.Walks
import EvpnGateway.Proofs.Commands
import EvpnGateway.Proofs.Journal
import EvpnGateway.Proofs.Custody
import EvpnGateway.Proofs.References
import EvpnGateway.Proofs.Ports
import EvpnGateway.Proofs.Retry
import EvpnGateway.Proofs.Surface
import EvpnGateway.Proofs.Confinement
import EvpnGateway.Proofs.Failures
import EvpnGateway.Proofs.Teardown
import EvpnGateway.Proofs.DeviceNames
import EvpnGateway.Proofs.Commuting
import EvpnGateway.Proofs.Written.ShellWords
import EvpnGateway.Proofs.Written.Numerals
import EvpnGateway.Proofs.Written.CommandWords
import EvpnGateway.Proofs.Written.Addresses
import EvpnGateway.Proofs.Written.JsonValues
import EvpnGateway.Proofs.Written.JsonRecords
import EvpnGateway.Proofs.Written.Lossless
import EvpnGateway.Proofs.ByteOrder
import EvpnGateway.Proofs.Contents
import EvpnGateway.Proofs.Written.Octets
import EvpnGateway.Proofs.ChosenIds
import EvpnGateway.Proofs.Naming
import EvpnGateway.Proofs.LookUps
import EvpnGateway.Proofs.TenantBridge
import EvpnGateway.Proofs.Startup
import EvpnGateway.Proofs.Offsets
import EvpnGateway.Proofs.Bodies
