import GatewayAgent.Main
import GatewayAgent.Rpc.Interceptor
import GatewayAgent.Session.Sweeper
import GatewayAgent.Tls.Handshake
import GatewayAgent.Transport.AcceptLoop
import GatewayAgent.Proofs.ControlPlane.Reconnection
import GatewayAgent.Proofs.ControlPlane.Replay
import GatewayAgent.Proofs.Session.Lifetime
import GatewayAgent.Proofs.Session.Sweeping
import GatewayAgent.Proofs.Session.Provenance
import GatewayAgent.Proofs.Session.Perpetual
import GatewayAgent.Proofs.Session.Readers
import GatewayAgent.Proofs.Session.Clients
import GatewayAgent.Proofs.Session.Activity
import GatewayAgent.Proofs.Host.FileSystem
import GatewayAgent.Proofs.UserConfig.Writer
import GatewayAgent.Proofs.UserConfig.Isolation
import GatewayAgent.Proofs.UserConfig.Interleaving
import GatewayAgent.Proofs.UserConfig.Atomicity
import GatewayAgent.Proofs.Host.Directories
import GatewayAgent.Proofs.Certificate.Installation
import GatewayAgent.Proofs.Certificate.Minting
import GatewayAgent.Proofs.Text.Utf8
import GatewayAgent.Proofs.Certificate.Armour
import GatewayAgent.Proofs.Certificate.Bootstrap
import GatewayAgent.Proofs.Config.Provision
import GatewayAgent.Proofs.Certificate.KeySecrecy
import GatewayAgent.Proofs.ControlPlane.Failure
import GatewayAgent.Proofs.ControlPlane.Reporting
import GatewayAgent.Proofs.Command.Policy
import GatewayAgent.Proofs.Transport.Slots
import GatewayAgent.Proofs.Transport.Handover
import GatewayAgent.Proofs.Transport.Lifecycle
import GatewayAgent.Proofs.Agent.Shutdown
import GatewayAgent.Proofs.Rpc.Containment
import GatewayAgent.Proofs.ControlPlane.Accounting
import GatewayAgent.Proofs.Session.Failure
import GatewayAgent.Proofs.Net.Address
import GatewayAgent.Proofs.UserConfig.Route
import GatewayAgent.Proofs.UserConfig.Render
import GatewayAgent.Proofs.UserConfig.Directives
import GatewayAgent.Proofs.UserConfig.RouteForm
import GatewayAgent.Proofs.Host.FileProgram
import GatewayAgent.Proofs.UserConfig.Confinement
import GatewayAgent.Proofs.ControlPlane.Routes
import GatewayAgent.Proofs.ControlPlane.Refusal
import GatewayAgent.Proofs.Text.Decimal
import GatewayAgent.Proofs.ControlPlane.Listing
import GatewayAgent.Proofs.ControlPlane.Timeout
import GatewayAgent.Proofs.ControlPlane.Waiting
import GatewayAgent.Proofs.ControlPlane.TimeLimit
import GatewayAgent.Proofs.ControlPlane.Coherence
import GatewayAgent.Proofs.Certificate.Hostname
import GatewayAgent.Proofs.Config.Reuse
import GatewayAgent.Proofs.Config.Idempotence
import GatewayAgent.Proofs.Config.Load
import GatewayAgent.Proofs.Yaml.Number
import GatewayAgent.Proofs.Config.Sections
import GatewayAgent.Proofs.Config.Selection
import GatewayAgent.Proofs.Certificate.Fingerprint
import GatewayAgent.Proofs.Time.Words
import GatewayAgent.Proofs.Session.Expiry
