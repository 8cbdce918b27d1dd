import Rollout.Dns.Cloudflare.Account
import Rollout.Json.Printer
import Rollout.Main
import Rollout.Progress.Channel
import Rollout.Progress.Reading
import Rollout.Progress.Shared
import Rollout.Proofs.Installer.Machine
import Rollout.Proofs.Deployment.Stages
import Rollout.Rehearsal.Machine
import Rollout.Rehearsal.World
import Rollout.Terminal.Shared
import Rollout.Terminal.Waiting
import Rollout.Proofs.Deployment.Progression
import Rollout.Proofs.Procedure.Parallel
import Rollout.Proofs.Deployment.Containment
import Rollout.Proofs.Text.Utf8
import Rollout.Proofs.Text.Pieces
import Rollout.Proofs.Progress.Framing
import Rollout.Proofs.Progress.Control
import Rollout.Proofs.Deployment.ControlLines
import Rollout.Proofs.Deployment.Authority
import Rollout.Proofs.Terminal.Commuting
import Rollout.Proofs.Terminal.Handle
import Rollout.Proofs.Terminal.Histories
import Rollout.Proofs.Terminal.Shared
import Rollout.Proofs.Terminal.Session
import Rollout.Proofs.Text.Base64
import Rollout.Proofs.Progress.Reading
import Rollout.Proofs.Terminal.Streaming
import Rollout.Proofs.Terminal.Results
import Rollout.Proofs.Terminal.Output
import Rollout.Proofs.Terminal.Gates
import Rollout.Proofs.Terminal.Answering
import Rollout.Proofs.Terminal.Answers
import Rollout.Proofs.Text.Blank
import Rollout.Proofs.Progress.Folding
import Rollout.Proofs.Deployment.Outcome
import Rollout.Proofs.Template.Render
import Rollout.Proofs.Text.Parting
import Rollout.Proofs.Template.Condition
import Rollout.Proofs.Text.ShellWord
import Rollout.Proofs.Remote.Shell
import Rollout.Proofs.Provider.Choice
import Rollout.Proofs.Deployment.Sizing
import Rollout.Proofs.Deployment.Tls
import Rollout.Proofs.Dns.Domain
import Rollout.Proofs.Dns.Cloudflare.Account
import Rollout.Proofs.Dns.Cloudflare.Setting
import Rollout.Proofs.Provider.NativeDns
import Rollout.Proofs.Provider.Catalogue
import Rollout.Proofs.Deployment.Secrecy
import Rollout.Proofs.Progress.Delivery
import Rollout.Proofs.Progress.Shared
import Rollout.Proofs.Provider.Polling
import Rollout.Proofs.Deployment.Reaching
import Rollout.Proofs.Terminal.Escape
import Rollout.Proofs.Terminal.Window
import Rollout.Proofs.Terminal.Waiting
import Rollout.Proofs.Installer.Wizard
import Rollout.Proofs.Provider.Recommendation
import Rollout.Proofs.CommandLine.Sizes
import Rollout.Proofs.Check
import Rollout.Proofs.Quantity
import Rollout.Proofs.Installer.WellFormed
import Rollout.Proofs.Installer.Registry
import Rollout.Proofs.Deployment.Credentials
import Rollout.Proofs.Provider.Creation
import Rollout.Proofs.Dns.Record
import Rollout.Proofs.Deployment.Records
import Rollout.Proofs.Template.Context
import Rollout.Proofs.Terminal.Keystrokes
import Rollout.Proofs.Terminal.Lifecycle
import Rollout.Proofs.Deployment.Domain
import Rollout.Proofs.Files
import Rollout.Proofs.CloudInit
import Rollout.Proofs.Deployment.Halting
import Rollout.Proofs.Foremost
import Rollout.Proofs.Provider.References
import Rollout.Proofs.Provider.Images
import Rollout.Proofs.Deployment.Naming
