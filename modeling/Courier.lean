import Courier.CommandLine.Command
import Courier.Delivery.Send
import Courier.Dispatch.Interleaving
import Courier.Dispatch.Script
import Courier.Endpoint.Target
import Courier.Main
import Courier.Settings.Basic
import Courier.Proofs.Dispatch.Ledger
import Courier.Proofs.Dispatch.Steps
import Courier.Proofs.Dispatch.Order
import Courier.Proofs.Dispatch.Conservation
import Courier.Proofs.Dispatch.Tickets
import Courier.Proofs.Dispatch.Flushing
import Courier.Proofs.Delivery.Redirects
import Courier.Proofs.Dispatch.Scripts
import Courier.Dispatch.Wired
import Courier.Dispatch.Watched
import Courier.Proofs.Delivery.Clock
import Courier.Proofs.Dispatch.Death
import Courier.Proofs.Dispatch.Losses
import Courier.Proofs.Payload.Values
import Courier.Proofs.Dispatch.Course
import Courier.Proofs.Dispatch.OneCaller
import Courier.Proofs.Dispatch.Refinement
import Courier.Proofs.Dispatch.Draining
import Courier.Proofs.Delivery.Requests
import Courier.Proofs.Dispatch.Secrecy
import Courier.Proofs.Text.Encoding
import Courier.Proofs.Delivery.Wire
import Courier.Proofs.Delivery.Headers
import Courier.Proofs.Dispatch.Posts
import Courier.Proofs.Toml.Keys
import Courier.Proofs.Settings.Layers
import Courier.Proofs.Payload.Writing
import Courier.Proofs.Delivery.Outcomes
import Courier.Proofs.Json.Proper
import Courier.Proofs.Settings.Words
import Courier.Proofs.CommandLine.Queueing
import Courier.Proofs.CommandLine.Exit
import Courier.Proofs.Http.Grammar
import Courier.Proofs.Url.Address
import Courier.Proofs.Url.Authority
import Courier.Proofs.Http.Plain
import Courier.Proofs.Dispatch.Targets
import Courier.Proofs.Dispatch.Logs
import Courier.Proofs.Dispatch.Authors
import Courier.Proofs.Dispatch.Reports
import Courier.Proofs.Dispatch.Backpressure
import Courier.Proofs.Dispatch.Counting
import Courier.Proofs.Dispatch.Snapshots
import Courier.Proofs.Dispatch.Traceless
import Courier.Proofs.Json.Document
import Courier.Proofs.Json.Positions
import Courier.Proofs.Payload.Agreement
import Courier.Proofs.Url.Joining
import Courier.Proofs.CommandLine.Faithful
import Courier.Proofs.Dispatch.Edits
import Courier.Proofs.Dispatch.Hooks
import Courier.Proofs.Payload.Reordering
import Courier.Proofs.Url.Seams
import Courier.Proofs.Settings.Variables
import Courier.Proofs.Endpoint.Showing
import Courier.Proofs.Decimal.Shortest
import Courier.Proofs.Json.Reals
import Courier.Proofs.Json.Compact
import Courier.Proofs.Payload.Bodies
