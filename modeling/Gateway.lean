import Gateway.Admission
import Gateway.Assembly
import Gateway.Body.Timed
import Gateway.Engine
import Gateway.Main
import Gateway.Trace.Record
import Gateway.WebSocket.Handshake
import Gateway.WebSocket.Session
import Gateway.Proofs.Outcome.Once
import Gateway.Proofs.Delivery.Departure
import Gateway.Proofs.Framing
import Gateway.Proofs.Admission
import Gateway.Proofs.RequestId
import Gateway.Proofs.Persistence
import Gateway.Proofs.Outcome.First
import Gateway.Proofs.Delivery.Stopped
import Gateway.Proofs.Delivery.Account
import Gateway.Proofs.Pipe.Ends
import Gateway.Proofs.Pipe.Delivered
import Gateway.Proofs.Trace.HeadFirst
import Gateway.Proofs.Isolation.Apart
import Gateway.Proofs.Tunnel.Forwarding
import Gateway.Proofs.Routing.CatchAll
import Gateway.Proofs.Routing.NormalForm
import Gateway.Proofs.Gate.Decision
import Gateway.Proofs.Fields.EndToEnd
import Gateway.Proofs.Fields.Length
import Gateway.Proofs.Routing.Destination
import Gateway.Proofs.Delivery.Silence
import Gateway.Proofs.Tunnel.Refusal
import Gateway.Proofs.Fields.Forwarding
import Gateway.Proofs.Settings.Acceptance
import Gateway.Proofs.Trace.Records
import Gateway.Proofs.Numbering
import Gateway.Proofs.Outcome.Contest
