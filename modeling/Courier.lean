import Courier.Backoff
import Courier.Bytes
import Courier.Cipher.Basic
import Courier.Cipher.ChaCha
import Courier.Cipher.Key
import Courier.Cipher.Poly1305
import Courier.Cipher.Sealed
import Courier.Cipher.Session
import Courier.Endpoint
import Courier.Failure
import Courier.Frame.Accumulator
import Courier.Frame.Basic
import Courier.Frame.Splitter
import Courier.Link.Basic
import Courier.Link.Lifecycle
import Courier.Link.Transfer
import Courier.Net.Address
import Courier.Net.IoError
import Courier.Net.Network
import Courier.Net.Pipe
import Courier.PortRange
import Courier.Proofs.Backoff
import Courier.Proofs.Bytes
import Courier.Proofs.Cipher
import Courier.Proofs.Endpoint.Bounds
import Courier.Proofs.Endpoint.Calls
import Courier.Proofs.Endpoint.Echoes
import Courier.Proofs.Endpoint.Estimates
import Courier.Proofs.Endpoint.Faults
import Courier.Proofs.Endpoint.Judging
import Courier.Proofs.Endpoint.Lifecycle
import Courier.Proofs.Endpoint.Outage
import Courier.Proofs.Endpoint.Pace
import Courier.Proofs.Endpoint.Receiving
import Courier.Proofs.Endpoint.Records
import Courier.Proofs.Endpoint.Refusals
import Courier.Proofs.Endpoint.Run
import Courier.Proofs.Endpoint.SendErrors
import Courier.Proofs.Endpoint.Sending
import Courier.Proofs.Endpoint.Steps
import Courier.Proofs.Endpoint.Timely
import Courier.Proofs.Fleet.Honesty
import Courier.Proofs.Fleet.Run
import Courier.Proofs.Frame.Abreast
import Courier.Proofs.Frame.Agreement
import Courier.Proofs.Frame.Blocked
import Courier.Proofs.Frame.Checked
import Courier.Proofs.Frame.Chunks
import Courier.Proofs.Frame.Collecting
import Courier.Proofs.Frame.History
import Courier.Proofs.Frame.Needed
import Courier.Proofs.Frame.Orderly
import Courier.Proofs.Frame.Splitting
import Courier.Proofs.Key
import Courier.Proofs.Link.Alignment
import Courier.Proofs.Link.Alike
import Courier.Proofs.Link.Arrivals
import Courier.Proofs.Link.Barring
import Courier.Proofs.Link.Blocked
import Courier.Proofs.Link.Bounds
import Courier.Proofs.Link.Course
import Courier.Proofs.Link.Deadlines
import Courier.Proofs.Link.Ended
import Courier.Proofs.Link.Listening
import Courier.Proofs.Link.Orderly
import Courier.Proofs.Link.Outage
import Courier.Proofs.Link.Pace
import Courier.Proofs.Link.Phases
import Courier.Proofs.Link.Reading
import Courier.Proofs.Link.Renewal
import Courier.Proofs.Link.Run
import Courier.Proofs.Link.Steps
import Courier.Proofs.Link.Transfers
import Courier.Proofs.Link.Twins
import Courier.Proofs.Net.Alike
import Courier.Proofs.Net.Arrivals
import Courier.Proofs.Net.Deadlines
import Courier.Proofs.Net.Drift
import Courier.Proofs.Net.Effects
import Courier.Proofs.Net.Mirrors
import Courier.Proofs.PortRange
import Courier.Proofs.Record
import Courier.Proofs.Session.Alike
import Courier.Proofs.Session.Arrival
import Courier.Proofs.Session.Contents
import Courier.Proofs.Session.Delivery
import Courier.Proofs.Session.Run
import Courier.Proofs.Text
import Courier.Proofs.Timing.History
import Courier.Proofs.Timing.Samples
import Courier.Proofs.Timing.Smoothing
import Courier.Proofs.Timing.Stamp
import Courier.Record
import Courier.Role
import Courier.Settings
import Courier.Simulation.Cipher
import Courier.Simulation.Setup
import Courier.Simulation.Step
import Courier.Simulation.World
import Courier.Text.Decimal
import Courier.Text.Quoted
import Courier.Text.Unprintable
import Courier.Text.WhiteSpace
import Courier.Time
import Courier.Timing.Echo
import Courier.Timing.RoundTrip
import Courier.Timing.Stamp
