import FanControl.FloatingPoint.Binary32
import FanControl.Decimal.Text
import FanControl.Text.Blank
import FanControl.Text.Bytes
import FanControl.Text.Quoted
import FanControl.Json.Printer
import FanControl.Json.Token
import FanControl.Json.Reader
import FanControl.Json.Record
import FanControl.FanLaw
import FanControl.Schedule.Dialect
import FanControl.Wifi
import FanControl.Form
import FanControl.Startup
import FanControl.Dashboard
import FanControl.Device.Server
import FanControl.Session.Operations
import FanControl.Session.Timeline
import FanControl.Session.Client
import FanControl.Session.Script
import FanControl.Session.Exchange
import FanControl.Proofs.Firmware.Outcome
import FanControl.Proofs.Firmware.InFlight
import FanControl.Proofs.Firmware.Clock
import FanControl.Proofs.Firmware.Exchange
import FanControl.Firmware.History
import FanControl.Proofs.Firmware.History
import FanControl.Proofs.Device.Frame
import FanControl.Session.Observation
import FanControl.Proofs.Session.Alike
import FanControl.Proofs.Session.Simulation
import FanControl.Proofs.Session.Reload
import FanControl.Proofs.Decimal.Shortest
import FanControl.Proofs.FloatingPoint.Rounding
import FanControl.Proofs.Json.Number
import FanControl.Proofs.Json.Value
import FanControl.Proofs.Clamp
import FanControl.Proofs.Schedule.Dialect
import FanControl.Proofs.Settings
import FanControl.Session.Store
import FanControl.Proofs.Device.Calls
import FanControl.Proofs.Session.Store
import FanControl.Dashboard.History
import FanControl.Proofs.Dashboard
import FanControl.Session.PollSchedule
import FanControl.Proofs.Polling
import FanControl.Proofs.Session.PollSchedule
import FanControl.Proofs.Schedule.RoundTrip
import FanControl.Proofs.Bodies
import FanControl.Proofs.FanLaw
import FanControl.Proofs.Device.Status
import FanControl.Proofs.Device.Reachable
import FanControl.Proofs.Session.Operations
import FanControl.Proofs.Session.Rounds
import FanControl.Proofs.Session.Writes
import FanControl.Session.Delivery
import FanControl.Proofs.Session.Delivery
import FanControl.Proofs.Session.StatusDelivery
import FanControl.Proofs.Text.Blank
import FanControl.Proofs.Configuration
import FanControl.Proofs.Session.MissedMoments
import FanControl.Proofs.Json.Members
import FanControl.Proofs.Schedule.Acceptance
import FanControl.Proofs.Schedule.Agreement
import FanControl.Proofs.Session.Failures
import FanControl.Proofs.Form
import FanControl.Proofs.Startup
import FanControl.Proofs.Firmware.Termination
import FanControl.Proofs.Firmware.Confluence
import FanControl.Proofs.Session.ImageChunks
import FanControl.Proofs.Dashboard.Consistency
