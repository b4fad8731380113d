import LanCensus.Main
import LanCensus.Rehearsal.Report
import LanCensus.Proofs.Census.History
import LanCensus.Proofs.Census.Order
import LanCensus.Proofs.Census.Countdown
import LanCensus.Proofs.Census.Course
import LanCensus.Proofs.Census.Leftover
import LanCensus.Proofs.Census.Oversleep
import LanCensus.Proofs.Census.Request
import LanCensus.Proofs.Census.Supply
import LanCensus.Proofs.Census.WindDown
import LanCensus.Proofs.Census.Records
import LanCensus.Proofs.Inventory
import LanCensus.Proofs.Inventory.Upkeep
import LanCensus.Proofs.Census.Advance
import LanCensus.Proofs.Census.Muted
import LanCensus.Proofs.Census.Itinerary
import LanCensus.Proofs.Census.Progress
import LanCensus.Proofs.Census.FullSweep
import LanCensus.Proofs.Census.Staleness
import LanCensus.Proofs.Census.Overload
import LanCensus.Proofs.Census.PauseSafety
import LanCensus.Proofs.Census.Signals
import LanCensus.Proofs.Census.Permits
import LanCensus.Proofs.Census.Grammar
import LanCensus.Proofs.Census.Pace
import LanCensus.Proofs.Census.Announcements
import LanCensus.Proofs.Census.Copies
import LanCensus.Proofs.Census.Beside
import LanCensus.Proofs.Census.Lookups
import LanCensus.Proofs.Service.Rest
import LanCensus.Proofs.Service.Overlap
import LanCensus.Proofs.Service.Undisturbed
import LanCensus.Proofs.Service.Conveyance
import LanCensus.Proofs.Service.Session
import LanCensus.Proofs.Service.Newcomer
import LanCensus.Proofs.Inventory.Consistency
import LanCensus.Proofs.Archive.Agreement
import LanCensus.Detect.Inquiry
import LanCensus.Proofs.Service.Restart
import LanCensus.Proofs.Detect.Inquiry
import LanCensus.Proofs.Detect.Sharing
import LanCensus.Proofs.Inventory.Restoring
import LanCensus.Proofs.Inventory.Sightings
import LanCensus.Proofs.Service.Refusal
import LanCensus.Proofs.Census.Fruitless
import LanCensus.Proofs.Census.Retry
import LanCensus.Proofs.Detect.Cascade
import LanCensus.Proofs.Detect.Ssdp
import LanCensus.Proofs.Detect.Description
import LanCensus.Proofs.Detect.Lasting
import LanCensus.Proofs.Net.Neighbour
import LanCensus.Proofs.Net.Sources
import LanCensus.Proofs.Detect.SshGreeting
import LanCensus.Proofs.Detect.OpenPorts
import LanCensus.Proofs.Net.Literal
import LanCensus.Proofs.Net.HostName
import LanCensus.Proofs.Net.Subnet
import LanCensus.Proofs.Net.Interfaces
import LanCensus.Proofs.Census.Named
import LanCensus.Proofs.Json.Spelling
import LanCensus.Proofs.Json.Grammar
import LanCensus.Proofs.Json.Decoding
import LanCensus.Proofs.Json.Members
import LanCensus.Proofs.Device.Key
import LanCensus.Proofs.Device.Tolerance
import LanCensus.Proofs.Detect.Spacing
import LanCensus.Proofs.Time.Deadline
import LanCensus.Proofs.Census.Timetable
import LanCensus.Proofs.Census.Schedule
