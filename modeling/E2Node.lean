import E2Node.Main
import E2Node.Procedure.Script
import E2Node.Session.Stream
import E2Node.Proofs.Agent.Clearing
import E2Node.Proofs.E2ap.Stream
import E2Node.Proofs.Kpm.Admission
import E2Node.Proofs.Kpm.Course
import E2Node.Proofs.Kpm.Frame
import E2Node.Proofs.Kpm.Reports
import E2Node.Proofs.Population.Changes
import E2Node.Proofs.Population.Feeds
import E2Node.Proofs.Population.Replica
import E2Node.Proofs.Agent.Calls
import E2Node.Proofs.Agent.Attachment
import E2Node.Proofs.Agent.Intake
import E2Node.Proofs.Agent.Replies
import E2Node.Proofs.E2ap.Front
import E2Node.Proofs.Session.Events
import E2Node.Proofs.Session.Requests
import E2Node.Proofs.Population.Births
import E2Node.Proofs.Population.Resizing
import E2Node.Proofs.Population.Delivery
import E2Node.Proofs.Kpm.Overlap
import E2Node.Proofs.Ident.Cell
import E2Node.Proofs.Agent.Dispatch
import E2Node.Proofs.Kpm.Causes
import E2Node.Proofs.Kpm.Removal
import E2Node.Proofs.Kpm.Attribution
import E2Node.Proofs.Launch.Assembly
import E2Node.Proofs.Agent.Endings
import E2Node.Proofs.Session.Setup
import E2Node.Proofs.Kpm.Independence
import E2Node.Proofs.Population.Quantity
import E2Node.Proofs.Population.Placement
import E2Node.Proofs.Population.Alteration
import E2Node.Proofs.Population.Interference
import E2Node.Proofs.Kpm.Elements
import E2Node.Proofs.E2ap.Truncation
import E2Node.Proofs.Launch.Startup
import E2Node.Proofs.Text.Hex
import E2Node.Proofs.Population.Listing
import E2Node.Proofs.Subscription.Contents
import E2Node.Proofs.Config.RoundTrip
