import ReplicatedSpace.Collector.FanIn
import ReplicatedSpace.Main
import ReplicatedSpace.Timeline.Script
import ReplicatedSpace.Proofs.Course
import ReplicatedSpace.Proofs.Order
import ReplicatedSpace.Proofs.Schedule
import ReplicatedSpace.Proofs.Engagement
import ReplicatedSpace.Proofs.Progress
import ReplicatedSpace.Proofs.Unanimity
import ReplicatedSpace.Proofs.Account
import ReplicatedSpace.Proofs.Belonging
import ReplicatedSpace.Proofs.Numbers
import ReplicatedSpace.Proofs.Retrying
import ReplicatedSpace.Proofs.Timetable
import ReplicatedSpace.Proofs.Reading
import ReplicatedSpace.Proofs.Overtaking
import ReplicatedSpace.Proofs.Choice
import ReplicatedSpace.Proofs.Hush
import ReplicatedSpace.Proofs.Likeness
import ReplicatedSpace.Proofs.Stragglers
import ReplicatedSpace.Proofs.Agreement
import ReplicatedSpace.Proofs.Lifetime
import ReplicatedSpace.Proofs.Handles
import ReplicatedSpace.Proofs.Epochs
import ReplicatedSpace.Proofs.Discovery
import ReplicatedSpace.Proofs.FanIn
import ReplicatedSpace.Proofs.Scalars
import ReplicatedSpace.Proofs.Records
import ReplicatedSpace.Proofs.RoundTrip
import ReplicatedSpace.Proofs.Namesakes
import ReplicatedSpace.Proofs.WrongArguments
import ReplicatedSpace.Proofs.Walks
import ReplicatedSpace.Proofs.FieldLayers
import ReplicatedSpace.Proofs.Options
import ReplicatedSpace.Proofs.Errands
import ReplicatedSpace.Proofs.Authority
import ReplicatedSpace.Proofs.Adjustment
import ReplicatedSpace.Proofs.OneReplica
import ReplicatedSpace.Proofs.Replies
import ReplicatedSpace.Proofs.Tally
import ReplicatedSpace.Proofs.Failing
import ReplicatedSpace.Proofs.Counting
import ReplicatedSpace.Proofs.Lines
import ReplicatedSpace.Proofs.Lookups
import ReplicatedSpace.Proofs.Printing
import ReplicatedSpace.Proofs.Variables
import ReplicatedSpace.Proofs.Grammar
import ReplicatedSpace.Proofs.Skipping
import ReplicatedSpace.Proofs.Content
import ReplicatedSpace.Proofs.Members
import ReplicatedSpace.Proofs.Spellings
import ReplicatedSpace.Proofs.Defaults
import ReplicatedSpace.Proofs.Tickets
import ReplicatedSpace.Proofs.Fallbacks
import ReplicatedSpace.Proofs.Rounding
import ReplicatedSpace.Proofs.Doubles
import ReplicatedSpace.Proofs.NearestDouble
import ReplicatedSpace.Proofs.Numerals
import ReplicatedSpace.Proofs.Delays
