import MailSort.Main
import MailSort.Proofs.ClusterModel.Reclustering
import MailSort.Proofs.TemplateModel.Acceptance
import MailSort.Template.Document
import MailSort.TransitionTable.Snapshot
import MailSort.Proofs.Alignment.SharedLength
import MailSort.Proofs.ClusterModel.Placement
import MailSort.Proofs.Score.Comparison
import MailSort.Proofs.ClusterModel.Partition
import MailSort.Proofs.ClusterModel.Founding
import MailSort.Proofs.Json.Literal
import MailSort.Proofs.Json.RoundTrip
import MailSort.Proofs.SortedMap
import MailSort.Proofs.Tally
import MailSort.Proofs.TransitionTable.Consistency
import MailSort.Proofs.TransitionTable.RoundTrip
import MailSort.Proofs.Predictor.Registry
import MailSort.Proofs.Predictor.Requests
import MailSort.Proofs.Fault
import MailSort.Proofs.Predictor.Isolation
import MailSort.Proofs.Predictor.Loading
import MailSort.Proofs.Score.Separation
import MailSort.Proofs.Sliding.Histogram
import MailSort.Proofs.Predictor.Undoing
import MailSort.Proofs.Procedure
import MailSort.Proofs.TemplateModel.InPlace
import MailSort.Proofs.ClusterModel.InPlace
import MailSort.Proofs.Predictor.InPlace
import MailSort.Proofs.Template.Gaps
import MailSort.Proofs.TemplateModel.GapTables
import MailSort.Proofs.Score.Rational
import MailSort.Proofs.Alignment.Identity
import MailSort.Proofs.TransitionTable.Probability
import MailSort.Proofs.TemplateModel.Confidence
import MailSort.Proofs.ClusterModel.Confidence
import MailSort.Proofs.Sliding.Overlap
import MailSort.Proofs.Predictor.Clearing
import MailSort.Proofs.Predictor.Filed
import MailSort.Proofs.TemplateModel.Dilution
import MailSort.Proofs.ClusterModel.Dilution
import MailSort.Proofs.Predictor.Mistakes
import MailSort.Proofs.TransitionTable.Acceptance
import MailSort.Proofs.TransitionTable.Distribution
import MailSort.Proofs.TransitionTable.Counters
import MailSort.Proofs.TransitionTable.Bulk
import MailSort.Proofs.Template.LeastGaps
import MailSort.Proofs.Predictor.Scores
import MailSort.Proofs.Text.Changes
import MailSort.Proofs.Alignment.Reach
import MailSort.Proofs.Alignment.Meeting
import MailSort.Proofs.Alignment.Settling
import MailSort.Proofs.Alignment.Longest
import MailSort.Proofs.ArrivalLog.Restoring
import MailSort.Proofs.Score.Rounding
import MailSort.Proofs.Score.Shares
import MailSort.Proofs.TemplateModel.Prediction
import MailSort.Proofs.Template.Realignment
import MailSort.Proofs.Template.OuterGaps
import MailSort.Proofs.Template.Canonical
import MailSort.Proofs.Predictor.Containment
import MailSort.Proofs.TransitionTable.Repetition
import MailSort.Proofs.TemplateModel.Repetition
import MailSort.Proofs.Template.Document
import MailSort.Proofs.Predictor.Choice
import MailSort.Proofs.Text.Entries
import MailSort.Proofs.Settings.SegmentLengths
