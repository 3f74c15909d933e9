import VolumePlugin.Failure.Sort
import VolumePlugin.Operation.Sort
import VolumePlugin.Service
import VolumePlugin.Text.Utf8
import VolumePlugin.Proofs.Preparation
import VolumePlugin.Proofs.Outcome
import VolumePlugin.Proofs.CreationRun
import VolumePlugin.Proofs.ChangeRun
import VolumePlugin.Proofs.ListingRun
import VolumePlugin.Proofs.Supervision
import VolumePlugin.Proofs.Answering
import VolumePlugin.Proofs.ListingPages
import VolumePlugin.Proofs.PageAddress
import VolumePlugin.Proofs.TimeLeft
import VolumePlugin.Proofs.ListingComplete
import VolumePlugin.Proofs.Provider
import VolumePlugin.Proofs.ServedCalls
import VolumePlugin.Proofs.CreationOnce
import VolumePlugin.Proofs.RequestOrder
import VolumePlugin.Proofs.FailedRequests
import VolumePlugin.Proofs.Precedence
import VolumePlugin.Proofs.CreationSteps
import VolumePlugin.Proofs.CreationRace
import VolumePlugin.Proofs.RequestTime
import VolumePlugin.Proofs.Deadline
import VolumePlugin.Proofs.Region
import VolumePlugin.Proofs.SameSteps
import VolumePlugin.Proofs.Confidentiality
import VolumePlugin.Proofs.Reporting
import VolumePlugin.Proofs.LogLevel
import VolumePlugin.Proofs.ListingEntries
import VolumePlugin.Proofs.ListingCursor
import VolumePlugin.Proofs.AnswerStatus
import VolumePlugin.Proofs.CreationOutcome
import VolumePlugin.Proofs.ChangeOutcome
import VolumePlugin.Proofs.DesiredState
import VolumePlugin.Proofs.Cancellation
import VolumePlugin.Proofs.Classification
import VolumePlugin.Proofs.SizeLimits
import VolumePlugin.Proofs.StartingToken
import VolumePlugin.Proofs.NodeId
import VolumePlugin.Proofs.PageNumber
import VolumePlugin.Proofs.AnswerShape
import VolumePlugin.Proofs.LinkAuthority
import VolumePlugin.Proofs.ThreadName
import VolumePlugin.Proofs.CapabilityChecks
import VolumePlugin.Proofs.LetterCase
import VolumePlugin.Proofs.RequestIdentity
import VolumePlugin.Proofs.LinkQuery
import VolumePlugin.Proofs.Members
import VolumePlugin.Proofs.VolumeReading
import VolumePlugin.Proofs.Nesting
import VolumePlugin.Proofs.ReplyReading
