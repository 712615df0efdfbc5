import CloudClient.Client.Actions
import CloudClient.Context
import CloudClient.Delivery
import CloudClient.Proofs.Ledger
import CloudClient.Proofs.RunningIds
import CloudClient.Proofs.PollLedger
import CloudClient.Proofs.PollLoop
import CloudClient.Proofs.Pauses
import CloudClient.Proofs.Completion
import CloudClient.Proofs.ClientWait
import CloudClient.Proofs.QueryRoundTrip
import CloudClient.Proofs.Noting
import CloudClient.Proofs.PollRequests
import CloudClient.Proofs.MissingActions
import CloudClient.Proofs.Retrying
import CloudClient.Proofs.Shortening
import CloudClient.Proofs.Truncation
import CloudClient.Proofs.Resending
import CloudClient.Proofs.Channels
import CloudClient.Proofs.Failures
import CloudClient.Proofs.Batches
import CloudClient.Proofs.WatchNews
import CloudClient.Proofs.Percentages
import CloudClient.Proofs.WatchProgress
import CloudClient.Proofs.Lineage
import CloudClient.Proofs.ContextLives
import CloudClient.Proofs.Members
import CloudClient.Proofs.PageWalks
import CloudClient.Proofs.ListBodies
import CloudClient.Proofs.WholeLists
import CloudClient.Proofs.Credentials
import CloudClient.Proofs.Confidentiality
import CloudClient.Proofs.Origins
import CloudClient.Proofs.Observing
import CloudClient.Proofs.RoundTrips
import CloudClient.Proofs.HandingOn
import CloudClient.Proofs.Counting
import CloudClient.Proofs.DueReports
import CloudClient.Proofs.WatchOne
import CloudClient.Proofs.Averages
import CloudClient.Proofs.Overflow
import CloudClient.Proofs.WatchResults
import CloudClient.Proofs.PageChains
import CloudClient.Proofs.Races
import CloudClient.Proofs.ErrorRecords
import CloudClient.Proofs.Registration
import CloudClient.Proofs.PlainDetails
import CloudClient.Proofs.Causes
import CloudClient.Proofs.Targets
import CloudClient.Proofs.ListQueries
import CloudClient.Proofs.JsonTokens
import CloudClient.Proofs.JsonTrees
import CloudClient.Proofs.PlainBodies
import CloudClient.Proofs.Labels
import CloudClient.Proofs.Exhaustion
import CloudClient.Proofs.Transcripts
import CloudClient.Proofs.Tails
import CloudClient.Proofs.PathSteps
import CloudClient.Proofs.Endpoints
import CloudClient.Proofs.Calendar
import CloudClient.Proofs.Digits
import CloudClient.Proofs.Timestamps
import CloudClient.Proofs.WrittenStrings
import CloudClient.Proofs.WrittenValues
import CloudClient.Proofs.ActionRecords
import CloudClient.Proofs.ErrorCodes
