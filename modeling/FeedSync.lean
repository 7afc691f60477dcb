import FeedSync.Main
import FeedSync.Proofs.Cycle.Balance
import FeedSync.Proofs.Cycle.Cancellation
import FeedSync.Proofs.Cycle.Confluence
import FeedSync.Proofs.Cycle.History
import FeedSync.Proofs.Cycle.Isolation
import FeedSync.Proofs.Cycle.Race
import FeedSync.Proofs.Cycle.Recovery
import FeedSync.Proofs.Cycle.Rehearsed
import FeedSync.Proofs.Database.Articles
import FeedSync.Proofs.Database.Protocol
import FeedSync.Rehearsal.Cycles
import FeedSync.Rehearsal.DatabaseWorld
import FeedSync.Rehearsal.Run
import FeedSync.Rehearsal.View
import FeedSync.Rehearsal.World
import FeedSync.Proofs.Store.Interleaving
import FeedSync.Proofs.Store.Overtaking
import FeedSync.Proofs.Schedule.Rounds
import FeedSync.Proofs.Schedule.Timing
import FeedSync.Proofs.Schedule.Shutdown
import FeedSync.Proofs.Feed.Paging
import FeedSync.Proofs.Database.ComposedUrl
import FeedSync.Proofs.Article.RoundTrip
import FeedSync.Proofs.Config.Reference
import FeedSync.Proofs.Selection.OnePass
import FeedSync.Proofs.Cycle.Requery
import FeedSync.Proofs.Config.Accepted
import FeedSync.Proofs.Feed.Dates
import FeedSync.Proofs.Store.Journal
import FeedSync.Proofs.Database.Tags
import FeedSync.Proofs.Config.Expand
import FeedSync.Proofs.Feed.Backoff
import FeedSync.Proofs.Selection.Window
import FeedSync.Proofs.Feed.Millis
import FeedSync.Proofs.Time.DateText
import FeedSync.Proofs.Cycle.Total
