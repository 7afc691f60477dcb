import FeedSync.Config
import FeedSync.Cycle
import FeedSync.Feed.Fetch
import FeedSync.Schedule

/-!
# Settings from the configuration

What the configuration tells the parts of the library: the fetch, the cycle and the schedule.
-/

namespace FeedSync.Config

/-- How the content API is asked. -/
def feedSettings (c : Config) : Feed.Settings where
  baseUrl := c.api.baseUrl
  pageSize := UInt32.ofNat c.api.pageSize
  maxAttempts := UInt32.ofNat c.api.retry.maxAttempts
  initialBackoff := c.api.retry.initialBackoff
  maxBackoff := c.api.retry.maxBackoff

/-- What a cycle over the content API is about. -/
def cycleSettings (c : Config) : Cycle.Settings where
  sourceId := Feed.sourceId
  sourceName := Feed.sourceName
  maxPages := UInt32.ofNat c.sync.maxPages
  historyDays := UInt32.ofNat c.sync.historyDays
  publishes := c.broker.publishes

/-- When cycles over the content API run. -/
def schedule (c : Config) : Schedule where
  sourceId := Feed.sourceId
  interval := 1000 * c.sync.interval
  timeout := 1000 * c.sync.timeout

end FeedSync.Config
