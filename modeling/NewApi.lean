import NewApi.GuardedRun
import NewApi.ReadCommitted
import NewApi.RowLocks
import NewApi.KeyedTable
import NewApi.GoText
import NewApi.ResetWindow
import NewApi.Subscription
import NewApi.SubscriptionStore
import NewApi.SubscriptionRows
import NewApi.SubscriptionBounds
import NewApi.RefundWindow
import NewApi.PreConsumeRace
import NewApi.OrderCompletion
import NewApi.GroupUpgrade
import NewApi.UsageReconcile
import NewApi.RequestCharge
import NewApi.RequestBilling
import NewApi.BillingRollback
import NewApi.BillingCalls
import NewApi.BillingSettlement
import NewApi.CommissionLedger
import NewApi.TopUpCallbacks
import NewApi.StagedReads
import NewApi.ConversionReview
import NewApi.DeliveryPayload
import NewApi.ManualDelivery
import NewApi.BatchUpdater
import NewApi.ChannelUsage
import NewApi.UserEdit
import NewApi.RedemptionCodes
import NewApi.DayPassPlan
import NewApi.PlanSync
import NewApi.PreConsumeReplay
import NewApi.DayPassSync
import NewApi.Channels
import NewApi.ChannelCache
import NewApi.StatusUpdates
import NewApi.AbilityRows
import NewApi.ChannelInfoWrites
import NewApi.TaskRows
import NewApi.TaskPolling
import NewApi.FailedTasks
import NewApi.BlockStream
import NewApi.ClaudeStream
import NewApi.StreamContent
import NewApi.PriorityLevels
import NewApi.ChannelRouting
import NewApi.AutoGroupRetry
import NewApi.AttemptConfig
import NewApi.RealtimeBilling
import NewApi.ImageTasks
import NewApi.SlidingWindow
import NewApi.ModelRateLimit
import NewApi.RandomPick
import NewApi.LotteryRounds
import NewApi.LegacyConversion
import NewApi.CheckinJobs
import NewApi.MidjourneyTasks
import NewApi.TwoFactor
import NewApi.Invoices
import NewApi.AtomicThreads
import NewApi.RedisCache
import NewApi.NetAddr
import NewApi.ProtectedFetch
import NewApi.CivilTime
import NewApi.ResetClock
import NewApi.DueReset
import NewApi.UsageReturn
import NewApi.PlanPool
import NewApi.ConversionPause
import NewApi.PlanSnapshot
import NewApi.SubscriptionMoves
import NewApi.PurchaseCounts
import NewApi.DayPassTiming
import NewApi.TaskRatios
import NewApi.TruncatedScaling
import NewApi.TaskCompletion
import NewApi.TaskTokenPricing
import NewApi.TextQuota
import NewApi.TieredParams
import NewApi.CyclicScan
import NewApi.KeyPolling
import NewApi.RawJson
import NewApi.KeyColumn
import NewApi.KeyListEdits
import NewApi.SlotRelease
import NewApi.WeightedDraw
import NewApi.Regrouping
import NewApi.SongSync
import NewApi.PollingRound
import NewApi.WeightedChoice
import NewApi.TokenPeriod
import NewApi.JsonTree
import NewApi.ParamOverride
import NewApi.ChangingLimits
import NewApi.TokenBucket
import NewApi.SeparatedText
import NewApi.InviteRewardLimit
import NewApi.TieredSettle
import NewApi.TieredCompose
import NewApi.NegativeIndex
import NewApi.DeterministicChains
import NewApi.ModelMapping
import NewApi.ShuffledTurns
import NewApi.GroupVisibility
import NewApi.TreePruning
import NewApi.PruneObjects
import NewApi.ClassedLists
import NewApi.ClaudeToOpenAI
import NewApi.GoRunes
import NewApi.SundaySearch
import NewApi.QueuedReads
import NewApi.StreamScanner
import NewApi.Strconv
import NewApi.RedisObjects
import NewApi.GeminiToOpenAI
import NewApi.GeminiStream
import NewApi.WholeResponses
import NewApi.ChatToResponses
import NewApi.Regions
import NewApi.SensitiveWords
import NewApi.TreePlaces
import NewApi.ValueMoves
import NewApi.IntRanges
import NewApi.StatusCodeRanges
import NewApi.UpstreamModels
