import RemoteIface.Library.Runs
import RemoteIface.Library.InsertionOrder
import RemoteIface.Library.Slices
import RemoteIface.Library.FirstMax
import RemoteIface.Library.EventLoop
import RemoteIface.Library.Discipline
import RemoteIface.Library.Awaits
import RemoteIface.Library.Loggers
import RemoteIface.Library.Binary64
import RemoteIface.Library.Projection
import RemoteIface.Library.Progress
import RemoteIface.Library.WorkerPool
import RemoteIface.Library.TimedCall
import RemoteIface.Library.CallStory
import RemoteIface.Commlib.Topic
import RemoteIface.Commlib.TopicFilters
import RemoteIface.Commlib.Payload
import RemoteIface.Commlib.Endpoints
import RemoteIface.Commlib.Rpc
import RemoteIface.Commlib.Dispatch
import RemoteIface.Commlib.Subscriptions
import RemoteIface.Commlib.SubscriberTable
import RemoteIface.Commlib.Delivery
import RemoteIface.Commlib.EdgeDecoding
import RemoteIface.Commlib.Serialization
import RemoteIface.Commlib.Connection
import RemoteIface.Commlib.ConnectionSteps
import RemoteIface.Commlib.NamedServices
import RemoteIface.Commlib.NodeContext
import RemoteIface.Commlib.RunTask
import RemoteIface.Commlib.OutgoingQueue
import RemoteIface.Commlib.Coverage
import RemoteIface.Commlib.FilterCover
import RemoteIface.Commlib.Handles
import RemoteIface.Commlib.OutgoingLog
import RemoteIface.Commlib.RegistrationOrder
import RemoteIface.Commlib.CommandTable
import RemoteIface.Commlib.Replies
import RemoteIface.Commlib.ReplyCorrelation
import RemoteIface.Commlib.ServicePools
import RemoteIface.Commlib.RequestLife
import RemoteIface.Commlib.ConnectionWorkers
import RemoteIface.Commlib.Stopping
import RemoteIface.Commlib.Recovery
import RemoteIface.Commlib.PeerSafety
import RemoteIface.Protocols.Messages
import RemoteIface.Protocols.Config
import RemoteIface.Protocols.RoundTrip
import RemoteIface.Protocols.Envelope
import RemoteIface.Gateway.Lifecycle
import RemoteIface.Gateway.Components
import RemoteIface.Gateway.Stages
import RemoteIface.Gateway.StageSteps
import RemoteIface.Gateway.Overlap
import RemoteIface.Gateway.HealthLoop
import RemoteIface.Gateway.FailureCount
import RemoteIface.Gateway.Contexts
import RemoteIface.Gateway.Wiring
import RemoteIface.Gateway.TopicTables
import RemoteIface.Gateway.Traffic
import RemoteIface.Gateway.Confinement
import RemoteIface.Gateway.Outbox
import RemoteIface.Gateway.Notifications
import RemoteIface.Gateway.ConfigCommand
import RemoteIface.Gateway.CommandHandlers
import RemoteIface.Gateway.AppCalls
import RemoteIface.Gateway.CommandReplies
import RemoteIface.Gateway.CommandPath
import RemoteIface.Gateway.ConfigThreads
import RemoteIface.Gateway.Loopback
import RemoteIface.Gateway.LogHandler
import RemoteIface.Gateway.LogFeedback
import RemoteIface.Gateway.ComponentFailures
import RemoteIface.HbCompat.SyncFacade
import RemoteIface.HbCompat.CallTasks
import RemoteIface.HbCompat.LastCall
import RemoteIface.HbCompat.EventBusAdapter
import RemoteIface.HbCompat.AdapterKeys
import RemoteIface.HbCompat.Registrations
import RemoteIface.HbCompat.UnsubscribeHandles
import RemoteIface.HbCompat.ForwarderSubscription
import RemoteIface.HbCompat.RestartWiring
import RemoteIface.HbCompat.StopUndoes
import RemoteIface.HbCompat.AppEvents
import RemoteIface.External.Objects
import RemoteIface.External.Bindings
import RemoteIface.External.Hearing
import RemoteIface.External.Survival
import RemoteIface.External.SharedRegistry
import RemoteIface.External.EventFlow
import RemoteIface.External.EventDelivery
import RemoteIface.External.ListenerRemoval
import RemoteIface.External.QueueCapture
import RemoteIface.External.BotScope
