import Gateway.Json.Value
import Gateway.Json.Parse
import Gateway.Json.RoundTrip
import Gateway.Json.Decode
import Gateway.Json.Map
import Gateway.Protocol.Messages
import Gateway.Protocol.Parse
import Gateway.Protocol.RoundTrip
import Gateway.Protocol.Dispatch
import Gateway.PubSub.Redis
import Gateway.PubSub.Delivery
import Gateway.Connection.Client
import Gateway.Connection.Shard
import Gateway.Connection.Manager
import Gateway.Connection.System
import Gateway.Connection.Counter
import Gateway.Connection.Registry
import Gateway.Connection.Disconnect
import Gateway.Connection.Shutdown
import Gateway.Connection.Lock
import Gateway.Connection.ShardCount
import Gateway.Connection.Limiter
import Gateway.Connection.Queue
import Gateway.Connection.Refinement
import Gateway.Connection.WaitGroup
import Gateway.Connection.Routing
import Gateway.Connection.Lifecycle
import Gateway.Connection.Stats
import Gateway.Server.WebSocket
import Gateway.Server.Admission
import Gateway.Server.Metrics
