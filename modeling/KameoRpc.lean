import KameoRpc.Format.Decimal
import KameoRpc.Common.Types
import KameoRpc.Common.Notification
import KameoRpc.Common.Calculator
import KameoRpc.Client.Discovery
import KameoRpc.Client.NotificationHandler
import KameoRpc.Client.Demo
import KameoRpc.Server.Push
import KameoRpc.Rpc.Config
import KameoRpc.System.Deployment
import KameoRpc.System.Runs
import KameoRpc.System.Guarantees
