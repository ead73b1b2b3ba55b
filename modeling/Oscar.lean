import Oscar.Hex
import Oscar.Utils
import Oscar.PubSub
import Oscar.DropBoxes.Handlers
import Oscar.Server
import Oscar.DropBoxes.PackageListener
import Oscar.Sockets.SocketServer
import Oscar.Verif.Topics
import Oscar.Verif.Multipart
import Oscar.Verif.Subscriptions
import Oscar.Verif.Stuck
import Oscar.Verif.History
import Oscar.Verif.ServerLog
import Oscar.Verif.Relay
import Oscar.Verif.Pipeline
import Oscar.Verif.ListenerFifo
import Oscar.Verif.SocketFifo
import Oscar.Verif.Order
import Oscar.Verif.Safety
import Oscar.Verif.Frames
import Oscar.Verif.Messages
import Oscar.Verif.Watches
import Oscar.Verif.Release
import Oscar.Verif.Store
import Oscar.Verif.Isolation
import Oscar.LogLevel
import Oscar.Email
