import ProxySdk.Basic
import ProxySdk.Range
import ProxySdk.Logger
import ProxySdk.Hostcalls.Utils
import ProxySdk.Hostcalls.MapCodec
import ProxySdk.Property
import ProxySdk.Context
import ProxySdk.Dispatcher.State
import ProxySdk.Dispatcher.Sdk
import ProxySdk.Dispatcher.Handlers
import ProxySdk.Dispatcher.Completion
import ProxySdk.Dispatcher.Run
import ProxySdk.Dispatcher.Frame
import ProxySdk.Dispatcher.Ledger
import ProxySdk.Completions
import ProxySdk.Events
import ProxySdk.Contexts
import ProxySdk.Runs
import ProxySdk.StreamRegistry
import ProxySdk.Reset
import ProxySdk.Metrics
import ProxySdk.Queue
import ProxySdk.SharedData
import ProxySdk.Accessors
import ProxySdk.Time
import ProxySdk.Calls
import ProxySdk.Utf8Lossy
import ProxySdk.Attributes
import ProxySdk.Environment
import ProxySdk.Consumers
