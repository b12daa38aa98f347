import KtBridge.Abi
import KtBridge.Handle.Layout
import KtBridge.Handle.Table
import KtBridge.Handle.WellFormed
import KtBridge.Handle.Ledger
import KtBridge.Handle.Resolution
import KtBridge.Handle.Generations
import KtBridge.Handle.Ownership
import KtBridge.Handle.Freshness
import KtBridge.Foundation.System
import KtBridge.Foundation.Custody
import KtBridge.Foundation.Listing
import KtBridge.Queue
import KtBridge.Request.Machine
import KtBridge.Request.Protocol
import KtBridge.Request.Answers
import KtBridge.Request.Delivery
import KtBridge.Request.Tracking
import KtBridge.Ephemeral.Machine
import KtBridge.Ephemeral.Mutexes
import KtBridge.Ephemeral.Reaping
import KtBridge.Ephemeral.Closing
import KtBridge.Custody.Machine
import KtBridge.Custody.Handover
import KtBridge.Custody.Keeping
import KtBridge.Custody.Exactness
import KtBridge.Pump.Machine
import KtBridge.Pump.Custody
import KtBridge.Pump.Keeping
import KtBridge.Pump.Closing
import KtBridge.Pump.Ending
import KtBridge.Worker.Machine
import KtBridge.Worker.Launch
import KtBridge.Worker.Progress
import KtBridge.Worker.Sharing
import KtBridge.Worker.Lifecycle
import KtBridge.Worker.Finality
import KtBridge.Worker.Answers
import KtBridge.TaskStream.Machine
import KtBridge.TaskStream.Delivery
import KtBridge.Poller.Delivery
import KtBridge.Poller.Waking
import KtBridge.Poller.Slices
import KtBridge.Slots.Waiting
import KtBridge.Slots.Starvation
import KtBridge.Config.Agreement
import KtBridge.Exchange.Cancelling
import KtBridge.Metrics.Looping
import KtBridge.Metrics.Replay
import KtBridge.Resource.Controller
import KtBridge.Client.Options
import KtBridge.Client.Calls
import KtBridge.Registry.Closing
import KtBridge.Runtime.Closing
import KtBridge.Exchange.Sequence
import KtBridge.Runtime.Edits
import KtBridge.Delivery.Loop
import KtBridge.Delivery.Machine
import KtBridge.Delivery.Transit
import KtBridge.Delivery.Pumping
import KtBridge.Delivery.Reception
import KtBridge.Delivery.Serving
import KtBridge.Delivery.Service
import KtBridge.Delivery.Served
import KtBridge.Delivery.Order
import KtBridge.Foundation.Monitors
import KtBridge.Foundation.Logging
import KtBridge.Foundation.Lifetime
import KtBridge.Sampler.Machine
import KtBridge.Sampler.Holding
import KtBridge.Sampler.Custody
import KtBridge.Sampler.Closing
import KtBridge.Sampler.Order
import KtBridge.Sampler.Progress
import KtBridge.Sampler.Admission
