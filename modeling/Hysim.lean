import Hysim.Lib.Program
import Hysim.Lib.Climb
import Hysim.Lib.Threads
import Hysim.Lib.Runs
import Hysim.Lib.Refine
import Hysim.Lib.Serial
import Hysim.Lib.Linger
import Hysim.Lib.Inevitable
import Hysim.Lib.Gather
import Hysim.Lib.Truncate
import Hysim.Lib.Rounding
import Hysim.Lib.Lines
import Hysim.Lib.Tokens
import Hysim.Packets
import Hysim.Actuators
import Hysim.State
import Hysim.Arming
import Hysim.Serve
import Hysim.Effects
import Hysim.Ladder
import Hysim.Disarm
import Hysim.Meaning
import Hysim.Invalid
import Hysim.Retreat
import Hysim.Failure
import Hysim.Hardware
import Hysim.Descriptors
import Hysim.Controller
import Hysim.Segmentation
import Hysim.Hangup
import Hysim.Unexpected
import Hysim.Replies
import Hysim.Record
import Hysim.Connection
import Hysim.Survival
import Hysim.Client
import Hysim.Exchange
import Hysim.Delivery
import Hysim.Telemetry
import Hysim.Shared
import Hysim.Deadlock
import Hysim.Paths
import Hysim.Pieces
import Hysim.Discipline
import Hysim.Publish
import Hysim.Wakeups
import Hysim.Liveness
import Hysim.Snapshot
import Hysim.Commands
import Hysim.Sockets
import Hysim.Cleanup
import Hysim.Reconnect
import Hysim.TelemClient
import Hysim.Progress
import Hysim.Channel
import Hysim.History
import Hysim.Feedback
import Hysim.Display
import Hysim.ControlBox
import Hysim.Key
import Hysim.PadClient
import Hysim.Success
import Hysim.BoxRuns
import Hysim.Flips
import Hysim.Pass
import Hysim.Abandon
import Hysim.Keyboard
import Hysim.Decode
import Hysim.PadMessage
import Hysim.SensorTelemetry
import Hysim.Collect
import Hysim.Pairing
import Hysim.Pwm
import Hysim.Sensors
import Hysim.Units
import Hysim.Calibration
import Hysim.Mass
import Hysim.SensorStart
import Hysim.Lib.Steps
import Hysim.Origin
import Hysim.Replay
import Hysim.Shutdown
import Hysim.Silent
import Hysim.Bench
import Hysim.Mock
import Hysim.Readings
import Hysim.Requested
import Hysim.Hand
