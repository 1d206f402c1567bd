import Pdx215.Gpt.Accesses
import Pdx215.Gpt.BootCycle
import Pdx215.Gpt.BootLun
import Pdx215.Gpt.BootUpdate
import Pdx215.Gpt.Commit
import Pdx215.Gpt.CrashSafety
import Pdx215.Gpt.Cycle
import Pdx215.Gpt.Device
import Pdx215.Gpt.Disk
import Pdx215.Gpt.Exchange
import Pdx215.Gpt.Handle
import Pdx215.Gpt.Header
import Pdx215.Gpt.Layout
import Pdx215.Gpt.Lookup
import Pdx215.Gpt.LunList
import Pdx215.Gpt.Mounted
import Pdx215.Gpt.Names
import Pdx215.Gpt.PartitionMap
import Pdx215.Gpt.Reload
import Pdx215.Gpt.Retry
import Pdx215.Gpt.Stages
import Pdx215.Gpt.Swap
import Pdx215.Gpt.Tables
import Pdx215.Gpt.Transfer
import Pdx215.Gpt.UfsBsg
import Pdx215.Gpt.Update
import Pdx215.Gpt.UpdateRules
import Pdx215.Hint.Balance
import Pdx215.Hint.Deadline
import Pdx215.Hint.Exit
import Pdx215.Hint.Interaction
import Pdx215.Hint.Modes
import Pdx215.Lib.Decimal
import Pdx215.Lib.Effect
import Pdx215.Lib.Exchange
import Pdx215.Lib.Fields
import Pdx215.Lib.Focus
import Pdx215.Lib.Grouping
import Pdx215.Lib.History
import Pdx215.Lib.Interpolation
import Pdx215.Lib.Istream
import Pdx215.Lib.Local
import Pdx215.Lib.Lockstep
import Pdx215.Lib.Recorded
import Pdx215.Lib.Refine
import Pdx215.Lib.Region
import Pdx215.Lib.Runs
import Pdx215.Lib.Signed
import Pdx215.Lib.Slots
import Pdx215.Lib.Threads
import Pdx215.Lib.Total
import Pdx215.Light.Backlight
import Pdx215.Light.Calls
import Pdx215.Light.Fallback
import Pdx215.Light.Independent
import Pdx215.Light.Leds
import Pdx215.Light.Panel
import Pdx215.Light.Service
import Pdx215.Light.Shown
import Pdx215.Light.Sysfs
import Pdx215.Power.Active
import Pdx215.Power.Calls
import Pdx215.Power.Close
import Pdx215.Power.Counts
import Pdx215.Power.Crew
import Pdx215.Power.Demand
import Pdx215.Power.Divisors
import Pdx215.Power.Grant
import Pdx215.Power.Halves
import Pdx215.Power.Handlers
import Pdx215.Power.Interleave
import Pdx215.Power.Manager
import Pdx215.Power.Overflow
import Pdx215.Power.Paused
import Pdx215.Power.Pid
import Pdx215.Power.Profile
import Pdx215.Power.Registry
import Pdx215.Power.Report
import Pdx215.Power.Roll
import Pdx215.Power.Service
import Pdx215.Power.Session
import Pdx215.Power.Stale
import Pdx215.Power.Teardown
import Pdx215.Power.Telling
import Pdx215.Power.Timers
import Pdx215.Power.Writes
import Pdx215.Vibrator.AlwaysOn
import Pdx215.Vibrator.Calibration
import Pdx215.Vibrator.Calls
import Pdx215.Vibrator.Capabilities
import Pdx215.Vibrator.Completion
import Pdx215.Vibrator.Construct
import Pdx215.Vibrator.Device
import Pdx215.Vibrator.Driven
import Pdx215.Vibrator.Durations
import Pdx215.Vibrator.EffectQueue
import Pdx215.Vibrator.Envelope
import Pdx215.Vibrator.ExternalControl
import Pdx215.Vibrator.Handles
import Pdx215.Vibrator.HwApi
import Pdx215.Vibrator.Levels
import Pdx215.Vibrator.LimitMap
import Pdx215.Vibrator.Limits
import Pdx215.Vibrator.PcmControl
import Pdx215.Vibrator.Rejection
import Pdx215.Vibrator.Rules
import Pdx215.Vibrator.Strokes
import Pdx215.Vibrator.Uninitialised
