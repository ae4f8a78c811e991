import Gkrtos.TaskAccounting
import Gkrtos.EarliestDeadline
import Gkrtos.TaskDeath
import Gkrtos.InterruptMask
import Gkrtos.CriticalSections
import Gkrtos.DueWakeUps
import Gkrtos.NoEarlyWakeUp
import Gkrtos.TrapPath
import Gkrtos.ContextIsolation
import Gkrtos.ListCalls
import Gkrtos.SafeListCalls
import Gkrtos.SwitchRequests
import Gkrtos.TaskCreation
import Gkrtos.PidChecks
import Gkrtos.SvcallFrame
import Gkrtos.TaskEntry
import Gkrtos.Successor
import Gkrtos.FairTurns
import Gkrtos.TaskRunner
import Gkrtos.RunFrequency
import Gkrtos.RunTime
import Gkrtos.RingSearch
import Gkrtos.UserProperties
import Gkrtos.Leds
import Gkrtos.TimeSlices
import Gkrtos.Starvation
import Gkrtos.HeapUse
import Gkrtos.Crashes
import Gkrtos.Lifecycle
import Gkrtos.TaskContexts
