import SnapEmu.Broker.DataLog

/-! The state of a connection for the scheduler. -/
namespace SnapEmu.Broker

inductive PauseReason where
  | Caughtup | InflightFull | Busy
  deriving DecidableEq

inductive Status where
  | Ready
  | Paused (reason : PauseReason)
  deriving DecidableEq

inductive ScheduleReason where
  | Init | NewFilter | FreshData | IncomingAck | Ready
  deriving DecidableEq

/-- The requests of a connection that are not parked, and whether it may go on. -/
structure Tracker where
  id : ClientId
  dataRequests : List DataRequest
  status : Status
  deriving DecidableEq

namespace Tracker

def new (clientId : ClientId) : Tracker where
  id := clientId
  dataRequests := []
  status := .Paused .Busy

/-- Whether the reason ends the pause. -/
def wakes : ScheduleReason → PauseReason → Bool
  | .Init, _ => true
  | .NewFilter, previous => previous = .Caughtup
  | .FreshData, previous => previous = .Caughtup
  | .IncomingAck, previous => previous ≠ .Busy
  | .Ready, _ => true

def tryReady (tracker : Tracker) (reason : ScheduleReason) : Tracker × Option PauseReason :=
  match tracker.status with
  | .Ready => (tracker, none)
  | .Paused previous =>
      if wakes reason previous then ({ tracker with status := .Ready }, some previous)
      else (tracker, none)

def pause (tracker : Tracker) (reason : PauseReason) : Tracker :=
  { tracker with status := .Paused reason }

def registerDataRequest (tracker : Tracker) (request : DataRequest) : Tracker :=
  { tracker with dataRequests := tracker.dataRequests ++ [request] }

def unregisterDataRequest (tracker : Tracker) (filter : FilterName) : Tracker :=
  { tracker with dataRequests := tracker.dataRequests.filter (·.filter ≠ filter) }

end Tracker
end SnapEmu.Broker
