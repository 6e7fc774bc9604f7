import XdpExperiment.EndToEnd
import XdpExperiment.MonitorCalls

/-!
# Event-loop applications

An application with its own event loop is meant to call `poll_ring_buffer_once` instead of `run`.
The consumer that a poll needs is opened by a private start-up step, and only `run` takes the
start-up steps.
-/

namespace XdpExperiment

open Bytes Interaction

/-- What happens around one poll, whoever makes it. -/
structure Turn where
  /-- Records that appear in the ring buffer before the poll. -/
  records : List (List UInt8)
  /-- How many waiting records the poll hands over. -/
  consumed : Nat
  /-- What `ring_buffer__poll` returns. -/
  code : Int

namespace Turn

def appear (turn : Turn) : List (Tick Reply External) :=
  turn.records.map fun bytes => .external (.record bytes)

def poll (turn : Turn) : Tick Reply External :=
  .reply { code := turn.code, consumed := turn.consumed }

/-- The turn for the poll loop of `run`, which reads the stop flag before it polls. -/
def forRun (turn : Turn) : List (Tick Reply External) := turn.appear ++ [.reply {}, turn.poll]

/-- The turn for a single call. -/
def forOnce (turn : Turn) : List (Tick Reply External) := turn.appear ++ [turn.poll]

end Turn

/-- The records that an event hands to the callback. -/
def handedOver : Event signature External → List (List UInt8)
  | .call (.ringBufferPoll _ _) (poll : Poll) => poll.records
  | _ => []

/-- The packets that the handler gets in the course of a trace. -/
def deliveries (host : Endian) (trace : Trace) : List XdpData :=
  (trace.flatMap handedOver).foldl
    (fun packets record =>
      (handleRingbufSample host (some PacketHandler.recorder) record packets).2) []

namespace XdpMonitor

/-- `run` has just gone through its start-up steps. -/
structure ReachesLoop (monitor opened : XdpMonitor) (world : World)
    (ticks : List (Tick Reply External)) (started : Trace) : Prop where
  atLoop : (Config.start External monitor.run).run world.environment ticks =
    { thread := opened.pollRingBuffer.bind fun _ => .done (0, opened), trace := started }
  startUp : monitor.StartsUp (calls started) true opened

/-- Call `poll_ring_buffer_once` so many times. -/
def pollRepeatedly (monitor : XdpMonitor) (times : Nat) :
    Program signature (List Int × XdpMonitor) :=
  PublicCall.performAll (List.replicate times .pollRingBufferOnce) monitor

end XdpMonitor

/-- The application that runs the monitor: start-up, then the poll loop under a schedule. -/
def runSession (world : World) (monitor : XdpMonitor) (ticks : List (Tick Reply External))
    (turns : List Turn) : Config signature External (Int × XdpMonitor) :=
  (Config.start External monitor.run).run world.environment (ticks ++ turns.flatMap Turn.forRun)

/-- The application that polls by itself under a schedule. -/
def onceSession (world : World) (monitor : XdpMonitor) (turns : List Turn) :
    Config signature External (List Int × XdpMonitor) :=
  (Config.start External (monitor.pollRepeatedly turns.length)).run world.environment
    (turns.flatMap Turn.forOnce)

/-- Both applications deliver the same packets, and every error that the polling one sees is an
error of `ring_buffer__poll`. -/
structure EventLoopAgrees (host : Endian) (world : World) (monitor : XdpMonitor)
    (ticks : List (Tick Reply External)) (turns : List Turn) : Prop where
  sameDeliveries :
    deliveries host (onceSession world monitor turns).trace =
      deliveries host (runSession world monitor ticks turns).trace
  errorsOfPoll : ∀ results left,
    (onceSession world monitor turns).thread = .done (results, left) →
      ∀ result ∈ results, result < 0 →
        ∃ ringBuffer timeout, ∃ poll : Poll, poll.result = result ∧
          .call (.ringBufferPoll ringBuffer timeout) poll ∈ (onceSession world monitor turns).trace

/-- Without a consumer every call fails before it gets to libbpf. -/
theorem pollRepeatedly_eq {monitor : XdpMonitor} (closed : monitor.ringBuffer = none)
    (times : Nat) :
    monitor.pollRepeatedly times = .done (List.replicate times (-EINVAL), monitor) := by
  induction times with
  | zero => rfl
  | succ times ih =>
      have once : monitor.pollRingBufferOnce = .done (-EINVAL, monitor) := by
        rw [XdpMonitor.pollRingBufferOnce, if_pos closed]
        rfl
      change (monitor.pollRingBufferOnce.bind fun r =>
        (r.2.pollRepeatedly times).bind fun r' => .done (r.1 :: r'.1, r'.2)) = _
      rw [once, Program.bind_done, ih]
      rfl

/-- Polling a fresh monitor does nothing, whatever happens around it. -/
theorem onceSession_eq (world : World) (name path : String) (turns : List Turn) :
    onceSession world (.construct name path) turns =
      { thread := .done (List.replicate turns.length (-EINVAL), .construct name path)
        trace := [] } := by
  rw [onceSession, pollRepeatedly_eq rfl, Config.start, Config.run_done]

/-- The start-up steps hand nothing over. -/
theorem deliveries_startUp (host : Endian) {started : Trace}
    (only : XdpMonitor.OnlyStartUp (calls started)) : deliveries host started = [] := by
  have nothing : started.flatMap handedOver = [] := by
    apply List.flatMap_eq_nil_iff.mpr
    intro event member
    cases event with
    | external action => rfl
    | call op result =>
        obtain ⟨call, result', same, startUpCall⟩ :=
          only _ (mem_calls.mpr ⟨member, op, result, rfl⟩)
        cases same
        cases startUpCall <;> rfl
  rw [deliveries, nothing]
  rfl

/-- The two ways to drive the monitor agree only as long as nobody polls. -/
theorem eventLoop_agrees_iff {host : Endian} {world : World} {name path : String}
    {opened : XdpMonitor} {ticks : List (Tick Reply External)} {started : Trace}
    (reaches : (XdpMonitor.construct name path).ReachesLoop opened world ticks started)
    (turns : List Turn) :
    EventLoopAgrees host world (.construct name path) ticks turns ↔ turns = [] := by
  constructor
  · intro agrees
    by_contra polled
    have errors := agrees.errorsOfPoll
    rw [onceSession_eq] at errors
    obtain ⟨ringBuffer, timeout, poll, _, member⟩ :=
      errors _ _ rfl (-EINVAL) (by simpa using polled) (by decide)
    cases member
  · rintro rfl
    constructor
    · rw [onceSession_eq, runSession, List.flatMap_nil, List.append_nil, reaches.atLoop,
        deliveries_startUp host reaches.startUp.onlyStartUp]
      rfl
    · intro results left returned result member
      rw [onceSession_eq] at returned
      cases returned
      cases member

/-- A record of a captured frame appears and is polled. -/
def acknowledgementTurn : Turn where
  records := [(acknowledgement.record .little blankSlot).toBytes .little]
  consumed := 1
  code := 159

/-- The calls of a start-up that succeeds. -/
def startedTrace : Trace :=
  ((Config.start External (XdpMonitor.construct "eth0" "xdp_prog.o").run).run
    World.handlersInstalled.environment (startUpReplies 1)).trace

theorem startedTrace_reachesLoop :
    (XdpMonitor.construct "eth0" "xdp_prog.o").ReachesLoop startedMonitor World.handlersInstalled
      (startUpReplies 1) startedTrace where
  atLoop := rfl
  startUp := XdpMonitor.StartsUp.opened (.resolved eth0 (by decide)) (.loaded 1 0 rfl)
    (.found 2 3 5 (by decide)) (.attached 0 rfl) (.opened 6 4 (by decide))

theorem acknowledgementTurn_disagrees :
    EventLoopAgrees .little World.handlersInstalled (.construct "eth0" "xdp_prog.o")
        (startUpReplies 1) [acknowledgementTurn] ↔ [acknowledgementTurn] = [] :=
  eventLoop_agrees_iff startedTrace_reachesLoop [acknowledgementTurn]

/-- `run` delivers the captured frame, the application that polls by itself gets nothing. -/
theorem polled_record_not_delivered :
    deliveries .little (runSession World.handlersInstalled (.construct "eth0" "xdp_prog.o")
        (startUpReplies 1) [acknowledgementTurn]).trace = [acknowledgement.delivered] ∧
      ¬ EventLoopAgrees .little World.handlersInstalled (.construct "eth0" "xdp_prog.o")
        (startUpReplies 1) [acknowledgementTurn] := by
  have handed : (runSession World.handlersInstalled (.construct "eth0" "xdp_prog.o")
      (startUpReplies 1) [acknowledgementTurn]).trace.flatMap handedOver =
        [(acknowledgement.record .little blankSlot).toBytes .little] := rfl
  have delivered : deliveries .little (runSession World.handlersInstalled
      (.construct "eth0" "xdp_prog.o") (startUpReplies 1) [acknowledgementTurn]).trace =
        [acknowledgement.delivered] := by
    rw [deliveries, handed, List.foldl_cons, List.foldl_nil, handleRingbufSample_toBytes,
      Frame.new_record .little acknowledgement_captured]
    rfl
  refine ⟨delivered, fun agrees => ?_⟩
  have same := agrees.sameDeliveries
  rw [delivered, onceSession_eq] at same
  cases same

end XdpExperiment
