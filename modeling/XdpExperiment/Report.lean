import XdpExperiment.Output

/-!
# The report of the integration example

The application prints a line for each packet and counts it. At every moment its output is made of
the first frames that were captured, and the summary at the end counts exactly these.
-/

namespace XdpExperiment

open Bytes Interaction Reservation

/-- What `ingest_packet` prints for a packet. -/
def ingested (packetData : XdpData) : String :=
  let payloadBytes := packetData.payloadBytes
  let previewBytes := if payloadBytes.length < 16 then payloadBytes.length else 16
  "app: " ++ packetData.sourceIpv4Address ++ " -> " ++ packetData.destinationIpv4Address ++ ":" ++
    toString packetData.destinationPort ++ "  (proto=" ++ packetData.ipProtocolName ++
    ", payload=" ++ toString payloadBytes.length ++ " bytes)\n" ++
    String.ofList ((payloadBytes.take previewBytes).flatMap fun byte => hex02 byte ++ [' ']) ++
    "\n"

theorem onPacketArrived_app (packetData : XdpData) (application : MyApplication) :
    appPacketHandler.onPacketArrived packetData application =
      { protocolPacketCounters :=
          application.protocolPacketCounters.increment packetData.ipProtocolName
        stdout := application.stdout ++ ingested packetData } := by
  simp only [appPacketHandler, MyApplication.ingestPacket, MyApplication.mk.injEq]
  refine ⟨trivial, ?_⟩
  unfold ingested
  dsimp only
  simp only [String.append_assoc]

/-- Each packet is counted and gets its line, in the order of the packets. -/
theorem handled_app (start : MyApplication) (packets : List XdpData) :
    handled appPacketHandler start packets =
      { protocolPacketCounters :=
          (packets.map XdpData.ipProtocolName).foldl Tally.increment start.protocolPacketCounters
        stdout := start.stdout ++ String.join (packets.map ingested) } := by
  induction packets generalizing start with
  | nil => simp [handled]
  | cons packet packets ih =>
      rw [handled, List.foldl_cons, ← handled, ih, onPacketArrived_app]
      simp only [List.map_cons, List.foldl_cons, String.join_cons, String.append_assoc]

/-- The application prints to the same `stdout` as the program around it. -/
def applicationConsole : Console ApplicationMethod MyApplication where
  printf text application := { application with stdout := application.stdout ++ text }
  method
    | .printSummary, application => application.printSummary

/-- A session of the application: its counters are those of some packets, and its output is the
banner, the lines of these packets and what was printed since. -/
structure Reported (name : String) (index : Ifindex) (packets : List XdpData) (tail : String)
    (application : MyApplication) : Prop where
  counters : application.protocolPacketCounters =
    Tally.ofList (packets.map XdpData.ipProtocolName)
  stdout : application.stdout = XdpMonitor.Printing.banner name index.val ++
    String.join (packets.map ingested) ++ tail

/-- The output of a program that ran the application, with what comes behind the packets. -/
def ReportsCaptured {ι : Type} (name : String) (tail : Tally String → String)
    (trace : List (Event (processSignature ApplicationMethod) (Activity ι)))
    (machine : Machine ι MyApplication) : Prop :=
  ∃ index frames, LookedUp name index trace ∧ frames <+: machine.reservedFrames ∧
    Reported name index (frames.map Frame.delivered)
      (tail machine.handlerState.protocolPacketCounters) machine.handlerState

/-- What can be seen of the application while it runs. -/
def Reporting {ι : Type} (name : String)
    (trace : List (Event (processSignature ApplicationMethod) (Activity ι)))
    (machine : Machine ι MyApplication) : Prop :=
  machine.handlerState = .new ∨
    ReportsCaptured name (fun _ => "") trace machine ∨
    ReportsCaptured name (fun _ => XdpMonitor.Printing.farewell) trace machine ∨
    ReportsCaptured name
      (fun counters => XdpMonitor.Printing.farewell ++ MyApplication.summary counters) trace machine

/-- What can be seen of it when it has ended. -/
def ReportedAtExit {ι : Type} (name : String) (status : Int)
    (trace : List (Event (processSignature ApplicationMethod) (Activity ι)))
    (machine : Machine ι MyApplication) : Prop :=
  status = 1 ∧ machine.handlerState = .new ∨
    status = 0 ∧ ReportsCaptured name
      (fun counters => XdpMonitor.Printing.farewell ++ MyApplication.summary counters) trace machine

/-! ## Sessions of the application -/

theorem printSummary_eq (application : MyApplication) :
    application.printSummary = { application with
      stdout := application.stdout ++
        MyApplication.summary application.protocolPacketCounters } := by
  rw [← MyApplication.stdout_printSummary]
  rfl

section Report

variable {ι : Type} {host : Endian} {name : String} {system : System ι MyApplication}
variable {trace : List (Event (processSignature ApplicationMethod) (Activity ι))}

/-- What came behind the packets was printed, and depended on the counters at most. -/
theorem SessionShows.reports {tail : MyApplication → MyApplication} {text : Tally String → String}
    (appends : ∀ application, tail application = { application with
      stdout := application.stdout ++ text application.protocolPacketCounters })
    (shows : SessionShows appPacketHandler applicationConsole .new name tail trace system) :
    ReportsCaptured name text trace system.machine := by
  obtain ⟨index, looked, frames, reserved, state⟩ := shows
  rw [handled_app, appends] at state
  refine ⟨index, frames, looked, reserved, ?_⟩
  rw [state]
  constructor
  · rfl
  · simp [applicationConsole, MyApplication.new]

theorem Running.reporting
    (running : Running host appPacketHandler applicationConsole .new name trace system) :
    Reporting name trace system.machine := by
  rcases running with fresh | shows | shows
  · exact .inl fresh.handlerState
  · exact .inr (.inl (shows.reports fun application => by simp))
  · exact .inr (.inr (.inl (shows.reports fun _ => rfl)))

/-- The summary is printed once the monitor is done. -/
theorem summary_reports
    (shows : SessionShows appPacketHandler applicationConsole .new name
      (applicationConsole.method .printSummary ∘
        applicationConsole.printf XdpMonitor.Printing.farewell) trace system) :
    ReportsCaptured name
      (fun counters => XdpMonitor.Printing.farewell ++ MyApplication.summary counters) trace
      system.machine := by
  apply shows.reports
  intro application
  change MyApplication.printSummary { application with
    stdout := application.stdout ++ XdpMonitor.Printing.farewell } = _
  rw [printSummary_eq]
  simp only [String.append_assoc]

theorem ReportedAtExit.reporting {status : Int} {machine : Machine ι MyApplication}
    (reported : ReportedAtExit name status trace machine) : Reporting name trace machine := by
  rcases reported with ⟨-, new⟩ | ⟨-, captured⟩
  · exact .inl new
  · exact .inr (.inr (.inr captured))

end Report

/-! ## The program -/

variable {ι : Type} [DecidableEq ι] {host : Endian} {foreign : Int → XdpMode → Option Nat}

theorem xdpAppIntegrationExampleMain_reports (strerror : Int → String)
    {program embeddedPath : String} {arguments : List String} {accepted : MonitorArguments}
    (accepts : xdpAppIntegrationExample program embeddedPath arguments = .ok accepted) :
    Ensures (System.processEnvironment host appPacketHandler applicationConsole foreign .new :
        Environment (processSignature ApplicationMethod) (Activity ι))
      (xdpAppIntegrationExampleMain strerror program embeddedPath arguments)
      (fun _ trace => Reporting accepted.targetInterfaceName trace
        (stateOf host appPacketHandler applicationConsole foreign .new trace).machine)
      (fun status trace => ReportedAtExit accepted.targetInterfaceName status trace
        (stateOf host appPacketHandler applicationConsole foreign .new trace).machine) [] := by
  rw [xdpAppIntegrationExampleMain, accepts]
  refine .bind (((installSignalHandlers_confined AroundRun.not_stirs).ensures keeps_fresh
    fresh_nil).mono (fun _ _ fresh => .inl fresh.handlerState) ?_)
  rintro _ started ⟨-, fresh⟩
  refine .bind ((XdpMonitor.Printing.run_output strerror _ fresh).mono
    (fun _ _ => Running.reporting) ?_)
  rintro ⟨exitCode, monitor⟩ reached (⟨rfl, fresh⟩ | ⟨rfl, shows⟩)
  · refine .bind (((destroy_confined AroundRun.not_stirs monitor).ensures keeps_fresh fresh).mono
      (fun _ _ fresh => .inl fresh.handlerState) ?_)
    rintro _ ended ⟨-, fresh⟩
    exact .done (.inl ⟨rfl, fresh.handlerState⟩)
  · refine XdpMonitor.Printing.perform_ensures (keeps_session _ _).stable (fun reached shows =>
      ⟨@Running.reporting _ host _ _ _ (.inr (.inr shows)), fun _ => ?_⟩) shows
    obtain ⟨index, looked, shown⟩ := shows
    have summarized := shown.method applicationConsole .printSummary
    rw [← stateOf_performed _ _ ()] at summarized
    refine .bind (((destroy_confined AroundRun.not_stirs monitor).ensures (keeps_session _ _)
      ⟨index, List.mem_append_left _ looked, summarized⟩).mono
      (fun _ _ shows => .inr (.inr (.inr (summary_reports shows)))) ?_)
    rintro _ ended ⟨-, shows⟩
    exact .done (.inr ⟨rfl, summary_reports shows⟩)

end XdpExperiment
