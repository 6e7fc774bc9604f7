import XdpExperiment.FieldFormats
import XdpExperiment.Output
import XdpExperiment.Provenance

/-!
# What the demo shows

The demo prints a line and a hex dump for every packet. Nothing is lost that way but the destination
MAC address: the fields of each packet can be read back from the output of the whole program.
-/

namespace XdpExperiment

open Bytes Interaction Reservation

/-! ## The handler -/

/-- `DemoPacketHandler`, whose state is what has been printed so far. What the stack contains is
anything, each time. -/
def demoPacketHandler (stack : String → Nat → LineBuffers) :
    PacketHandler (Except Text.Fault String) where
  onPacketArrived packetData stdout := do
    let printed ← stdout
    let printed := printed ++ "packet: " ++ packetData.sourceMacAddress ++ "  " ++
      packetData.sourceIpv4Address ++ ":" ++ toString packetData.sourcePort ++ " -> " ++
      packetData.destinationIpv4Address ++ ":" ++ toString packetData.destinationPort ++
      "  (proto=" ++ packetData.ipProtocolName ++ ", ethertype=0x" ++
      String.ofList (hex04 packetData.etherType) ++ ", payload=" ++
      toString packetData.payloadByteCount ++ " bytes)\n"
    let hexDump ← packetData.payloadHexDump (stack printed)
    return printed ++ hexDump

/-- The handler prints to the same `stdout` as the program around it. -/
def demoConsole : Console Empty (Except Text.Fault String) where
  printf text stdout := stdout.map (· ++ text)
  method := Empty.elim

/-- The text for one packet. -/
def demoText (packetData : XdpData) : List Char :=
  "packet: ".toList ++ packetData.sourceMacAddress.toList ++ "  ".toList ++
    packetData.sourceIpv4Address.toList ++ ":".toList ++
    Nat.toDigits 10 packetData.sourcePort.toNat ++ " -> ".toList ++
    packetData.destinationIpv4Address.toList ++ ":".toList ++
    Nat.toDigits 10 packetData.destinationPort.toNat ++ "  (proto=".toList ++
    packetData.ipProtocolName.toList ++ ", ethertype=0x".toList ++ hex04 packetData.etherType ++
    ", payload=".toList ++ Nat.toDigits 10 packetData.payloadByteCount ++ " bytes)\n".toList ++
    hexLines packetData.payloadBytes (lineCount packetData.payloadBytes)

theorem onPacketArrived_demo (stack : String → Nat → LineBuffers) (packetData : XdpData)
    (printed : String) :
    (demoPacketHandler stack).onPacketArrived packetData (.ok printed) =
      .ok (printed ++ String.ofList (demoText packetData)) := by
  simp only [demoPacketHandler, payloadHexDump_eq]
  change Except.ok (_ ++ String.ofList _) = Except.ok _
  rw [Except.ok.injEq, ← String.toList_inj]
  unfold demoText
  simp only [String.toList_append]
  rw [toList_toString_port, toList_toString_port, toList_toString_nat]
  simp only [String.toList_ofList]
  simp only [List.append_assoc]

/-- Each packet gets its text, in the order of the packets; no dump fails. -/
theorem handled_demo (stack : String → Nat → LineBuffers) (printed : String)
    (packets : List XdpData) :
    handled (demoPacketHandler stack) (.ok printed) packets =
      .ok (printed ++ String.ofList (packets.flatMap demoText)) := by
  induction packets generalizing printed with
  | nil => simp [handled]
  | cons packet packets ih =>
      rw [handled, List.foldl_cons, onPacketArrived_demo, ← handled, ih, List.flatMap_cons,
        String.ofList_append, String.append_assoc]

/-! ## Reading it back -/

/-- What the demo shows of a packet. -/
structure Shown where
  sourceMacAddress : Vector UInt8 6
  sourceIpv4Address : Vector UInt8 4
  sourcePort : UInt16
  destinationIpv4Address : Vector UInt8 4
  destinationPort : UInt16
  ipProtocol : UInt8
  etherType : UInt16
  payloadBytes : List UInt8
  deriving DecidableEq

/-- A packet has these fields. -/
structure XdpData.Has (packetData : XdpData) (shown : Shown) : Prop where
  sourceMacAddress : packetData.sourceMacAddress =
    String.ofList (colonHex shown.sourceMacAddress.toList)
  sourceIpv4Address : packetData.sourceIpv4Address =
    String.ofList (dottedQuad shown.sourceIpv4Address.toList)
  sourcePort : packetData.sourcePort = shown.sourcePort
  destinationIpv4Address : packetData.destinationIpv4Address =
    String.ofList (dottedQuad shown.destinationIpv4Address.toList)
  destinationPort : packetData.destinationPort = shown.destinationPort
  ipProtocol : packetData.ipProtocol = shown.ipProtocol
  etherType : packetData.etherType = shown.etherType
  payloadBytes : packetData.payloadBytes = shown.payloadBytes

/-- The text of a packet, field by field. -/
def packetFormat : Text.Format Shown :=
  let endpoint := .pair (addressFormat ':' notDigit_colon colon_ne_dot)
    (portFormat ' ' notDigit_space)
  let endpoints := .pair endpoint (.after "-> ".toList endpoint)
  let kinds := .pair (.after " (proto=".toList protocolFormat)
    (.after " ethertype=0x".toList hexFormat)
  .convert
    (.after "packet: ".toList
      (.pair (macFormat.before "  ".toList)
        (.pair endpoints (.pair kinds (.after ", payload=".toList payloadFormat)))))
    (fun shown => (shown.sourceMacAddress, (((shown.sourceIpv4Address, shown.sourcePort),
        (shown.destinationIpv4Address, shown.destinationPort)),
      ((shown.ipProtocol, shown.etherType), shown.payloadBytes))))
    (fun fields => ⟨fields.1, fields.2.1.1.1, fields.2.1.1.2, fields.2.1.2.1, fields.2.1.2.2,
      fields.2.2.1.1, fields.2.2.1.2, fields.2.2.2⟩)
    (fun _ => rfl)

/-- The format is that of the handler. -/
theorem demoText_eq {packetData : XdpData} {shown : Shown} (has : packetData.Has shown) :
    demoText packetData = packetFormat.print shown := by
  obtain ⟨mac, source, sport, destination, dport, protocol, etherType, payload⟩ := has
  unfold demoText XdpData.ipProtocolName XdpData.payloadByteCount
  rw [mac, source, sport, destination, dport, protocol, etherType, payload]
  have colon : ":".toList = [':'] := rfl
  have arrow : " -> ".toList = [' '] ++ "-> ".toList := rfl
  have proto : "  (proto=".toList = [' '] ++ " (proto=".toList := rfl
  have ethertype : ", ethertype=0x".toList = [','] ++ " ethertype=0x".toList := rfl
  have bytes : " bytes)\n".toList = [' '] ++ "bytes)\n".toList := rfl
  rw [colon, arrow, proto, ethertype, bytes]
  simp only [String.toList_ofList]
  simp only [packetFormat, Text.Format.print_convert, Text.Format.print_after,
    Text.Format.print_pair, Text.Format.print_before, print_macFormat, print_addressFormat,
    print_portFormat, print_protocolFormat, print_hexFormat, print_payloadFormat]
  simp only [List.append_assoc]

/-- What is shown of a captured frame. -/
def Frame.shown (frame : Frame) : Shown where
  sourceMacAddress := field frame.bytes 6 6
  sourceIpv4Address := field frame.bytes 26 4
  sourcePort := frame.portValue 0
  destinationIpv4Address := field frame.bytes 30 4
  destinationPort := frame.portValue 2
  ipProtocol := frame.protocol
  etherType := ETH_P_IP
  payloadBytes := frame.slice frame.payloadOffset frame.payloadCount

theorem Frame.Captured.delivered_has {frame : Frame} (captured : frame.Captured) :
    frame.delivered.Has frame.shown := by
  have fits := captured.headers
  constructor
  · rw [shown, Frame.toList_field (by omega), delivered]
  · rw [shown, Frame.toList_field (by omega), delivered]
  · rfl
  · rw [shown, Frame.toList_field (by omega), delivered]
  · rfl
  · rfl
  · rfl
  · rfl

theorem head_packetFormat (shown : Shown) : (packetFormat.print shown).head? = some 'p' := rfl

/-- The farewell, which is the end of the output. -/
def farewellFormat : Text.Format Unit := .after XdpMonitor.Printing.farewell.toList .nothing

theorem head_farewellFormat (value : Unit) :
    ∃ other tail, farewellFormat.print value = other :: tail ∧ other ≠ 'p' :=
  ⟨'\n', "Shutting down cleanly.\n".toList, rfl, by decide⟩

/-- The output of the demo, from the banner to the farewell. -/
def sessionFormat (name : String) : Text.Format (Nat × List Shown) :=
  .convert
    (.after ("Monitoring interface '" ++ name ++ "' (ifindex=").toList
      (.pair (numberFormat ')' notDigit_parenthesis) (.after ". Press Ctrl-C to stop.\n".toList
        (.many 'p' packetFormat farewellFormat head_packetFormat head_farewellFormat))))
    (fun session => (session.1, (session.2, ()))) (fun fields => (fields.1, fields.2.1))
    (fun _ => rfl)

theorem sessionFormat_print (name : String) (index : Nat) (shown : List Shown) :
    (sessionFormat name).print (index, shown) =
      (XdpMonitor.Printing.banner name index).toList ++ shown.flatMap packetFormat.print ++
        XdpMonitor.Printing.farewell.toList := by
  have decimal : (toString (index : Int)).toList = Nat.toDigits 10 index := String.toList_ofList
  have closing : "). Press Ctrl-C to stop.\n".toList =
    [')'] ++ ". Press Ctrl-C to stop.\n".toList := rfl
  unfold XdpMonitor.Printing.banner
  simp only [String.toList_append]
  rw [decimal, closing]
  simp only [sessionFormat, farewellFormat, Text.Format.print_convert, Text.Format.print_after,
    Text.Format.print_pair, Text.Format.print_many, Text.Format.print_nothing, print_numberFormat,
    String.toList_append]
  simp only [List.append_assoc, List.append_nil]

/-! ## The program -/

section Demo

variable {ι : Type} [DecidableEq ι] {host : Endian} {foreign : Int → XdpMode → Option Nat}

/-- Slots are only reserved for frames that are to be captured, whatever is printed. -/
theorem captured_stateOf {σ Method : Type} {handler : PacketHandler σ} {console : Console Method σ}
    {boot : σ} (trace : List (Event (processSignature Method) (Activity ι))) {frame : Frame}
    (reserved : frame ∈ (stateOf host handler console foreign boot trace).machine.reservedFrames) :
    frame.Captured := by
  have invariant : (stateOf host handler console foreign boot trace).forget.machine.Invariant host
      silentHandler () := by
    clear reserved
    induction trace using List.reverseRecOn with
    | nil => exact Machine.initial_invariant
    | append_singleton trace event ih =>
        rcases event with ⟨call | action, result⟩ | activity
        · simp only [stateOf, Environment.stateAfter_append_singleton]
          rw [System.after_forget]
          exact System.after_invariant ih _
        · rw [stateOf_performed, System.performed_forget]
          exact ih
        · simp only [stateOf, Environment.stateAfter_append_singleton]
          rw [System.after_forget]
          exact System.after_invariant ih _
  exact invariant.reserved_captured reserved

/-- The output is the banner and the packets of the first frames captured, with `tail` behind. -/
def Displays (name tail : String) (trace : List (Event (processSignature Empty) (Activity ι)))
    (machine : Machine ι (Except Text.Fault String)) : Prop :=
  ∃ index frames, LookedUp name index trace ∧ frames <+: machine.reservedFrames ∧
    machine.handlerState = .ok (XdpMonitor.Printing.banner name index.val ++
      String.ofList ((frames.map Frame.shown).flatMap packetFormat.print) ++ tail)

/-- What can be seen of the demo while it runs. -/
def Displaying (name : String) (trace : List (Event (processSignature Empty) (Activity ι)))
    (machine : Machine ι (Except Text.Fault String)) : Prop :=
  machine.handlerState = .ok "" ∨ Displays name "" trace machine ∨
    Displays name XdpMonitor.Printing.farewell trace machine

/-- When the demo has ended, its output can be read. -/
def ReadableAtExit (name : String) (status : Int)
    (trace : List (Event (processSignature Empty) (Activity ι)))
    (machine : Machine ι (Except Text.Fault String)) : Prop :=
  status = 1 ∧ machine.handlerState = .ok "" ∨
    status = 0 ∧ ∃ index frames stdout, LookedUp name index trace ∧
      frames <+: machine.reservedFrames ∧ machine.handlerState = .ok stdout ∧
      (sessionFormat name).read stdout.toList = some ((index.val, frames.map Frame.shown), [])

omit [DecidableEq ι] in
theorem Displays.readable {name : String}
    {trace : List (Event (processSignature Empty) (Activity ι))}
    {machine : Machine ι (Except Text.Fault String)}
    (displays : Displays name XdpMonitor.Printing.farewell trace machine) :
    ReadableAtExit name 0 trace machine := by
  obtain ⟨index, frames, looked, reserved, state⟩ := displays
  refine .inr ⟨rfl, index, frames, _, looked, reserved, state, ?_⟩
  have reads := (sessionFormat name).read_print (index.val, frames.map Frame.shown) []
  rw [List.append_nil, sessionFormat_print] at reads
  rw [String.toList_append, String.toList_append, String.toList_ofList]
  exact reads

section Session

variable {stack : String → Nat → LineBuffers} {name : String}
variable {trace : List (Event (processSignature Empty) (Activity ι))}

/-- A session shows what the handler makes of captured frames. -/
theorem SessionShows.displays {tail : Except Text.Fault String → Except Text.Fault String}
    {text : String} (appends : ∀ printed, tail (.ok printed) = .ok (printed ++ text))
    (shows : SessionShows (demoPacketHandler stack) demoConsole (.ok "") name tail trace
      (stateOf host (demoPacketHandler stack) demoConsole foreign (.ok "") trace)) :
    Displays name text trace
      (stateOf host (demoPacketHandler stack) demoConsole foreign (.ok "") trace).machine := by
  obtain ⟨index, looked, frames, reserved, state⟩ := shows
  refine ⟨index, frames, looked, reserved, ?_⟩
  have texts : (frames.map Frame.delivered).flatMap demoText =
      (frames.map Frame.shown).flatMap packetFormat.print := by
    rw [List.flatMap_map, List.flatMap_map]
    apply List.flatMap_congr
    intro frame member
    exact demoText_eq (captured_stateOf trace (reserved.subset member)).delivered_has
  have opened : demoConsole.printf (XdpMonitor.Printing.banner name index.val) (.ok "") =
      .ok (XdpMonitor.Printing.banner name index.val) :=
    congrArg Except.ok (String.empty_append)
  rw [state, opened, handled_demo, texts, appends]

theorem Running.displaying
    (running : Running host (demoPacketHandler stack) demoConsole (.ok "") name trace
      (stateOf host (demoPacketHandler stack) demoConsole foreign (.ok "") trace)) :
    Displaying name trace
      (stateOf host (demoPacketHandler stack) demoConsole foreign (.ok "") trace).machine := by
  rcases running with fresh | shows | shows
  · exact .inl fresh.handlerState
  · exact .inr (.inl (shows.displays fun printed => by simp))
  · exact .inr (.inr (shows.displays fun _ => rfl))

end Session

theorem xdpDemoMain_displays (stack : String → Nat → LineBuffers) (strerror : Int → String)
    {program embeddedPath : String} {arguments : List String} {accepted : MonitorArguments}
    (accepts : xdpDemo program embeddedPath arguments = .ok accepted) :
    Ensures (System.processEnvironment host (demoPacketHandler stack) demoConsole foreign (.ok "") :
        Environment (processSignature Empty) (Activity ι))
      (xdpDemoMain strerror program embeddedPath arguments)
      (fun _ trace => Displaying accepted.targetInterfaceName trace
        (stateOf host (demoPacketHandler stack) demoConsole foreign (.ok "") trace).machine)
      (fun status trace => Displaying accepted.targetInterfaceName trace
          (stateOf host (demoPacketHandler stack) demoConsole foreign (.ok "") trace).machine ∧
        ReadableAtExit accepted.targetInterfaceName status trace
          (stateOf host (demoPacketHandler stack) demoConsole foreign (.ok "") trace).machine)
      [] := by
  rw [xdpDemoMain, accepts]
  refine .bind (((installSignalHandlers_confined AroundRun.not_stirs).ensures keeps_fresh
    fresh_nil).mono (fun _ _ fresh => .inl fresh.handlerState) ?_)
  rintro _ started ⟨-, fresh⟩
  refine .bind ((XdpMonitor.Printing.run_output strerror _ fresh).mono
    (fun _ _ => Running.displaying) ?_)
  rintro ⟨status, monitor⟩ reached (⟨rfl, fresh⟩ | ⟨rfl, shows⟩)
  · refine .bind (((destroy_confined AroundRun.not_stirs monitor).ensures keeps_fresh fresh).mono
      (fun _ _ fresh => .inl fresh.handlerState) ?_)
    rintro _ ended ⟨-, fresh⟩
    exact .done ⟨.inl fresh.handlerState, .inl ⟨rfl, fresh.handlerState⟩⟩
  · refine .bind (((destroy_confined AroundRun.not_stirs monitor).ensures (keeps_session _ _)
      shows).mono (fun _ _ shows => Running.displaying (.inr (.inr shows))) ?_)
    rintro _ ended ⟨-, shows⟩
    exact .done ⟨Running.displaying (.inr (.inr shows)), (shows.displays fun _ => rfl).readable⟩

end Demo
end XdpExperiment
