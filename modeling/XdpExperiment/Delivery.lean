import Mathlib.Logic.Function.Basic
import XdpExperiment.EndToEnd
import XdpExperiment.Reservation

/-!
# From many processors to one handler

Every processor runs `xdp_capture_packet` on the frames that arrive at it, in steps that mix with
those of the other processors and with the consumer. A reserve may fail at any time and a slot may
contain anything when it is reserved.
-/

namespace XdpExperiment

open Bytes Reservation

/-- The ring buffer. Each slot is remembered with the processor and the frame it is for. -/
abbrev RingBuffer (ι : Type*) := Queue (ι × Frame) XdpPacket

/-- Where a processor stands in `xdp_capture_packet`. -/
inductive Cpu
  /-- Between two runs, with the verdict of the last one. -/
  | waiting (verdict : Option XdpAction)
  /-- Before the reserve. -/
  | parsed (frame : Frame) (headers : Headers)
  /-- With the slot at a position of the ring buffer, still to be filled. -/
  | reserved (frame : Frame) (headers : Headers) (index : Nat)
  /-- Before the submit. -/
  | filled (frame : Frame) (index : Nat)
  | faulted (fault : MemoryFault)

/-- The processors, the ring buffer and the state of the handler. -/
structure Machine (ι σ : Type*) where
  ring : RingBuffer ι
  cpus : ι → Cpu
  handlerState : σ

inductive Move (ι : Type*)
  | receive (cpu : ι) (frame : Frame)
  /-- With the stale contents of the slot, or `none` if the reserve fails. -/
  | reserve (cpu : ι) (slot : Option XdpPacket)
  | fill (cpu : ι)
  | submit (cpu : ι)
  /-- `ring_buffer__poll` as far as some number of records. -/
  | poll (budget : Nat)

/-- The loop of `ring_buffer__poll`: pass on committed slots in order until one is not committed
or the callback asks to stop. -/
def pollRecords {ι σ : Type*} (host : Endian) (handler : PacketHandler σ) :
    Nat → RingBuffer ι → σ → RingBuffer ι × σ
  | 0, ring, state => (ring, state)
  | budget + 1, ring, state =>
      match ring.next with
      | none => (ring, state)
      | some slot =>
          let (verdict, state') :=
            handleRingbufSample host (some handler) (slot.contents.toBytes host) state
          if verdict = 0 then pollRecords host handler budget ring.advance state'
          else (ring, state')

namespace Machine

variable {ι σ : Type*} [DecidableEq ι]

def initial (state : σ) : Machine ι σ := ⟨.empty, fun _ => .waiting none, state⟩

def setCpu (machine : Machine ι σ) (cpu : ι) (position : Cpu) : Machine ι σ :=
  { machine with cpus := Function.update machine.cpus cpu position }

def receive (host : Endian) (cpu : ι) (frame : Frame) (machine : Machine ι σ) :
    Option (Machine ι σ) :=
  match machine.cpus cpu with
  | .waiting _ =>
      match parseHeaders host frame with
      | .ok (some headers) => some (machine.setCpu cpu (.parsed frame headers))
      | .ok none => some (machine.setCpu cpu (.waiting (some .pass)))
      | .error fault => some (machine.setCpu cpu (.faulted fault))
  | _ => none

def reserve (cpu : ι) (slot : Option XdpPacket) (machine : Machine ι σ) : Option (Machine ι σ) :=
  match machine.cpus cpu with
  | .parsed frame headers =>
      match slot with
      | none => some (machine.setCpu cpu (.waiting (some .pass)))
      | some stale =>
          some { machine.setCpu cpu (.reserved frame headers machine.ring.slots.length) with
            ring := machine.ring.reserve (cpu, frame) stale }
  | _ => none

def fill (host : Endian) (cpu : ι) (machine : Machine ι σ) : Option (Machine ι σ) :=
  match machine.cpus cpu with
  | .reserved frame headers index =>
      match machine.ring.slots[index]? with
      | none => none
      | some slot =>
          match fillRecord host frame headers slot.contents with
          | .ok record =>
              some { machine.setCpu cpu (.filled frame index) with
                ring := machine.ring.write index record }
          | .error fault => some (machine.setCpu cpu (.faulted fault))
  | _ => none

def submit (cpu : ι) (machine : Machine ι σ) : Option (Machine ι σ) :=
  match machine.cpus cpu with
  | .filled _ index =>
      some { machine.setCpu cpu (.waiting (some .pass)) with ring := machine.ring.commit index }
  | _ => none

def poll (host : Endian) (handler : PacketHandler σ) (budget : Nat) (machine : Machine ι σ) :
    Machine ι σ :=
  let (ring, state) := pollRecords host handler budget machine.ring machine.handlerState
  { machine with ring := ring, handlerState := state }

/-- One step, or `none` if it cannot be taken. -/
def step (host : Endian) (handler : PacketHandler σ) :
    Move ι → Machine ι σ → Option (Machine ι σ)
  | .receive cpu frame, machine => machine.receive host cpu frame
  | .reserve cpu slot, machine => machine.reserve cpu slot
  | .fill cpu, machine => machine.fill host cpu
  | .submit cpu, machine => machine.submit cpu
  | .poll budget, machine => some (machine.poll host handler budget)

/-- The frames whose reserve succeeded, in the order of reservation. -/
def reservedFrames (machine : Machine ι σ) : List Frame := machine.ring.purposes.map Prod.snd

/-- What can be reached from the initial state, whatever the order of the steps. -/
inductive Reachable (host : Endian) (handler : PacketHandler σ) (start : σ) : Machine ι σ → Prop
  | initial : Reachable host handler start (initial start)
  | step {machine machine' : Machine ι σ} (move : Move ι) :
      Reachable host handler start machine → machine.step host handler move = some machine' →
        Reachable host handler start machine'

end Machine

/-! ## The invariant -/

section Invariant

variable {ι σ : Type*}

/-- The record in a slot is that of the frame that the slot was reserved for. -/
def RightRecord (host : Endian) (purpose : ι × Frame) (record : XdpPacket) : Prop :=
  purpose.2.Captured ∧ ∃ slot, record = purpose.2.record host slot

/-- What holds of a processor at each place of the program. -/
def Cpu.Valid (host : Endian) (ring : RingBuffer ι) (cpu : ι) : Cpu → Prop
  | .waiting verdict => ∀ action, verdict = some action → action = .pass
  | .parsed frame headers => frame.Captured ∧ headers = frame.headers host
  | .reserved frame headers index =>
      frame.Captured ∧ headers = frame.headers host ∧ ∃ stale, ring.Open index (cpu, frame) stale
  | .filled frame index =>
      ∃ record, ring.Open index (cpu, frame) record ∧ RightRecord host (cpu, frame) record
  | .faulted _ => False

/-- The processor has reserved the slot and not yet submitted it. -/
def Cpu.Holds : Cpu → Nat → Prop
  | .reserved _ _ held, index => held = index
  | .filled _ held, index => held = index
  | _, _ => False

@[simp] theorem holds_waiting (verdict : Option XdpAction) (index : Nat) :
    ¬ (Cpu.waiting verdict).Holds index := id

@[simp] theorem holds_parsed (frame : Frame) (headers : Headers) (index : Nat) :
    ¬ (Cpu.parsed frame headers).Holds index := id

@[simp] theorem holds_reserved (frame : Frame) (headers : Headers) (held index : Nat) :
    (Cpu.reserved frame headers held).Holds index ↔ held = index := .rfl

@[simp] theorem holds_filled (frame : Frame) (held index : Nat) :
    (Cpu.filled frame held).Holds index ↔ held = index := .rfl

/-- The state of a handler after some packets. -/
def handled (handler : PacketHandler σ) (start : σ) (packets : List XdpData) : σ :=
  packets.foldl (fun state packet => handler.onPacketArrived packet state) start

namespace Machine

structure Invariant (host : Endian) (handler : PacketHandler σ) (start : σ)
    (machine : Machine ι σ) : Prop where
  cpus : ∀ cpu, (machine.cpus cpu).Valid host machine.ring cpu
  held : ∀ index cpu frame contents,
    machine.ring.Open index (cpu, frame) contents → (machine.cpus cpu).Holds index
  sound : machine.ring.Sound (RightRecord host)
  handler : machine.handlerState =
    handled handler start (machine.ring.taken.map fun slot => slot.purpose.2.delivered)

end Machine

/-- Only the processor that a slot was reserved for can hold it. -/
theorem Cpu.Valid.open_of_holds {host : Endian} {ring : RingBuffer ι} {cpu : ι} {position : Cpu}
    (valid : position.Valid host ring cpu) {index : Nat} (holds : position.Holds index) :
    ∃ frame contents, ring.Open index (cpu, frame) contents := by
  cases position with
  | reserved frame headers held =>
      obtain ⟨_, _, stale, isOpen⟩ := valid
      cases holds
      exact ⟨frame, stale, isOpen⟩
  | filled frame held =>
      obtain ⟨record, isOpen, _⟩ := valid
      cases holds
      exact ⟨frame, record, isOpen⟩
  | waiting verdict => cases holds
  | parsed frame headers => cases holds
  | faulted fault => cases holds

/-- A processor keeps what it has as long as the slots it holds stay as they are. -/
theorem Cpu.Valid.mono {host : Endian} {ring ring' : RingBuffer ι} {cpu : ι} {position : Cpu}
    (valid : position.Valid host ring cpu)
    (kept : ∀ index frame contents, position.Holds index →
      ring.Open index (cpu, frame) contents → ring'.Open index (cpu, frame) contents) :
    position.Valid host ring' cpu := by
  cases position with
  | reserved frame headers held =>
      obtain ⟨captured, parsed, stale, isOpen⟩ := valid
      exact ⟨captured, parsed, stale, kept held frame stale rfl isOpen⟩
  | filled frame held =>
      obtain ⟨record, isOpen, right⟩ := valid
      exact ⟨record, kept held frame record rfl isOpen, right⟩
  | waiting verdict => exact valid
  | parsed frame headers => exact valid
  | faulted fault => exact valid

/-! ## What a step keeps -/

theorem handled_concat (handler : PacketHandler σ) (start : σ) (packets : List XdpData)
    (packet : XdpData) :
    handled handler start (packets ++ [packet]) =
      handler.onPacketArrived packet (handled handler start packets) := by
  simp [handled]

theorem handled_recorder (packets : List XdpData) :
    handled PacketHandler.recorder [] packets = packets := by
  induction packets using List.reverseRecOn with
  | nil => rfl
  | append_singleton packets packet ih =>
      rw [handled_concat, ih]
      rfl

/-- Polling takes slots from the front of the queue and hands on what they were reserved for. -/
theorem pollRecords_spec {host : Endian} {handler : PacketHandler σ} {start : σ} (budget : Nat)
    {ring : RingBuffer ι} {state : σ} (sound : ring.Sound (RightRecord host))
    (before : state = handled handler start (ring.taken.map fun slot => slot.purpose.2.delivered)) :
    ∀ ring' state', pollRecords host handler budget ring state = (ring', state') →
      ring'.slots = ring.slots ∧ ring'.Sound (RightRecord host) ∧
        state' = handled handler start (ring'.taken.map fun slot => slot.purpose.2.delivered) := by
  induction budget generalizing ring state with
  | zero =>
      intro ring' state' result
      cases result
      exact ⟨rfl, sound, before⟩
  | succ budget ih =>
      intro ring' state' result
      rw [pollRecords] at result
      cases available : ring.next with
      | none =>
          rw [available] at result
          cases result
          exact ⟨rfl, sound, before⟩
      | some slot =>
          obtain ⟨captured, stale, contents⟩ := sound.next_right available
          rw [available] at result
          simp only [handleRingbufSample_toBytes, contents, Frame.new_record host captured,
            if_true] at result
          apply ih (sound.advance available) _ ring' state' result
          rw [Queue.taken_advance available, List.map_append, List.map_singleton, handled_concat,
            ← before]

/-- Polling enough takes all there is, once no slot is open. -/
theorem pollRecords_drains {host : Endian} {handler : PacketHandler σ} (budget : Nat)
    {ring : RingBuffer ι} {state : σ} (sound : ring.Sound (RightRecord host))
    (settled : ∀ index purpose contents, ¬ ring.Open index purpose contents)
    (enough : ring.slots.length - ring.consumed ≤ budget) :
    (pollRecords host handler budget ring state).1.consumed = ring.slots.length := by
  have consumed_le := sound.consumed_le
  induction budget generalizing ring state with
  | zero =>
      change ring.consumed = ring.slots.length
      omega
  | succ budget ih =>
      rw [pollRecords]
      by_cases left : ring.consumed < ring.slots.length
      · obtain ⟨slot, available⟩ := Queue.exists_next settled left
        simp only [available, handleRingbufSample_toBytes, if_true]
        apply ih (sound.advance available) settled _ (sound.advance available).consumed_le
        change ring.slots.length - (ring.consumed + 1) ≤ budget
        omega
      · rw [Queue.next_eq_none (by omega)]
        change ring.consumed = ring.slots.length
        omega

namespace Machine

variable {host : Endian} {handler : PacketHandler σ} {start : σ} {machine machine' : Machine ι σ}

theorem initial_invariant : (initial start : Machine ι σ).Invariant host handler start where
  cpus := by
    intro cpu action none
    cases none
  held := by
    intro index cpu frame contents isOpen
    exact absurd isOpen.lt (Nat.not_lt_zero index)
  sound := Queue.sound_empty
  handler := rfl

/-- An open slot is held by one processor. -/
theorem Invariant.owner_unique (invariant : machine.Invariant host handler start) {index : Nat}
    {cpu other : ι} {frame : Frame} {contents : XdpPacket}
    (isOpen : machine.ring.Open index (cpu, frame) contents)
    (holds : (machine.cpus other).Holds index) : other = cpu := by
  obtain ⟨owned, found, alsoOpen⟩ := (invariant.cpus other).open_of_holds holds
  rw [Queue.Open, isOpen] at alsoOpen
  cases alsoOpen
  rfl

/-- A slot that is open for another processor is not the one held. -/
theorem Invariant.elsewhere (invariant : machine.Invariant host handler start) {index other : Nat}
    {cpu owner : ι} {owned : Frame} {contents : XdpPacket}
    (holds : (machine.cpus cpu).Holds index)
    (isOpen : machine.ring.Open other (owner, owned) contents) (different : owner ≠ cpu) :
    other ≠ index := by
  rintro rfl
  exact different (invariant.owner_unique isOpen holds).symm

theorem poll_invariant (invariant : machine.Invariant host handler start) (budget : Nat) :
    (machine.poll host handler budget).Invariant host handler start := by
  obtain ⟨slots, sound, handled⟩ := pollRecords_spec budget invariant.sound invariant.handler
    _ _ rfl
  have sameOpen : ∀ index purpose contents,
      (machine.poll host handler budget).ring.Open index purpose contents ↔
        machine.ring.Open index purpose contents := by
    intro index purpose contents
    rw [Queue.Open, Queue.Open, ← slots]
    rfl
  constructor
  · intro cpu
    apply (invariant.cpus cpu).mono
    intro index frame contents _ isOpen
    exact (sameOpen index (cpu, frame) contents).mpr isOpen
  · intro index cpu frame contents isOpen
    exact invariant.held index cpu frame contents ((sameOpen _ _ _).mp isOpen)
  · exact sound
  · exact handled

/-- The handler got the first frames that were reserved for, each of them once and in order. -/
theorem Invariant.delivered (invariant : machine.Invariant host handler start) :
    machine.ring.consumed ≤ machine.reservedFrames.length ∧
      machine.handlerState = handled handler start
        ((machine.reservedFrames.take machine.ring.consumed).map Frame.delivered) := by
  constructor
  · have consumed_le := invariant.sound.consumed_le
    simpa [reservedFrames, Queue.purposes] using consumed_le
  · rw [invariant.handler, reservedFrames, ← List.map_take, ← Queue.taken_purposes]
    simp [Function.comp_def]

/-- Nothing is lost: once every slot is submitted, polling delivers all frames reserved for. -/
theorem Invariant.drained (invariant : machine.Invariant host handler start)
    (settled : ∀ index purpose contents, ¬ machine.ring.Open index purpose contents) {budget : Nat}
    (enough : machine.reservedFrames.length ≤ budget) :
    (machine.poll host handler budget).handlerState =
      handled handler start (machine.reservedFrames.map Frame.delivered) := by
  obtain ⟨slots, _, _⟩ := pollRecords_spec budget invariant.sound invariant.handler _ _ rfl
  have frames : (machine.poll host handler budget).reservedFrames = machine.reservedFrames := by
    simp only [reservedFrames, Queue.purposes, poll, slots]
  have length : machine.reservedFrames.length = machine.ring.slots.length := by
    simp [reservedFrames, Queue.purposes]
  have all : (machine.poll host handler budget).ring.consumed = machine.reservedFrames.length := by
    rw [length]
    exact pollRecords_drains budget invariant.sound settled (by omega)
  obtain ⟨_, delivered⟩ := (poll_invariant invariant budget).delivered
  rw [delivered, frames, all, List.take_length]

variable [DecidableEq ι]

/-- What is left to show of the processors after one of them moved. -/
theorem Invariant.update (invariant : machine.Invariant host handler start) {cpu : ι}
    {position : Cpu} {ring : RingBuffer ι} (valid : position.Valid host ring cpu)
    (kept : ∀ index other frame contents, other ≠ cpu →
      machine.ring.Open index (other, frame) contents → ring.Open index (other, frame) contents)
    (back : ∀ index other frame contents, ring.Open index (other, frame) contents →
      (other = cpu → position.Holds index) ∧
      (other ≠ cpu → ∃ before, machine.ring.Open index (other, frame) before))
    (sound : ring.Sound (RightRecord host)) (taken : ring.taken = machine.ring.taken) :
    Invariant host handler start
      { machine with ring := ring, cpus := Function.update machine.cpus cpu position } where
  cpus := by
    intro other
    by_cases same : other = cpu
    · subst same
      simpa using valid
    · simp only [Function.update_of_ne same]
      apply (invariant.cpus other).mono
      intro index frame contents _ isOpen
      exact kept index other frame contents same isOpen
  held := by
    intro index other frame contents isOpen
    obtain ⟨own, others⟩ := back index other frame contents isOpen
    by_cases same : other = cpu
    · subst same
      simpa using own rfl
    · simp only [Function.update_of_ne same]
      obtain ⟨before, wasOpen⟩ := others same
      exact invariant.held index other frame before wasOpen
  sound := sound
  handler := by
    change machine.handlerState = _
    rw [taken]
    exact invariant.handler

/-- A processor that holds no slot moves to a place without a slot. -/
theorem Invariant.setCpu (invariant : machine.Invariant host handler start) {cpu : ι}
    {position : Cpu} (valid : position.Valid host machine.ring cpu)
    (free : ∀ index, ¬ (machine.cpus cpu).Holds index) :
    (machine.setCpu cpu position).Invariant host handler start := by
  apply invariant.update valid (fun _ _ _ _ _ isOpen => isOpen) _ invariant.sound rfl
  intro index other frame contents isOpen
  constructor
  · rintro rfl
    exact absurd (invariant.held index other frame contents isOpen) (free index)
  · intro _
    exact ⟨contents, isOpen⟩

/-! ### What each step can do -/

theorem receive_eq {cpu : ι} {verdict : Option XdpAction}
    (waiting : machine.cpus cpu = .waiting verdict) (frame : Frame) :
    machine.receive host cpu frame =
      some (machine.setCpu cpu (if frame.Captured then .parsed frame (frame.headers host)
        else .waiting (some .pass))) := by
  rw [receive, waiting, parseHeaders_eq]
  by_cases captured : frame.Captured
  · rw [if_pos captured, if_pos captured]
    rfl
  · rw [if_neg captured, if_neg captured]
    rfl

theorem receive_cases {cpu : ι} {frame : Frame}
    (step : machine.receive host cpu frame = some machine') :
    ∃ verdict, machine.cpus cpu = .waiting verdict ∧
      machine' = machine.setCpu cpu (if frame.Captured then .parsed frame (frame.headers host)
        else .waiting (some .pass)) := by
  cases position : machine.cpus cpu with
  | waiting verdict =>
      rw [receive_eq position] at step
      cases step
      exact ⟨verdict, rfl, rfl⟩
  | parsed frame headers => simp [receive, position] at step
  | reserved frame headers index => simp [receive, position] at step
  | filled frame index => simp [receive, position] at step
  | faulted fault => simp [receive, position] at step

theorem reserve_cases {cpu : ι} {slot : Option XdpPacket}
    (step : machine.reserve cpu slot = some machine') :
    ∃ frame headers, machine.cpus cpu = .parsed frame headers ∧
      ((slot = none ∧ machine' = machine.setCpu cpu (.waiting (some .pass))) ∨
        ∃ stale, slot = some stale ∧
          machine' =
            { machine.setCpu cpu (.reserved frame headers machine.ring.slots.length) with
              ring := machine.ring.reserve (cpu, frame) stale }) := by
  cases position : machine.cpus cpu with
  | parsed frame headers =>
      rw [reserve, position] at step
      cases slot with
      | none =>
          cases step
          exact ⟨frame, headers, rfl, .inl ⟨rfl, rfl⟩⟩
      | some stale =>
          cases step
          exact ⟨frame, headers, rfl, .inr ⟨stale, rfl, rfl⟩⟩
  | waiting verdict => simp [reserve, position] at step
  | reserved frame headers index => simp [reserve, position] at step
  | filled frame index => simp [reserve, position] at step
  | faulted fault => simp [reserve, position] at step

theorem fill_eq {cpu : ι} {frame : Frame} {index : Nat} {stale : XdpPacket}
    (captured : frame.Captured)
    (position : machine.cpus cpu = .reserved frame (frame.headers host) index)
    (isOpen : machine.ring.Open index (cpu, frame) stale) :
    machine.fill host cpu =
      some { machine.setCpu cpu (.filled frame index) with
        ring := machine.ring.write index (frame.record host stale) } := by
  have present : machine.ring.slots[index]? = some ⟨(cpu, frame), stale, false⟩ := isOpen
  simp only [fill, position, present, fillRecord_eq host captured.headers]
  rfl

/-- What a fill does to a slot that the invariant knows to be there. -/
theorem fill_cases {cpu : ι} (invariant : machine.Invariant host handler start)
    (step : machine.fill host cpu = some machine') :
    ∃ frame index stale, frame.Captured ∧
      machine.cpus cpu = .reserved frame (frame.headers host) index ∧
      machine.ring.Open index (cpu, frame) stale ∧
      machine' = { machine.setCpu cpu (.filled frame index) with
        ring := machine.ring.write index (frame.record host stale) } := by
  cases position : machine.cpus cpu with
  | reserved frame headers index =>
      have valid := invariant.cpus cpu
      rw [position] at valid
      obtain ⟨captured, rfl, stale, isOpen⟩ := valid
      rw [fill_eq captured position isOpen] at step
      cases step
      exact ⟨frame, index, stale, captured, rfl, isOpen, rfl⟩
  | waiting verdict => simp [fill, position] at step
  | parsed frame headers => simp [fill, position] at step
  | filled frame index => simp [fill, position] at step
  | faulted fault => simp [fill, position] at step

theorem submit_cases {cpu : ι} (step : machine.submit cpu = some machine') :
    ∃ frame index, machine.cpus cpu = .filled frame index ∧
      machine' = { machine.setCpu cpu (.waiting (some .pass)) with
        ring := machine.ring.commit index } := by
  cases position : machine.cpus cpu with
  | filled frame index =>
      rw [submit, position] at step
      cases step
      exact ⟨frame, index, rfl, rfl⟩
  | waiting verdict => simp [submit, position] at step
  | parsed frame headers => simp [submit, position] at step
  | reserved frame headers index => simp [submit, position] at step
  | faulted fault => simp [submit, position] at step

/-! ### What each step keeps -/

theorem receive_invariant {cpu : ι} {frame : Frame}
    (invariant : machine.Invariant host handler start)
    (step : machine.receive host cpu frame = some machine') :
    machine'.Invariant host handler start := by
  obtain ⟨verdict, position, rfl⟩ := receive_cases step
  apply invariant.setCpu _ (by simp [position])
  split
  · rename_i captured
    exact ⟨captured, rfl⟩
  · exact fun _ same => (Option.some.inj same).symm

theorem reserve_invariant {cpu : ι} {slot : Option XdpPacket}
    (invariant : machine.Invariant host handler start)
    (step : machine.reserve cpu slot = some machine') :
    machine'.Invariant host handler start := by
  obtain ⟨frame, headers, position, outcome⟩ := reserve_cases step
  have free : ∀ index, ¬ (machine.cpus cpu).Holds index := by simp [position]
  have valid := invariant.cpus cpu
  rw [position] at valid
  obtain ⟨captured, parsed⟩ := valid
  obtain ⟨-, rfl⟩ | ⟨stale, -, rfl⟩ := outcome
  · exact invariant.setCpu (fun _ same => (Option.some.inj same).symm) free
  · apply invariant.update _ _ _ (invariant.sound.reserve _ _)
      (Queue.taken_reserve invariant.sound _ _)
    · exact ⟨captured, parsed, stale, Queue.open_reserve_iff.mpr (.inr ⟨rfl, rfl, rfl⟩)⟩
    · intro index other owned contents _ isOpen
      exact Queue.open_reserve_iff.mpr (.inl isOpen)
    · intro index other owned contents isOpen
      rcases Queue.open_reserve_iff.mp isOpen with old | ⟨last, purpose, _⟩
      · constructor
        · rintro rfl
          exact absurd (invariant.held index other owned contents old) (free index)
        · intro _
          exact ⟨contents, old⟩
      · cases purpose
        constructor
        · intro _
          exact last.symm
        · intro different
          exact absurd rfl different

theorem fill_invariant {cpu : ι} (invariant : machine.Invariant host handler start)
    (step : machine.fill host cpu = some machine') : machine'.Invariant host handler start := by
  obtain ⟨frame, index, stale, captured, position, isOpen, rfl⟩ := fill_cases invariant step
  have holds : (machine.cpus cpu).Holds index := by simp [position]
  apply invariant.update _ _ _ (invariant.sound.write isOpen _)
    (Queue.taken_modify invariant.sound isOpen _)
  · refine ⟨frame.record host stale, ?_, captured, stale, rfl⟩
    exact Queue.open_write_iff.mpr (.inr ⟨rfl, rfl, stale, isOpen⟩)
  · intro other owner owned contents different otherOpen
    have elsewhere := invariant.elsewhere holds otherOpen different
    exact Queue.open_write_iff.mpr (.inl ⟨elsewhere, otherOpen⟩)
  · intro other owner owned contents otherOpen
    rcases Queue.open_write_iff.mp otherOpen with ⟨_, old⟩ | ⟨rfl, _, before, old⟩
    · constructor
      · rintro rfl
        have held := invariant.held other owner owned contents old
        rwa [position] at held
      · intro _
        exact ⟨contents, old⟩
    · constructor
      · intro _
        rfl
      · intro _
        exact ⟨before, old⟩

theorem submit_invariant {cpu : ι} (invariant : machine.Invariant host handler start)
    (step : machine.submit cpu = some machine') : machine'.Invariant host handler start := by
  obtain ⟨frame, index, position, rfl⟩ := submit_cases step
  have valid := invariant.cpus cpu
  rw [position] at valid
  obtain ⟨record, isOpen, right⟩ := valid
  have holds : (machine.cpus cpu).Holds index := by simp [position]
  apply invariant.update _ _ _ (invariant.sound.commit isOpen right)
    (Queue.taken_modify invariant.sound isOpen _)
  · exact fun _ same => (Option.some.inj same).symm
  · intro other owner owned contents different otherOpen
    have elsewhere := invariant.elsewhere holds otherOpen different
    exact Queue.open_commit_iff.mpr ⟨elsewhere, otherOpen⟩
  · intro other owner owned contents otherOpen
    obtain ⟨elsewhere, old⟩ := Queue.open_commit_iff.mp otherOpen
    constructor
    · rintro rfl
      have held := invariant.held other owner owned contents old
      rw [position, holds_filled] at held
      exact absurd held.symm elsewhere
    · intro _
      exact ⟨contents, old⟩

theorem step_invariant (move : Move ι) (invariant : machine.Invariant host handler start)
    (step : machine.step host handler move = some machine') :
    machine'.Invariant host handler start := by
  cases move with
  | receive cpu frame => exact receive_invariant invariant step
  | reserve cpu slot => exact reserve_invariant invariant step
  | fill cpu => exact fill_invariant invariant step
  | submit cpu => exact submit_invariant invariant step
  | poll budget =>
      cases step
      exact poll_invariant invariant budget

theorem Reachable.invariant (reach : Reachable host handler start machine) :
    machine.Invariant host handler start := by
  induction reach with
  | initial => exact initial_invariant
  | step move _ step ih => exact step_invariant move ih step

/-! ## One processor on its own -/

/-- Several steps in a row. -/
def steps (host : Endian) (handler : PacketHandler σ) (moves : List (Move ι))
    (machine : Machine ι σ) : Option (Machine ι σ) :=
  moves.foldlM (fun machine move => machine.step host handler move) machine

/-- The steps of a whole run of the program. -/
def capture (cpu : ι) (frame : Frame) (reserved : Option XdpPacket) : List (Move ι) :=
  if frame.Captured then
    .receive cpu frame :: .reserve cpu reserved ::
      match reserved with
      | none => []
      | some _ => [.fill cpu, .submit cpu]
  else [.receive cpu frame]

/-- Without other steps in between, the steps of a processor are `xdp_capture_packet`. -/
theorem steps_capture {cpu : ι} {verdict : Option XdpAction}
    (waiting : machine.cpus cpu = .waiting verdict) (frame : Frame) (reserved : Option XdpPacket)
    {result : Capture} (run : xdpCapturePacket host frame reserved = .ok result) :
    machine.steps host handler (capture cpu frame reserved) =
      some { machine with
        ring := { machine.ring with
          slots := machine.ring.slots ++
            result.submitted.map fun record => ⟨(cpu, frame), record, true⟩ }
        cpus := Function.update machine.cpus cpu (.waiting (some result.action)) } := by
  rw [xdpCapturePacket_eq] at run
  cases run
  simp only [steps, capture]
  by_cases captured : frame.Captured
  · rw [if_pos captured, if_pos captured, List.foldlM_cons, step, receive_eq waiting,
      if_pos captured]
    cases reserved with
    | none => simp [step, reserve, setCpu]
    | some stale =>
        simp only [List.foldlM_cons, List.foldlM_nil, step, reserve, setCpu, Option.bind_eq_bind,
          Option.bind_some, Function.update_self, Function.update_idem]
        rw [fill_eq captured (Function.update_self ..)
          (Queue.open_reserve_iff.mpr (.inr ⟨rfl, rfl, rfl⟩))]
        simp [submit, setCpu, Queue.commit_write_reserve]
  · rw [if_neg captured, if_neg captured, List.foldlM_cons, step, receive_eq waiting,
      if_neg captured]
    simp [setCpu]

theorem Reachable.steps (reach : Reachable host handler start machine) {moves : List (Move ι)}
    (run : machine.steps host handler moves = some machine') :
    Reachable host handler start machine' := by
  induction moves generalizing machine with
  | nil =>
      cases run
      exact reach
  | cons move moves ih =>
      rw [Machine.steps, List.foldlM_cons] at run
      cases one : machine.step host handler move with
      | none => simp [one] at run
      | some next =>
          rw [one] at run
          exact ih (reach.step move one) run

end Machine

/-! ## Exactly once and in order -/

variable [DecidableEq ι]

/-- What the ring buffer is for, of a machine whose handler keeps every packet. -/
structure ExactlyOnce (host : Endian) (machine : Machine ι (List XdpData)) : Prop where
  /-- The handler has what the first frames reserved for decode to. -/
  inOrder : ∃ count ≤ machine.reservedFrames.length,
    machine.handlerState = (machine.reservedFrames.take count).map Frame.delivered
  /-- Polling delivers the others as well once every slot is submitted. -/
  lossless : ∀ budget, machine.reservedFrames.length ≤ budget →
    (∀ index purpose contents, ¬ machine.ring.Open index purpose contents) →
      (machine.poll host PacketHandler.recorder budget).handlerState =
        machine.reservedFrames.map Frame.delivered
  /-- A slot that is not submitted is held by the one processor that reserved it, in the middle of
  its run. -/
  balanced : ∀ index cpu frame contents, machine.ring.Open index (cpu, frame) contents →
    ∀ other, (machine.cpus other).Holds index ↔ other = cpu
  /-- A failed reserve touches nothing but its own processor. -/
  failedReserve : ∀ cpu machine', machine.reserve cpu none = some machine' →
    machine' = machine.setCpu cpu (.waiting (some .pass))

/-- Whatever the order of the steps, captures are delivered exactly once, in order and unmixed. -/
theorem reachable_exactlyOnce {host : Endian} {machine : Machine ι (List XdpData)}
    (reach : Machine.Reachable host PacketHandler.recorder [] machine) :
    ExactlyOnce host machine := by
  have invariant := reach.invariant
  constructor
  · obtain ⟨count_le, delivered⟩ := invariant.delivered
    refine ⟨machine.ring.consumed, count_le, ?_⟩
    rw [delivered, handled_recorder]
  · intro budget enough settled
    rw [invariant.drained settled enough, handled_recorder]
  · intro index cpu frame contents isOpen other
    constructor
    · exact invariant.owner_unique isOpen
    · rintro rfl
      exact invariant.held index other frame contents isOpen
  · intro cpu machine' step
    obtain ⟨_, _, _, ⟨_, same⟩ | ⟨_, none, _⟩⟩ := Machine.reserve_cases step
    · exact same
    · cases none

/-- A UDP datagram with a payload of four bytes. -/
def datagram : Frame where
  bytes :=
    [0x02, 0, 0, 0, 0, 1, 0x02, 0, 0, 0, 0, 2, 0x08, 0x00,
      0x45, 0, 0, 32, 0, 1, 0, 0, 64, 17, 0, 0, 192, 168, 1, 3, 192, 168, 1, 2,
      0x04, 0xd2, 0, 53, 0, 12, 0, 0, 1, 2, 3, 4]
  size_lt := by decide

/-- Two processors whose runs overlap. The first to reserve is the last to submit, so that a poll in
between finds nothing; one reserve fails; and the last poll takes one of two records. -/
def overlapping : List (Move Bool) :=
  [.receive false acknowledgement, .receive true datagram, .reserve true (some blankSlot),
    .reserve false (some blankSlot), .fill false, .submit false, .poll 2,
    .receive false acknowledgement, .reserve false none, .fill true, .submit true, .poll 1]

theorem overlapping_exactlyOnce :
    ∃ machine, (Machine.initial []).steps .little PacketHandler.recorder overlapping =
        some machine ∧
      machine.reservedFrames.map Frame.bytes = [datagram.bytes, acknowledgement.bytes] ∧
      machine.ring.consumed = 1 ∧ ExactlyOnce .little machine := by
  have outcome : ((Machine.initial []).steps .little PacketHandler.recorder overlapping).map
      (fun machine => (machine.reservedFrames.map Frame.bytes, machine.ring.consumed)) =
        some ([datagram.bytes, acknowledgement.bytes], 1) := by decide +kernel
  obtain ⟨machine, run, same⟩ := Option.map_eq_some_iff.mp outcome
  exact ⟨machine, run, congrArg Prod.fst same, congrArg Prod.snd same,
    reachable_exactlyOnce (Machine.Reachable.initial.steps run)⟩

end Invariant

end XdpExperiment
