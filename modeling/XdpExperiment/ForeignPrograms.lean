import XdpExperiment.PublicCalls

/-!
# XDP programs that the monitor did not attach

The destructor decides from the interface index and the program descriptor whether to detach, and
both are set before the attach. Hence a program that was on the target interface beforehand, which
makes the attach fail, is removed by the teardown. The theorem gives the exact condition.
-/

namespace XdpExperiment

open Interaction

/-! ## What the surroundings do to attached programs -/

/-- Calls that can take a program off an interface. -/
inductive Removal : Call → Prop
  | detach (ifindex : Int) (flags : XdpFlags) : Removal (.bpfXdpDetach ifindex flags)
  | replace (ifindex programFd : Int) (flags : XdpFlags) : flags.updateIfNoexist = false →
      Removal (.bpfXdpAttach ifindex programFd flags)

/-- Calls that decide what is attached or what the destructor will detach. -/
inductive Steering : Call → Prop
  | ifNametoindex (name : String) : Steering (.ifNametoindex name)
  | bpfProgramFd (program : Pointer) : Steering (.bpfProgramFd program)
  | attachment {call : Call} : AttachmentCall call → Steering call

theorem without_attachmentCall {trace : Trace} (untouched : Without Steering trace) :
    Without AttachmentCall trace :=
  fun call result member attaches => untouched call result member (.attachment attaches)

/-- Every program that was attached at the start is still attached. -/
def InitialProgramsKept (world : World) (trace : Trace) : Prop :=
  ∀ ifindex mode program, world.attached ifindex mode = some program →
    (world.environment.stateAfter trace).attached ifindex mode = some program

/-- An attach that only takes a free interface keeps what is attached anywhere. -/
theorem World.after_attach {world : World} {other fd : Int} {flags : XdpFlags}
    {reply : Reply} {code : Int} (onlyFree : flags.updateIfNoexist = true)
    (answer : world.respond (.bpfXdpAttach other fd flags) reply = some code)
    {ifindex : Int} {mode : XdpMode} {program : XdpProgram}
    (present : world.attached ifindex mode = some program) :
    (world.after (.call (.bpfXdpAttach other fd flags) code)).attached ifindex mode =
      some program := by
  by_cases success : code = 0
  · have free : ¬world.Occupied other :=
      World.free_of_attached onlyFree (success ▸ answer)
    have elsewhere : ifindex ≠ other := by
      rintro rfl
      refine free ⟨mode, ?_, by simp [present]⟩
      cases mode <;> simp
    simp [World.after, success, World.setAttached, elsewhere, present]
  · simpa [World.after, success] using present

/-- Attaching only where nothing is attached keeps every initial program. -/
theorem initialProgramsKept_of_without {world : World} {trace : Trace}
    (admits : world.environment.Admits trace) (without : Without Removal trace) :
    InitialProgramsKept world trace := by
  induction trace using List.reverseRecOn with
  | nil => exact fun _ _ _ present => present
  | append_singleton trace event ih =>
      obtain ⟨earlier, last⟩ := AtEach.concat_iff.mp admits
      have kept := ih earlier without.of_append
      intro ifindex mode program present
      have before := kept ifindex mode program present
      rw [Environment.stateAfter_append_singleton]
      by_cases other : ∀ call result, event = .call call result → ¬AttachmentCall call
      · rwa [World.after_attached _ _ other]
      · push Not at other
        obtain ⟨call, result, rfl, attaches⟩ := other
        have notRemoval : ¬Removal call := without call result (by simp)
        cases attaches with
        | detach other flags => exact absurd (.detach other flags) notRemoval
        | attach other fd flags =>
            have onlyFree : flags.updateIfNoexist = true := by
              by_contra replaces
              exact notRemoval (.replace other fd flags (by simpa using replaces))
            obtain ⟨reply, answer⟩ := last _ _ rfl
            exact World.after_attach onlyFree answer before

/-! ## What the destructor goes by -/

/-- The program descriptor that an event makes `run` store. -/
def programDescriptor : Event signature External → Option Int
  | .call (.bpfProgramFd _) (fd : Int) => some fd
  | _ => none

/-- What `if_nametoindex` returned last; the member starts at `-1`. -/
def resolvedIndex (trace : Trace) : Int := latest resolution (-1) trace

/-- What `bpf_program__fd` returned last; the member starts at `-1`. -/
def programFd (trace : Trace) : Int := latest programDescriptor (-1) trace

/-- The members that guard the detach hold what the kernel answered last. -/
structure GuardsLatest (monitor : XdpMonitor) (trace : Trace) : Prop where
  interfaceIndex : monitor.interfaceIndex = resolvedIndex trace
  xdpProgramFd : monitor.xdpProgramFd = programFd trace

theorem resolvedIndex_append {front back : Trace} (untouched : Without Steering back) :
    resolvedIndex (front ++ back) = resolvedIndex front := by
  rw [resolvedIndex, latest_append]
  apply latest_eq_initial
  intro event member
  cases event with
  | external action => rfl
  | call call result =>
      have notSteering := untouched call result member
      cases call with
      | ifNametoindex name => exact absurd (.ifNametoindex name) notSteering
      | _ => rfl

theorem programFd_append {front back : Trace} (untouched : Without Steering back) :
    programFd (front ++ back) = programFd front := by
  rw [programFd, latest_append]
  apply latest_eq_initial
  intro event member
  cases event with
  | external action => rfl
  | call call result =>
      have notSteering := untouched call result member
      cases call with
      | bpfProgramFd program => exact absurd (.bpfProgramFd program) notSteering
      | _ => rfl

theorem GuardsLatest.stable (self : XdpMonitor) : Stable (GuardsLatest self) := by
  rintro trace action ⟨sameIndex, sameFd⟩
  exact ⟨by simpa [resolvedIndex, resolution] using sameIndex,
    by simpa [programFd, programDescriptor] using sameFd⟩

theorem GuardsLatest.calls_iff {self : XdpMonitor} {trace : Trace} :
    GuardsLatest self (calls trace) ↔ GuardsLatest self trace := by
  have sameIndex : resolvedIndex (calls trace) = resolvedIndex trace :=
    latest_calls (fun _ => rfl) trace
  have sameFd : programFd (calls trace) = programFd trace := latest_calls (fun _ => rfl) trace
  constructor
  · rintro ⟨index, fd⟩
    exact ⟨index.trans sameIndex, fd.trans sameFd⟩
  · rintro ⟨index, fd⟩
    exact ⟨index.trans sameIndex.symm, fd.trans sameFd.symm⟩

/-- Every lifecycle step stores what it was told, so the guards stay up to date. -/
theorem GuardsLatest.stepInvariant : StepInvariant GuardsLatest where
  resolves := by
    rintro self made ok self' before resolves ⟨-, sameFd⟩
    constructor
    · cases resolves <;> simp [resolvedIndex, resolution]
    · cases resolves <;> simpa [programFd, programDescriptor] using sameFd
  loads := by
    rintro self made ok self' before loads ⟨sameIndex, sameFd⟩
    constructor
    · cases loads <;> simpa [resolvedIndex, resolution] using sameIndex
    · cases loads <;> simpa [programFd, programDescriptor] using sameFd
  finds := by
    rintro self made ok self' before finds ⟨sameIndex, sameFd⟩
    constructor
    · cases finds <;> simpa [resolvedIndex, resolution] using sameIndex
    · cases finds with
      | noProgram => simpa [programFd, programDescriptor] using sameFd
      | noMap program => simpa [programFd, programDescriptor] using sameFd
      | noFd program map fd negative => simp [programFd, programDescriptor]
      | found program map fd valid => simp [programFd, programDescriptor]
  attaches := by
    rintro self made ok self' before attaches ⟨sameIndex, sameFd⟩
    constructor
    · cases attaches <;> simpa [resolvedIndex, resolution] using sameIndex
    · cases attaches <;> simpa [programFd, programDescriptor] using sameFd
  opens := by
    rintro self made ok self' before opens ⟨sameIndex, sameFd⟩
    constructor
    · cases opens <;> simpa [resolvedIndex, resolution] using sameIndex
    · cases opens <;> simpa [programFd, programDescriptor] using sameFd
  passive := by
    rintro self event before passive ⟨sameIndex, sameFd⟩
    constructor
    · cases passive <;> simpa [resolvedIndex, resolution] using sameIndex
    · cases passive <;> simpa [programFd, programDescriptor] using sameFd

/-! ## The shape of a lifetime -/

/-- A lifetime attaches only to free interfaces until the destructor detaches, at most once, from
the interface resolved last; nothing after the detach matters for attached programs. -/
inductive DetachesAtEnd : Trace → Prop
  | notYet {trace : Trace} : Without Removal trace → DetachesAtEnd trace
  | detached {front back : Trace} (code : Int) : Without Removal front → 0 ≤ programFd front →
      Without Steering back →
      DetachesAtEnd
        (front ++ .call (.bpfXdpDetach (resolvedIndex front) XdpMonitor.detachFlags) code :: back)

theorem not_removal_of_makes {call : Call} (makes : PublicCall.Makes call) : ¬Removal call := by
  intro removal
  cases removal with
  | detach ifindex flags =>
      cases makes with
      | startUp starts => cases starts
  | replace ifindex fd flags replaces =>
      cases makes with
      | startUp starts =>
          cases starts with
          | bpfXdpAttach => simp [XdpMonitor.attachFlags] at replaces

theorem release_without {world : World} {kind : Call → Prop}
    (otherKind : ∀ call, XdpMonitor.ReleaseCall call → ¬kind call) (self : XdpMonitor)
    (trace : Trace) :
    Ensures world.environment self.release
      (fun _ trace' => ∃ back, trace' = trace ++ back ∧ Without kind back)
      (fun _ trace' => ∃ back, trace' = trace ++ back ∧ Without kind back) trace :=
  ((self.release_avoids otherKind).ensures trace).mono (fun _ _ reached => reached.2)
    fun _ _ reached => reached

/-- The destructor detaches under its guard, first of all. -/
theorem destroy_detachesAtEnd {world : World} {self : XdpMonitor} {trace : Trace}
    (without : Without Removal trace) (guards : GuardsLatest self trace) :
    Ensures world.environment self.destroy (fun _ => DetachesAtEnd) (fun _ => DetachesAtEnd)
      trace := by
  rw [XdpMonitor.destroy_eq]
  simp only [XdpMonitor.detachXdpProgram, Program.bind_eq, Program.pure_eq]
  have notSteering : ∀ call, XdpMonitor.ReleaseCall call → ¬Steering call := by
    intro call release steering
    cases steering with
    | attachment attaches => cases release <;> cases attaches
    | _ => cases release
  have notRemoval : ∀ call, XdpMonitor.ReleaseCall call → ¬Removal call := by
    intro call release removal
    cases release <;> cases removal
  by_cases guard : 0 ≤ self.interfaceIndex ∧ 0 ≤ self.xdpProgramFd
  · rw [if_pos guard]
    have stable : Stable fun trace => Without Removal trace ∧ GuardsLatest self trace := by
      rintro trace action ⟨without, guards⟩
      exact ⟨Without.stable _ trace action without, GuardsLatest.stable self trace action guards⟩
    apply Ensures.call stable _ ⟨without, guards⟩
    rintro front ⟨without, guards⟩
    refine ⟨.notYet without, fun reply (code : Int) _ => ?_⟩
    have detached {back : Trace} (untouched : Without Steering back) :
        DetachesAtEnd
          (front ++ [.call (.bpfXdpDetach self.interfaceIndex XdpMonitor.detachFlags) code] ++
            back) := by
      have shape := DetachesAtEnd.detached code without (guards.xdpProgramFd ▸ guard.2) untouched
      rw [← guards.interfaceIndex] at shape
      simpa using shape
    apply (release_without notSteering _ _).mono
    · rintro _ _ ⟨back, rfl, untouched⟩
      exact detached untouched
    · rintro _ _ ⟨back, rfl, untouched⟩
      exact detached untouched
  · rw [if_neg guard]
    have appended {back : Trace} (clean : Without Removal back) : DetachesAtEnd (trace ++ back) :=
      .notYet (without.append clean)
    apply (release_without notRemoval self trace).mono
    · rintro _ _ ⟨back, rfl, clean⟩
      exact appended clean
    · rintro _ _ ⟨back, rfl, clean⟩
      exact appended clean

/-- Every reachable trace of a lifetime has the shape. -/
theorem lifetime_detachesAtEnd {world : World} (name path : String)
    (publicCalls : List PublicCall) :
    Ensures world.environment (lifetime name path publicCalls) (fun _ => DetachesAtEnd)
      (fun _ => DetachesAtEnd) [] := by
  simp only [lifetime, Program.bind_eq, Program.pure_eq]
  have avoids : (PublicCall.performAll publicCalls (.construct name path)).Avoids Removal :=
    PublicCall.performAll_avoids (fun _ => not_removal_of_makes) _ _
  have publicPhase := (Program.Avoids.ensures avoids []).and
    (@PublicCall.performAll_spec world publicCalls (.construct name path) [])
  apply Ensures.bind
  apply publicPhase.mono
  · rintro _ _ ⟨⟨-, between, rfl, clean⟩, -⟩
    exact .notYet clean
  · rintro ⟨results, self⟩ trace ⟨⟨between, reached, clean⟩, made, steps, since⟩
    have without : Without Removal trace := reached ▸ clean
    have start : GuardsLatest (.construct name path) [] := ⟨rfl, rfl⟩
    have guards : GuardsLatest self trace := by
      rw [← GuardsLatest.calls_iff, since.calls_eq]
      exact GuardsLatest.stepInvariant.publicSteps steps start
    apply Ensures.bind
    apply (destroy_detachesAtEnd without guards).mono (fun _ _ shape => shape)
    intro _ trace shape
    exact .done shape

/-- The lifetime's teardown spares what was there before: nothing was attached in generic mode to
the interface resolved last, or there never was a valid program descriptor, or the kernel refuses
the detach. -/
def TeardownSpares (world : World) (trace : Trace) : Prop :=
  world.attached (resolvedIndex trace) .skb = none ∨ programFd trace < 0 ∨
    ∀ ifindex flags, .call (.bpfXdpDetach ifindex flags) (0 : Int) ∉ trace

section Teardown

variable {world : World} {front back : Trace} {code : Int}

/-- The destructor's detach, after some calls. -/
abbrev teardownDetach (front : Trace) (code : Int) : Event signature External :=
  .call (.bpfXdpDetach (resolvedIndex front) XdpMonitor.detachFlags) code

theorem attached_teardown (untouched : Without Steering back) :
    (world.environment.stateAfter (front ++ teardownDetach front code :: back)).attached =
      ((world.environment.stateAfter front).after (teardownDetach front code)).attached := by
  rw [List.append_cons, World.attached_append _ _ (without_attachmentCall untouched),
    Environment.stateAfter_append_singleton]

theorem resolvedIndex_teardown (untouched : Without Steering back) :
    resolvedIndex (front ++ teardownDetach front code :: back) = resolvedIndex front := by
  rw [List.append_cons, resolvedIndex_append untouched]
  simp [resolvedIndex, resolution]

theorem programFd_teardown (untouched : Without Steering back) :
    programFd (front ++ teardownDetach front code :: back) = programFd front := by
  rw [List.append_cons, programFd_append untouched]
  simp [programFd, programDescriptor]

/-- A detach that the kernel accepts takes away whatever is attached where it looks. -/
theorem kept_teardown_accepted_iff (kept : InitialProgramsKept world front)
    (untouched : Without Steering back) :
    InitialProgramsKept world (front ++ teardownDetach front 0 :: back) ↔
      world.attached (resolvedIndex front) .skb = none := by
  constructor
  · intro keptAtEnd
    cases present : world.attached (resolvedIndex front) .skb with
    | none => rfl
    | some program =>
        have still := keptAtEnd _ _ _ present
        rw [attached_teardown untouched] at still
        simp [World.after, World.setAttached, XdpMonitor.detachFlags] at still
  · intro free ifindex mode program present
    rw [attached_teardown untouched]
    have elsewhere : ¬(ifindex = resolvedIndex front ∧ mode = .skb) := by
      rintro ⟨rfl, rfl⟩
      rw [present] at free
      simp at free
    simpa [World.after, World.setAttached, XdpMonitor.detachFlags, elsewhere]
      using kept _ _ _ present

theorem spares_teardown_accepted_iff (fdValid : 0 ≤ programFd front)
    (untouched : Without Steering back) :
    TeardownSpares world (front ++ teardownDetach front 0 :: back) ↔
      world.attached (resolvedIndex front) .skb = none := by
  rw [TeardownSpares, resolvedIndex_teardown untouched, programFd_teardown untouched]
  constructor
  · rintro (free | invalid | refused)
    · exact free
    · omega
    · exact absurd (List.mem_append_right front List.mem_cons_self)
        (refused (resolvedIndex front) XdpMonitor.detachFlags)
  · exact .inl

/-- A detach that the kernel refuses changes nothing. -/
theorem kept_teardown_refused (refused : code ≠ 0) (kept : InitialProgramsKept world front)
    (untouched : Without Steering back) :
    InitialProgramsKept world (front ++ teardownDetach front code :: back) := by
  intro ifindex mode program present
  rw [attached_teardown untouched]
  simpa [World.after, refused] using kept _ _ _ present

theorem spares_teardown_refused (refused : code ≠ 0) (without : Without Removal front)
    (untouched : Without Steering back) :
    TeardownSpares world (front ++ teardownDetach front code :: back) := by
  right; right
  intro ifindex flags member
  rcases List.mem_append.mp member with member | member
  · exact without _ _ member (.detach _ _)
  rcases List.mem_cons.mp member with same | member
  · simp only [Event.call.injEq, Call.bpfXdpDetach.injEq] at same
    obtain ⟨-, same⟩ := same
    exact refused (eq_of_heq same).symm
  · exact untouched _ _ member (.attachment (.detach _ _))

end Teardown

theorem DetachesAtEnd.kept_iff {world : World} {trace : Trace} (shape : DetachesAtEnd trace)
    (admits : world.environment.Admits trace) :
    InitialProgramsKept world trace ↔ TeardownSpares world trace := by
  cases shape with
  | notYet without =>
      have kept := initialProgramsKept_of_without admits without
      have refused : TeardownSpares world trace :=
        .inr (.inr fun ifindex flags member => without _ _ member (.detach ifindex flags))
      exact ⟨fun _ => refused, fun _ => kept⟩
  | @detached front back code without fdValid untouched =>
      have kept := initialProgramsKept_of_without (AtEach.of_append admits) without
      by_cases success : code = 0
      · subst success
        rw [kept_teardown_accepted_iff kept untouched,
          spares_teardown_accepted_iff fdValid untouched]
      · have keptAtEnd := kept_teardown_refused success kept untouched
        have spares : TeardownSpares world (front ++ teardownDetach front code :: back) :=
          spares_teardown_refused success without untouched
        exact ⟨fun _ => spares, fun _ => keptAtEnd⟩

/-- At every point of every lifetime, all programs that were attached before it are still attached
exactly when the teardown spares them. -/
theorem lifetime_keeps_initial_programs_iff (world : World) (name path : String)
    (publicCalls : List PublicCall) (ticks : List (Tick Reply External)) :
    let reached := (Config.start External (lifetime name path publicCalls)).run
      world.environment ticks
    InitialProgramsKept world reached.trace ↔ TeardownSpares world reached.trace := by
  intro reached
  have admits : world.environment.Admits reached.trace := by
    apply Config.run_admits
    exact AtEach.nil
  have meets := @lifetime_detachesAtEnd world name path publicCalls ticks
  have shape : DetachesAtEnd reached.trace := by
    rcases waits : reached.thread.await with _ | ⟨op, next⟩
    · obtain ⟨value, returns⟩ := Program.await_eq_none_iff.mp waits
      exact meets.2 value returns
    · exact meets.1 op next waits
  exact shape.kept_iff admits

/-- Interface `2` already carries a program when the monitor is constructed. -/
def occupiedWorld : World :=
  { World.idle with
    attached := fun ifindex mode =>
      if ifindex = 2 ∧ mode = .skb then some (.foreign 7) else none }

/-- Start-up succeeds up to the attach, which the kernel refuses; every other call succeeds. -/
def refusedAttach : List (Tick Reply External) :=
  [.reply { ifindex := eth0 }, .reply { pointer := some 1 }, .reply {},
    .reply { pointer := some 2 }, .reply { pointer := some 3 }, .reply { code := 5 },
    .reply {}, .reply {}, .reply {}]

/-- After the refused attach the destructor takes the other program off the interface. -/
theorem refused_attach_removes_initial_program :
    let reached := (Config.start External (lifetime "eth0" "xdp_prog.o" [.run])).run
      occupiedWorld.environment refusedAttach
    reached.thread = .done [1] ∧ ¬InitialProgramsKept occupiedWorld reached.trace := by
  refine ⟨rfl, fun kept => ?_⟩
  have still := kept 2 .skb (.foreign 7) rfl
  exact absurd still (by decide)

end XdpExperiment
