import XdpExperiment.ForeignPrograms
import XdpExperiment.Interaction.Discipline

/-!
# The order of the calls to libbpf

Every call of a monitor builds on results of earlier calls: a step of the start-up comes directly
after the step before it succeeded, handles are the ones that were returned last and never null,
and the teardown comes once, in its order, with nothing behind it. This holds of all lifetimes,
whatever the calls return.
-/

namespace XdpExperiment

open Interaction

/-! ## What was returned last -/

def openResult : Event signature External → Option Pointer
  | .call (.bpfObjectOpenFile _) (object : Pointer) => some object
  | _ => none

def findProgramResult : Event signature External → Option Pointer
  | .call (.bpfObjectFindProgramByName _ _) (program : Pointer) => some program
  | _ => none

def findMapResult : Event signature External → Option Pointer
  | .call (.bpfObjectFindMapByName _ _) (map : Pointer) => some map
  | _ => none

def newResult : Event signature External → Option Pointer
  | .call (.ringBufferNew _) (ringBuffer : Pointer) => some ringBuffer
  | _ => none

/-- The members are what the calls for them returned last, or what they were constructed with. -/
structure Mirrors (monitor : XdpMonitor) (made : Trace) : Prop where
  guards : GuardsLatest monitor made
  bpfObject : monitor.bpfObject = latest openResult none made
  xdpProgram : monitor.xdpProgram = latest findProgramResult none made
  ringbufMap : monitor.ringbufMap = latest findMapResult none made
  ringBuffer : monitor.ringBuffer = latest newResult none made

theorem Mirrors.construct (name path : String) : Mirrors (.construct name path) [] where
  guards := ⟨rfl, rfl⟩
  bpfObject := rfl
  xdpProgram := rfl
  ringbufMap := rfl
  ringBuffer := rfl

/-- Every lifecycle step stores what it was told. -/
theorem Mirrors.stepInvariant : StepInvariant Mirrors where
  resolves := by
    rintro self made ok self' before resolves ⟨guards, object, program, map, ring⟩
    refine ⟨GuardsLatest.stepInvariant.resolves resolves guards, ?_, ?_, ?_, ?_⟩
    · cases resolves <;> simpa [openResult] using object
    · cases resolves <;> simpa [findProgramResult] using program
    · cases resolves <;> simpa [findMapResult] using map
    · cases resolves <;> simpa [newResult] using ring
  loads := by
    rintro self made ok self' before loads ⟨guards, object, program, map, ring⟩
    refine ⟨GuardsLatest.stepInvariant.loads loads guards, ?_, ?_, ?_, ?_⟩
    · cases loads <;> simp [openResult]
    · cases loads <;> simpa [findProgramResult] using program
    · cases loads <;> simpa [findMapResult] using map
    · cases loads <;> simpa [newResult] using ring
  finds := by
    rintro self made ok self' before finds ⟨guards, object, program, map, ring⟩
    refine ⟨GuardsLatest.stepInvariant.finds finds guards, ?_, ?_, ?_, ?_⟩
    · cases finds <;> simpa [openResult] using object
    · cases finds <;> simp [findProgramResult]
    · cases finds with
      | noProgram => simpa [findMapResult] using map
      | noMap program => simp [findMapResult]
      | noFd program map fd negative => simp [findMapResult]
      | found program map fd valid => simp [findMapResult]
    · cases finds <;> simpa [newResult] using ring
  attaches := by
    rintro self made ok self' before attaches ⟨guards, object, program, map, ring⟩
    refine ⟨GuardsLatest.stepInvariant.attaches attaches guards, ?_, ?_, ?_, ?_⟩
    · cases attaches <;> simpa [openResult] using object
    · cases attaches <;> simpa [findProgramResult] using program
    · cases attaches <;> simpa [findMapResult] using map
    · cases attaches <;> simpa [newResult] using ring
  opens := by
    rintro self made ok self' before opens ⟨guards, object, program, map, ring⟩
    refine ⟨GuardsLatest.stepInvariant.opens opens guards, ?_, ?_, ?_, ?_⟩
    · cases opens <;> simpa [openResult] using object
    · cases opens <;> simpa [findProgramResult] using program
    · cases opens <;> simpa [findMapResult] using map
    · cases opens with
      | noFd fd negative => simpa [newResult] using ring
      | noConsumer fd valid => simp [newResult]
      | opened fd consumer valid => simp [newResult]
  passive := by
    rintro self event before passive ⟨guards, object, program, map, ring⟩
    refine ⟨GuardsLatest.stepInvariant.passive passive guards, ?_, ?_, ?_, ?_⟩
    · cases passive <;> simpa [openResult] using object
    · cases passive <;> simpa [findProgramResult] using program
    · cases passive <;> simpa [findMapResult] using map
    · cases passive <;> simpa [newResult] using ring

/-! ## The discipline -/

/-- The position of a call in the teardown; `0` for all other calls. -/
def Call.stage : Call → Nat
  | .bpfXdpDetach _ _ => 1
  | .ringBufferFree _ => 2
  | .bpfObjectClose _ => 3
  | _ => 0

/-- The last call and its result. -/
def Last (made : Trace) (call : Call) (result : call.Result) : Prop :=
  made.getLast? = some (.call call result)

/-- What a monitor for an interface and an object file may call after the calls in `made`. -/
inductive Prepared (name path : String) (made : Trace) : Call → Prop
  | signal (signal : StopSignal) : Prepared name path made (.signal signal)
  | ifNametoindex : Prepared name path made (.ifNametoindex name)
  | bpfObjectOpenFile (index : Ifindex) : Last made (.ifNametoindex name) index →
      index.val ≠ 0 → Prepared name path made (.bpfObjectOpenFile path)
  | bpfObjectLoad (object : Nat) : Last made (.bpfObjectOpenFile path) (some object) →
      Prepared name path made (.bpfObjectLoad (some object))
  | bpfObjectFindProgramByName (object : Nat) :
      Last made (.bpfObjectLoad (some object)) (0 : Int) →
      Prepared name path made (.bpfObjectFindProgramByName (some object) XDP_PROGRAM_NAME)
  | bpfObjectFindMapByName (object program : Nat) :
      Last made (.bpfObjectFindProgramByName (some object) XDP_PROGRAM_NAME) (some program) →
      Prepared name path made (.bpfObjectFindMapByName (some object) RINGBUF_MAP_NAME)
  | bpfProgramFd (object map program : Nat) :
      Last made (.bpfObjectFindMapByName (some object) RINGBUF_MAP_NAME) (some map) →
      latest findProgramResult none made = some program →
      Prepared name path made (.bpfProgramFd (some program))
  | bpfXdpAttach (program : Nat) (index fd : Int) : Last made (.bpfProgramFd (some program)) fd →
      0 ≤ fd → resolvedIndex made = index → 0 < index →
      Prepared name path made (.bpfXdpAttach index fd XdpMonitor.attachFlags)
  | bpfMapFd (index fd : Int) (map : Nat) :
      Last made (.bpfXdpAttach index fd XdpMonitor.attachFlags) (0 : Int) →
      latest findMapResult none made = some map → Prepared name path made (.bpfMapFd (some map))
  | ringBufferNew (map : Nat) (fd : Int) : Last made (.bpfMapFd (some map)) fd → 0 ≤ fd →
      Prepared name path made (.ringBufferNew fd)
  | firstFlagRead (fd : Int) (ring : Nat) : Last made (.ringBufferNew fd) (some ring) →
      Prepared name path made .stopMonitoringRequested
  | flagRead (ring : Nat) (poll : Poll) :
      Last made (.ringBufferPoll (some ring) POLL_TIMEOUT_MS) poll → 0 ≤ poll.result →
      Prepared name path made .stopMonitoringRequested
  | ringBufferPoll (ring : Nat) : latest newResult none made = some ring →
      Prepared name path made (.ringBufferPoll (some ring) POLL_TIMEOUT_MS)
  | bpfXdpDetach : 0 ≤ resolvedIndex made → 0 ≤ programFd made →
      Prepared name path made (.bpfXdpDetach (resolvedIndex made) XdpMonitor.detachFlags)
  | ringBufferFree (ring : Nat) : latest newResult none made = some ring →
      Prepared name path made (.ringBufferFree (some ring))
  | bpfObjectClose (object : Nat) : latest openResult none made = some object →
      Prepared name path made (.bpfObjectClose (some object))

/-- The teardown has not got to some stage. -/
def BeforeStage (stage : Nat) (made : Trace) : Prop :=
  Without (fun earlier : Call => 0 < earlier.stage ∧ stage ≤ earlier.stage) made

/-- The order of the calls of a monitor. No call of the teardown comes twice, or behind one that
follows it, and no other call comes behind the teardown. -/
def InOrder (name path : String) : Discipline signature External :=
  fun made call => Prepared name path made call ∧ BeforeStage call.stage made

/-- The teardown has not begun. -/
def Untorn (made : Trace) : Prop := Without (fun call : Call => 0 < call.stage) made

theorem Untorn.beforeStage {made : Trace} (untorn : Untorn made) (stage : Nat) :
    BeforeStage stage made :=
  fun earlier result member late => untorn earlier result member late.1

theorem BeforeStage.advance {made : Trace} (call : Call) (result : call.Result)
    (before : BeforeStage call.stage made) :
    BeforeStage (call.stage + 1) (made ++ [.call call result]) := by
  refine Without.append ?_ (@Without.call signature External _ call result ?_)
  · exact fun earlier result member late =>
      before earlier result member ⟨late.1, Nat.le_of_succ_le late.2⟩
  · exact fun late => Nat.not_succ_le_self call.stage late.2

theorem Untorn.append_startUp {before made : Trace} (untorn : Untorn before)
    (only : XdpMonitor.OnlyStartUp made) : Untorn (before ++ made) := by
  refine Without.append untorn fun call result member => ?_
  obtain ⟨other, _, same, startUpCall⟩ := only _ member
  cases same
  cases startUpCall <;> exact Nat.lt_irrefl 0

theorem Untorn.stepInvariant : StepInvariant fun _ made => Untorn made where
  resolves := fun resolves untorn => untorn.append_startUp resolves.onlyStartUp
  loads := fun loads untorn => untorn.append_startUp loads.onlyStartUp
  finds := fun finds untorn => untorn.append_startUp finds.onlyStartUp
  attaches := fun attaches untorn => untorn.append_startUp attaches.onlyStartUp
  opens := fun opens untorn => untorn.append_startUp opens.onlyStartUp
  passive := by
    intro self event before passive untorn
    refine Without.append untorn ?_
    cases passive <;> exact Without.call _ (Nat.lt_irrefl 0)

/-! ## The methods -/

theorem last_concat (made : Trace) (call : Call) (result : call.Result) :
    Last (made ++ [.call call result]) call result :=
  List.getLast?_concat

namespace XdpMonitor

variable {world : World} {name path : String} {self self' : XdpMonitor} {made : Trace}

/-- One call before the teardown. -/
theorem invoke_obeys {α : Type} {call : Call} {next : call.Result → Program signature α}
    {returned : α → Trace → Prop} (prepared : Prepared name path made call)
    (ordinary : call.stage = 0) (untorn : Untorn made)
    (continues : ∀ result, Untorn (made ++ [.call call result]) →
      Obeys world.environment (next result) (InOrder name path) returned
        (made ++ [.call call result])) :
    Obeys world.environment ((invoke call).bind next) (InOrder name path) returned made := by
  refine .call ⟨prepared, untorn.beforeStage call.stage⟩ fun result => continues result ?_
  refine Without.append untorn (Without.call result ?_)
  rw [ordinary]
  exact Nat.lt_irrefl 0

theorem resolveInterfaceIndex_obeys (named : self.targetInterfaceName = name)
    (untorn : Untorn made) :
    Obeys world.environment self.resolveInterfaceIndex (InOrder name path)
      (fun r made' => ∃ step, self.Resolves step r.1 r.2 ∧ made' = made ++ step) made := by
  subst named
  simp only [resolveInterfaceIndex, Program.bind_eq, Program.pure_eq]
  refine invoke_obeys .ifNametoindex rfl untorn fun (index : Ifindex) _ => ?_
  by_cases failed : index.val = 0
  · rw [if_pos (by simpa using failed)]
    exact .done ⟨_, .failed index failed, rfl⟩
  · rw [if_neg (by simpa using failed)]
    exact .done ⟨_, .resolved index failed, rfl⟩

theorem loadBpfObject_obeys (located : self.bpfObjectFilePath = path) (untorn : Untorn made)
    {index : Ifindex} (nonzero : index.val ≠ 0) (resolved : Last made (.ifNametoindex name) index) :
    Obeys world.environment self.loadBpfObject (InOrder name path)
      (fun r made' => ∃ step, self.Loads step r.1 r.2 ∧ made' = made ++ step) made := by
  subst located
  simp only [loadBpfObject, Program.bind_eq, Program.pure_eq]
  refine invoke_obeys (.bpfObjectOpenFile index resolved nonzero) rfl untorn
    fun (object : Pointer) untorn => ?_
  rcases object with _ | object
  · rw [if_pos rfl]
    exact .done ⟨_, .notOpened, rfl⟩
  · rw [if_neg (Option.some_ne_none object)]
    refine invoke_obeys (.bpfObjectLoad object (last_concat ..)) rfl untorn
      fun (code : Int) _ => ?_
    by_cases loaded : code = 0
    · rw [if_neg (not_not_intro loaded)]
      exact .done ⟨_, .loaded object code loaded, by simp⟩
    · rw [if_pos loaded]
      exact .done ⟨_, .notLoaded object code loaded, by simp⟩

theorem findBpfProgramAndMap_obeys (untorn : Untorn made) {object : Nat}
    (opened : self.bpfObject = some object)
    (loaded : Last made (.bpfObjectLoad (some object)) (0 : Int)) :
    Obeys world.environment self.findBpfProgramAndMap (InOrder name path)
      (fun r made' => ∃ step, self.Finds step r.1 r.2 ∧ made' = made ++ step) made := by
  simp only [findBpfProgramAndMap, Program.bind_eq, Program.pure_eq]
  have findProgram : Prepared name path made
      (.bpfObjectFindProgramByName self.bpfObject XDP_PROGRAM_NAME) := by
    rw [opened]
    exact .bpfObjectFindProgramByName object loaded
  refine invoke_obeys findProgram rfl untorn fun (program : Pointer) untorn => ?_
  rcases program with _ | program
  · rw [if_pos rfl]
    exact .done ⟨_, .noProgram, rfl⟩
  · rw [if_neg (Option.some_ne_none program)]
    have findMap : Prepared name path
        (made ++ [.call (.bpfObjectFindProgramByName self.bpfObject XDP_PROGRAM_NAME)
          (some program)])
        (.bpfObjectFindMapByName self.bpfObject RINGBUF_MAP_NAME) := by
      rw [opened]
      exact .bpfObjectFindMapByName object program (last_concat ..)
    refine invoke_obeys findMap rfl untorn fun (map : Pointer) untorn => ?_
    rcases map with _ | map
    · rw [if_pos rfl]
      exact .done ⟨_, .noMap program, by simp⟩
    · rw [if_neg (Option.some_ne_none map)]
      have programFd : Prepared name path
          (made ++ [.call (.bpfObjectFindProgramByName self.bpfObject XDP_PROGRAM_NAME)
            (some program)] ++
            [.call (.bpfObjectFindMapByName self.bpfObject RINGBUF_MAP_NAME) (some map)])
          (.bpfProgramFd (some program)) := by
        rw [opened]
        exact .bpfProgramFd object map program (last_concat ..) (by simp [findProgramResult])
      refine invoke_obeys programFd rfl untorn fun (fd : Int) _ => ?_
      by_cases negative : fd < 0
      · rw [if_pos negative]
        exact .done ⟨_, .noFd program map fd negative, by simp⟩
      · rw [if_neg negative]
        exact .done ⟨_, .found program map fd (Int.not_lt.mp negative), by simp⟩

theorem attachXdpProgram_obeys (untorn : Untorn made) {program : Nat}
    (valid : 0 ≤ self.xdpProgramFd)
    (found : Last made (.bpfProgramFd (some program)) self.xdpProgramFd)
    (resolved : resolvedIndex made = self.interfaceIndex) (positive : 0 < self.interfaceIndex) :
    Obeys world.environment self.attachXdpProgram (InOrder name path)
      (fun r made' => ∃ step, self.Attaches step r.1 r.2 ∧ made' = made ++ step) made := by
  simp only [attachXdpProgram, Program.bind_eq, Program.pure_eq]
  refine invoke_obeys (.bpfXdpAttach program _ _ found valid resolved positive) rfl untorn
    fun (code : Int) _ => ?_
  by_cases attached : code = 0
  · rw [if_neg (not_not_intro attached)]
    exact .done ⟨_, .attached code attached, rfl⟩
  · rw [if_pos attached]
    exact .done ⟨_, .failed code attached, rfl⟩

theorem openRingBuffer_obeys (untorn : Untorn made) {map : Nat}
    (found : self.ringbufMap = some map) (latestMap : latest findMapResult none made = some map)
    (attached : Last made (.bpfXdpAttach self.interfaceIndex self.xdpProgramFd attachFlags)
      (0 : Int)) :
    Obeys world.environment self.openRingBuffer (InOrder name path)
      (fun r made' => ∃ step, self.Opens step r.1 r.2 ∧ made' = made ++ step) made := by
  simp only [openRingBuffer, Program.bind_eq, Program.pure_eq]
  have mapFd : Prepared name path made (.bpfMapFd self.ringbufMap) := by
    rw [found]
    exact .bpfMapFd _ _ map attached latestMap
  refine invoke_obeys mapFd rfl untorn fun (fd : Int) untorn => ?_
  by_cases negative : fd < 0
  · rw [if_pos negative]
    exact .done ⟨_, .noFd fd negative, rfl⟩
  · have valid := Int.not_lt.mp negative
    rw [if_neg negative]
    have ringNew : Prepared name path (made ++ [.call (.bpfMapFd self.ringbufMap) fd])
        (.ringBufferNew fd) := by
      rw [found]
      exact .ringBufferNew map fd (last_concat ..) valid
    refine invoke_obeys ringNew rfl untorn fun (ring : Pointer) _ => ?_
    rcases ring with _ | ring
    · rw [if_pos rfl]
      exact .done ⟨_, .noConsumer fd valid, by simp⟩
    · rw [if_neg (Option.some_ne_none ring)]
      exact .done ⟨_, .opened fd ring valid, by simp⟩

theorem Loads.interfaceIndex {ok : Bool} (loads : self.Loads made ok self') :
    self'.interfaceIndex = self.interfaceIndex := by
  cases loads <;> rfl

theorem Finds.interfaceIndex {ok : Bool} (finds : self.Finds made ok self') :
    self'.interfaceIndex = self.interfaceIndex := by
  cases finds <;> rfl

/-! ### What a successful step ends with -/

theorem Resolves.last (resolves : self.Resolves made true self') (before : Trace) :
    ∃ index : Ifindex, index.val ≠ 0 ∧ self'.interfaceIndex = index.val ∧
      Last (before ++ made) (.ifNametoindex self.targetInterfaceName) index := by
  cases resolves with
  | resolved index nonzero => exact ⟨index, nonzero, rfl, last_concat ..⟩

theorem Loads.last (loads : self.Loads made true self') (before : Trace) :
    ∃ object, self'.bpfObject = some object ∧
      Last (before ++ made) (.bpfObjectLoad (some object)) (0 : Int) := by
  cases loads with
  | loaded object code success =>
      subst success
      exact ⟨object, rfl, by simp [Last]⟩

theorem Finds.last (finds : self.Finds made true self') (before : Trace) :
    ∃ program map : Nat, self'.ringbufMap = some map ∧ 0 ≤ self'.xdpProgramFd ∧
      Last (before ++ made) (.bpfProgramFd (some program)) self'.xdpProgramFd := by
  cases finds with
  | found program map fd valid => exact ⟨program, map, rfl, valid, by simp [Last]⟩

theorem Attaches.last (attaches : self.Attaches made true self') (before : Trace) :
    self' = self ∧
      Last (before ++ made) (.bpfXdpAttach self.interfaceIndex self.xdpProgramFd attachFlags)
        (0 : Int) := by
  cases attaches with
  | attached code success =>
      subst success
      exact ⟨rfl, last_concat ..⟩

theorem Opens.last (opens : self.Opens made true self') (before : Trace) :
    ∃ fd ring, self'.ringBuffer = some ring ∧
      Last (before ++ made) (.ringBufferNew fd) (some ring) := by
  cases opens with
  | opened fd ring valid => exact ⟨fd, ring, rfl, by simp [Last]⟩

end XdpMonitor

/-! ## Lifetimes -/

/-- What holds between the lifecycle steps until the teardown begins. -/
structure Standing (name path : String) (monitor : XdpMonitor) (made : Trace) : Prop where
  named : monitor.targetInterfaceName = name
  located : monitor.bpfObjectFilePath = path
  mirrors : Mirrors monitor made
  untorn : Untorn made

theorem Standing.stepInvariant (name path : String) : StepInvariant (Standing name path) where
  resolves := by
    rintro self made ok self' before resolves ⟨named, located, mirrors, untorn⟩
    refine ⟨?_, ?_, Mirrors.stepInvariant.resolves resolves mirrors,
      Untorn.stepInvariant.resolves resolves untorn⟩ <;> cases resolves <;> assumption
  loads := by
    rintro self made ok self' before loads ⟨named, located, mirrors, untorn⟩
    refine ⟨?_, ?_, Mirrors.stepInvariant.loads loads mirrors,
      Untorn.stepInvariant.loads loads untorn⟩ <;> cases loads <;> assumption
  finds := by
    rintro self made ok self' before finds ⟨named, located, mirrors, untorn⟩
    refine ⟨?_, ?_, Mirrors.stepInvariant.finds finds mirrors,
      Untorn.stepInvariant.finds finds untorn⟩ <;> cases finds <;> assumption
  attaches := by
    rintro self made ok self' before attaches ⟨named, located, mirrors, untorn⟩
    refine ⟨?_, ?_, Mirrors.stepInvariant.attaches attaches mirrors,
      Untorn.stepInvariant.attaches attaches untorn⟩ <;> cases attaches <;> assumption
  opens := by
    rintro self made ok self' before opens ⟨named, located, mirrors, untorn⟩
    refine ⟨?_, ?_, Mirrors.stepInvariant.opens opens mirrors,
      Untorn.stepInvariant.opens opens untorn⟩ <;> cases opens <;> assumption
  passive := by
    rintro self event before passive ⟨named, located, mirrors, untorn⟩
    exact ⟨named, located, Mirrors.stepInvariant.passive passive mirrors,
      @StepInvariant.passive _ Untorn.stepInvariant self _ _ passive untorn⟩

/-- The next call of the poll loop may be a read of the stop flag. -/
def AtLoopHead (ring : Nat) (made : Trace) : Prop :=
  (∃ fd, Last made (.ringBufferNew fd) (some ring)) ∨
    ∃ poll : Poll, Last made (.ringBufferPoll (some ring) POLL_TIMEOUT_MS) poll ∧ 0 ≤ poll.result

namespace XdpMonitor

variable {world : World} {name path : String} {self : XdpMonitor} {made : Trace}

theorem startUp_obeys (standing : Standing name path self made) :
    Obeys world.environment self.startUp (InOrder name path)
      (fun r made' => ∃ step, self.StartsUp step r.1 r.2 ∧ made' = made ++ step ∧
        (r.1 = true → ∃ ring, r.2.ringBuffer = some ring ∧ AtLoopHead ring made')) made := by
  have invariant := Standing.stepInvariant name path
  simp only [startUp, Program.bind_eq, Program.pure_eq]
  refine .bind ((resolveInterfaceIndex_obeys standing.named standing.untorn).mono ?_)
  rintro ⟨resolved, self₁⟩ _ ⟨made₁, resolves, rfl⟩
  cases resolved with
  | false => exact .done ⟨_, .unresolved resolves, rfl, by simp⟩
  | true =>
  have standing₁ := invariant.resolves resolves standing
  obtain ⟨index, nonzero, sameIndex, found⟩ := resolves.last made
  rw [standing.named] at found
  refine .bind ((loadBpfObject_obeys standing₁.located standing₁.untorn nonzero found).mono ?_)
  rintro ⟨loaded, self₂⟩ _ ⟨made₂, loads, rfl⟩
  cases loaded with
  | false => exact .done ⟨_, .unloaded resolves loads, by simp, by simp⟩
  | true =>
  have standing₂ := invariant.loads loads standing₁
  obtain ⟨object, opened, loadedLast⟩ := loads.last (made ++ made₁)
  refine .bind ((findBpfProgramAndMap_obeys standing₂.untorn opened loadedLast).mono ?_)
  rintro ⟨found, self₃⟩ _ ⟨made₃, finds, rfl⟩
  cases found with
  | false => exact .done ⟨_, .unfound resolves loads finds, by simp, by simp⟩
  | true =>
  have standing₃ := invariant.finds finds standing₂
  obtain ⟨program, map, mapFound, valid, programFd⟩ := finds.last (made ++ made₁ ++ made₂)
  have positive : 0 < self₃.interfaceIndex := by
    rw [finds.interfaceIndex, loads.interfaceIndex, sameIndex]
    exact Int.natCast_pos.mpr (Nat.pos_of_ne_zero nonzero)
  refine .bind ((attachXdpProgram_obeys standing₃.untorn valid programFd
    standing₃.mirrors.guards.interfaceIndex.symm positive).mono ?_)
  rintro ⟨attached, self₄⟩ _ ⟨made₄, attaches, rfl⟩
  cases attached with
  | false => exact .done ⟨_, .unattached resolves loads finds attaches, by simp, by simp⟩
  | true =>
  have standing₄ := invariant.attaches attaches standing₃
  obtain ⟨rfl, attachedLast⟩ := attaches.last (made ++ made₁ ++ made₂ ++ made₃)
  refine (openRingBuffer_obeys standing₄.untorn mapFound
    (standing₄.mirrors.ringbufMap.symm.trans mapFound) attachedLast).mono ?_
  rintro ⟨opened, self₅⟩ _ ⟨made₅, opens, rfl⟩
  cases opened with
  | false => exact ⟨_, .unopened resolves loads finds attaches opens, by simp, by simp⟩
  | true =>
      obtain ⟨fd, ring, ringOpened, last⟩ := opens.last (made ++ made₁ ++ made₂ ++ made₃ ++ made₄)
      exact ⟨_, .opened resolves loads finds attaches opens, by simp,
        fun _ => ⟨ring, ringOpened, .inl ⟨fd, last⟩⟩⟩

/-- The head of the poll loop, after the calls in `made` and some rounds. -/
def LoopHead (ring : Nat) (made history : Trace) : Prop :=
  AtLoopHead ring history ∧
    ∃ loop, (∀ event ∈ loop, LoopCall (some ring) event) ∧ history = made ++ loop

theorem loopCalls_concat {ringBuffer : Pointer} {loop : Trace} {last : Event signature External}
    (loopCalls : ∀ event ∈ loop, LoopCall ringBuffer event) (call : LoopCall ringBuffer last) :
    ∀ event ∈ loop ++ [last], LoopCall ringBuffer event := by
  intro event member
  rcases List.mem_append.mp member with member | member
  · exact loopCalls event member
  · rwa [List.mem_singleton.mp member]

theorem pollRingBuffer_obeys (standing : Standing name path self made) {ring : Nat}
    (opened : self.ringBuffer = some ring) (atHead : AtLoopHead ring made) :
    Obeys world.environment self.pollRingBuffer (InOrder name path)
      (fun _ made' => ∃ loop, (∀ event ∈ loop, LoopCall (some ring) event) ∧
        made' = made ++ loop) made := by
  have start : LoopHead ring made made := ⟨atHead, [], by simp, by simp⟩
  refine Obeys.loop ?_ start
  rintro _ ⟨ready, loop, loopCalls, rfl⟩
  have invariant := Standing.stepInvariant name path
  have standing₁ := invariant.passives (fun event member => (loopCalls event member).passive)
    standing
  have flagPrepared : Prepared name path (made ++ loop) .stopMonitoringRequested := by
    rcases ready with ⟨fd, last⟩ | ⟨poll, last, fine⟩
    · exact .firstFlagRead fd ring last
    · exact .flagRead ring poll last fine
  refine ⟨⟨flagPrepared, standing₁.untorn.beforeStage 0⟩, fun (stop : Bool) => ?_⟩
  have flagCalls := loopCalls_concat loopCalls (.flagRead stop)
  have standing₂ := invariant.passive (.flagRead stop) standing₁
  simp only [Program.bind_eq, Program.pure_eq]
  cases stop with
  | true =>
      rw [if_pos rfl]
      apply Obeys.done
      rw [if_neg Bool.false_ne_true]
      exact .done ⟨_, flagCalls, by simp⟩
  | false =>
      have pollPrepared : Prepared name path (made ++ loop ++ [flagRead false])
          (.ringBufferPoll self.ringBuffer POLL_TIMEOUT_MS) := by
        rw [opened]
        exact .ringBufferPoll ring (standing₂.mirrors.ringBuffer.symm.trans opened)
      rw [if_neg Bool.false_ne_true]
      refine invoke_obeys pollPrepared rfl standing₂.untorn fun (poll : Poll) _ => ?_
      have pollCalls := loopCalls_concat flagCalls (.polled poll)
      rw [opened]
      by_cases failed : poll.result < 0
      · rw [if_pos failed]
        apply Obeys.done
        rw [if_neg Bool.false_ne_true]
        exact .done ⟨_, pollCalls, by simp⟩
      · rw [if_neg failed]
        apply Obeys.done
        rw [if_pos rfl]
        exact ⟨.inr ⟨poll, last_concat .., Int.not_lt.mp failed⟩, _, pollCalls, by simp⟩

theorem run_obeys (standing : Standing name path self made) :
    Obeys world.environment self.run (InOrder name path)
      (fun r made' => ∃ step, PublicStep self step r.2 ∧ made' = made ++ step) made := by
  rw [run_eq]
  refine .bind ((startUp_obeys standing).mono ?_)
  rintro ⟨started, self'⟩ _ ⟨step, starts, rfl, ready⟩
  have standing' := (Standing.stepInvariant name path).startsUp starts standing
  cases started with
  | false => exact .done ⟨step, .failedRun starts, rfl⟩
  | true =>
      obtain ⟨ring, opened, atHead⟩ := ready rfl
      refine .bind ((pollRingBuffer_obeys standing' opened atHead).mono ?_)
      rintro _ _ ⟨loop, loopCalls, rfl⟩
      rw [← opened] at loopCalls
      exact .done ⟨_, .run starts loopCalls, by simp⟩

end XdpMonitor

namespace PublicCall

variable {world : World} {name path : String} {self : XdpMonitor} {made : Trace}

theorem perform_obeys (call : PublicCall) (standing : Standing name path self made) :
    Obeys world.environment (call.perform self) (InOrder name path)
      (fun r made' => ∃ step, PublicStep self step r.2 ∧ made' = made ++ step) made := by
  cases call with
  | run => exact XdpMonitor.run_obeys standing
  | pollRingBufferOnce =>
      simp only [perform, XdpMonitor.pollRingBufferOnce, Program.bind_eq, Program.pure_eq]
      rcases opened : self.ringBuffer with _ | ring
      · rw [if_pos rfl]
        exact .done ⟨[], .notOpen opened, by simp⟩
      · rw [if_neg (Option.some_ne_none ring)]
        have prepared : Prepared name path made (.ringBufferPoll (some ring) POLL_TIMEOUT_MS) :=
          .ringBufferPoll ring (standing.mirrors.ringBuffer.symm.trans opened)
        refine XdpMonitor.invoke_obeys prepared rfl standing.untorn fun (poll : Poll) _ => ?_
        have step : PublicStep self [polled self.ringBuffer poll] self :=
          .poll poll (by rw [opened]; exact Option.some_ne_none ring)
        rw [opened] at step
        exact .done ⟨_, step, rfl⟩
  | installSignalHandlers =>
      simp only [perform, XdpMonitor.installSignalHandlers, Program.bind_eq, Program.pure_eq,
        Program.bind_assoc]
      refine XdpMonitor.invoke_obeys (.signal .sigint) rfl standing.untorn
        fun (_ : Unit) untorn => ?_
      refine XdpMonitor.invoke_obeys (.signal .sigterm) rfl untorn fun (_ : Unit) _ => ?_
      exact .done ⟨_, .install, by simp⟩

theorem performAll_obeys (publicCalls : List PublicCall)
    (standing : Standing name path self made) :
    Obeys world.environment (performAll publicCalls self) (InOrder name path)
      (fun r made' => Standing name path r.2 made') made := by
  induction publicCalls generalizing self made with
  | nil => exact .done standing
  | cons call publicCalls ih =>
      simp only [performAll, Program.bind_eq, Program.pure_eq]
      refine .bind ((perform_obeys call standing).mono ?_)
      rintro ⟨result, self₁⟩ _ ⟨step, called, rfl⟩
      have standing₁ := (Standing.stepInvariant name path).publicStep called standing
      refine .bind ((ih standing₁).mono ?_)
      exact fun _ _ standing₂ => .done standing₂

end PublicCall

namespace XdpMonitor

variable {world : World} {name path : String} {self : XdpMonitor} {made : Trace}

theorem detachXdpProgram_obeys (standing : Standing name path self made) :
    Obeys world.environment self.detachXdpProgram (InOrder name path)
      (fun self' made' => self'.ringBuffer = latest newResult none made' ∧
        self'.bpfObject = latest openResult none made' ∧ BeforeStage 2 made') made := by
  obtain ⟨-, -, ⟨⟨sameIndex, sameFd⟩, object, -, -, ring⟩, untorn⟩ := standing
  simp only [detachXdpProgram, Program.bind_eq, Program.pure_eq]
  by_cases guard : 0 ≤ self.interfaceIndex ∧ 0 ≤ self.xdpProgramFd
  · have prepared : Prepared name path made (.bpfXdpDetach self.interfaceIndex detachFlags) := by
      rw [sameIndex, sameFd] at guard
      rw [sameIndex]
      exact .bpfXdpDetach guard.1 guard.2
    rw [if_pos guard]
    refine .call ⟨prepared, untorn.beforeStage 1⟩ fun (code : Int) => ?_
    refine .done ⟨?_, ?_, .advance (.bpfXdpDetach _ _) code (untorn.beforeStage 1)⟩
    · simpa [newResult] using ring
    · simpa [openResult] using object
  · rw [if_neg guard]
    exact .done ⟨ring, object, untorn.beforeStage 2⟩

theorem closeRingBuffer_obeys (ring : self.ringBuffer = latest newResult none made)
    (object : self.bpfObject = latest openResult none made) (before : BeforeStage 2 made) :
    Obeys world.environment self.closeRingBuffer (InOrder name path)
      (fun self' made' => self'.bpfObject = latest openResult none made' ∧ BeforeStage 3 made')
      made := by
  simp only [closeRingBuffer, Program.bind_eq, Program.pure_eq]
  rcases opened : self.ringBuffer with _ | consumer
  · rw [if_neg (not_not_intro rfl)]
    exact .done ⟨object, fun call result member late =>
      before call result member ⟨late.1, Nat.le_of_succ_le late.2⟩⟩
  · rw [if_pos (Option.some_ne_none consumer)]
    have latestRing := ring.symm.trans opened
    refine .call ⟨.ringBufferFree consumer latestRing, before⟩ fun (_ : Unit) => ?_
    refine .done ⟨?_, .advance (.ringBufferFree _) () before⟩
    simpa [openResult] using object

theorem closeBpfObject_obeys (object : self.bpfObject = latest openResult none made)
    (before : BeforeStage 3 made) :
    Obeys world.environment self.closeBpfObject (InOrder name path) (fun _ _ => True) made := by
  simp only [closeBpfObject, Program.bind_eq, Program.pure_eq]
  rcases opened : self.bpfObject with _ | handle
  · rw [if_neg (not_not_intro rfl)]
    exact .done trivial
  · rw [if_pos (Option.some_ne_none handle)]
    exact .call ⟨.bpfObjectClose handle (object.symm.trans opened), before⟩ fun _ => .done trivial

theorem destroy_obeys (standing : Standing name path self made) :
    Obeys world.environment self.destroy (InOrder name path) (fun _ _ => True) made := by
  simp only [destroy, Program.bind_eq, Program.pure_eq]
  refine .bind ((detachXdpProgram_obeys standing).mono ?_)
  rintro self₁ made₁ ⟨ring, object, before⟩
  refine .bind ((closeRingBuffer_obeys ring object before).mono ?_)
  rintro self₂ made₂ ⟨object, before⟩
  refine .bind ((closeBpfObject_obeys object before).mono ?_)
  exact fun _ _ _ => .done trivial

end XdpMonitor

theorem lifetime_obeys (world : World) (name path : String) (publicCalls : List PublicCall) :
    Obeys world.environment (lifetime name path publicCalls) (InOrder name path)
      (fun _ _ => True) [] := by
  have standing : Standing name path (.construct name path) [] :=
    ⟨rfl, rfl, .construct name path, .nil⟩
  simp only [lifetime, Program.bind_eq, Program.pure_eq]
  refine .bind ((PublicCall.performAll_obeys publicCalls standing).mono ?_)
  rintro ⟨results, self⟩ made standing
  refine .bind ((XdpMonitor.destroy_obeys standing).mono ?_)
  exact fun _ _ _ => .done trivial

/-- Every call of every lifetime is in order, whatever the calls before it returned: those that
were completed, and the one that the monitor waits on. -/
theorem lifetime_inOrder (world : World) (name path : String) (publicCalls : List PublicCall)
    (ticks : List (Tick Reply External)) :
    let final :=
      (Config.start External (lifetime name path publicCalls)).run world.environment ticks
    AtEach (fun before event => ∀ call result, event = .call call result →
        InOrder name path before call) (calls final.trace) ∧
      ∀ call next, final.thread.await = some ⟨call, next⟩ →
        InOrder name path (calls final.trace) call :=
  (lifetime_obeys world name path publicCalls).run ticks

end XdpExperiment
