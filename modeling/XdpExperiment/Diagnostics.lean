import XdpExperiment.Interaction.Discipline
import XdpExperiment.Output

/-!
# What the programs say on `stderr`

A program owes a message for each result that its monitor gives up on, and nothing else makes it
write to `stderr`. It settles what it owes before it does anything else, so the `errno` that a
message quotes is still the one of the call that the message is about.
-/

namespace XdpExperiment

open Interaction

variable {External Method : Type}

/-! ## Messages -/

/-- A message about a result; some messages quote `errno`. -/
inductive Message
  | plain (text : String)
  | quoting (text : Int → String)

/-- What the monitor of an interface says about a result that it gives up on. -/
def complaint (strerror : Int → String) (interface : String) :
    (call : Call) → call.Result → Option Message
  | .ifNametoindex name, (index : Ifindex) =>
      if index.val = 0 then
        some (.quoting fun errno => "Error: unknown network interface '" ++ name ++
          "' (errno=" ++ toString errno ++ ": " ++ strerror errno ++ ")\n")
      else none
  | .bpfObjectOpenFile path, (object : Pointer) =>
      if object = none then
        some (.quoting fun errno => "Error: failed to open BPF object '" ++ path ++
          "' (errno=" ++ toString errno ++ ": " ++ strerror errno ++ ")\n")
      else none
  | .bpfObjectLoad _, (code : Int) =>
      if code ≠ 0 then some (.plain "Error: failed to load BPF object into the kernel\n") else none
  | .bpfObjectFindProgramByName _ name, (program : Pointer) =>
      if program = none then
        some (.plain ("Error: XDP program '" ++ name ++ "' not found in object\n"))
      else none
  | .bpfObjectFindMapByName _ name, (map : Pointer) =>
      if map = none then
        some (.plain ("Error: ring buffer map '" ++ name ++ "' not found in object\n"))
      else none
  | .bpfProgramFd _, (fd : Int) =>
      if fd < 0 then some (.plain "Error: failed to get XDP program file descriptor\n") else none
  | .bpfXdpAttach _ _ _, (code : Int) =>
      if code ≠ 0 then
        some (.quoting fun errno => "Error: failed to attach XDP program to '" ++ interface ++
          "' (errno=" ++ toString errno ++ ": " ++ strerror errno ++ ").\n" ++
          "  Run with sudo, and make sure no other XDP program is\n" ++
          "  already attached (check: ip link show " ++ interface ++ ").\n")
      else none
  | .bpfMapFd _, (fd : Int) =>
      if fd < 0 then some (.plain "Error: failed to get ring buffer map fd\n") else none
  | .ringBufferNew _, (consumer : Pointer) =>
      if consumer = none then some (.plain "Error: failed to open ring buffer consumer\n")
      else none
  | .ringBufferPoll _ _, (poll : Poll) =>
      if poll.result < 0 then
        some (.plain ("Error: ring buffer poll failed (" ++ toString (-poll.result) ++ ": " ++
          strerror (-poll.result) ++ ")\n"))
      else none
  | _, _ => none

/-- A call of which the monitor never complains. -/
theorem AroundRun.complaint {strerror : Int → String} {interface : String} {call : Call}
    (around : AroundRun call) (result : call.Result) :
    complaint strerror interface call result = none := by
  rcases around with _ | _ | ⟨⟨⟩⟩ <;> rfl

section Owed

variable (strerror : Int → String) (interface : String)

/-- What is owed after one more event. -/
def owedAfter (owed : Option Message) : Event (processSignature Method) External → Option Message
  | .call (.inl call) result => complaint strerror interface call result
  | .call (.inr .errno) (errno : Int) =>
      match owed with
      | some (.quoting text) => some (.plain (text errno))
      | owed => owed
  | .call (.inr (.fprintf _)) _ => none
  | .call (.inr (.printf _)) _ => owed
  | .call (.inr (.method _)) _ => owed
  | .external _ => owed

/-- The message that a process owes after all that it has done. -/
def owed (history : List (Event (processSignature Method) External)) : Option Message :=
  history.foldl (owedAfter strerror interface) none

@[simp] theorem owed_concat (history : List (Event (processSignature Method) External))
    (event : Event (processSignature Method) External) :
    owed strerror interface (history ++ [event]) =
      owedAfter strerror interface (owed strerror interface history) event := by
  simp [owed]

end Owed

/-- What a process may do with this message owed: settle it, or go on if there is none. -/
inductive Due : Option Message → Call ⊕ Local Method → Prop
  | errno (text : Int → String) : Due (some (.quoting text)) (.inr .errno)
  | fprintf (text : String) : Due (some (.plain text)) (.inr (.fprintf text))
  | call (call : Call) : Due none (.inl call)
  | printf (text : String) : Due none (.inr (.printf text))
  | method (method : Method) : Due none (.inr (.method method))

/-- What is due comes next. -/
def Prompt (strerror : Int → String) (interface : String) :
    Discipline (processSignature Method) External :=
  fun history op => Due (owed strerror interface history) op

/-- What an event writes to `stderr`. -/
def written : Event (processSignature Method) External → Option String
  | .call (.inr (.fprintf text)) _ => some text
  | _ => none

/-- The texts a process has written to `stderr`. -/
def stderrOf (history : List (Event (processSignature Method) External)) : List String :=
  history.filterMap written

@[simp] theorem stderrOf_concat (history : List (Event (processSignature Method) External))
    (event : Event (processSignature Method) External) :
    stderrOf (history ++ [event]) = stderrOf history ++ (written event).toList := by
  rw [stderrOf, List.filterMap_append, ← stderrOf]
  cases texts : written event <;> simp [texts]

/-- The event is a call whose result the monitor gives up on. -/
def gaveUp (strerror : Int → String) (interface : String) :
    Event (processSignature Method) External → Bool
  | .call (.inl call) result => (complaint strerror interface call result).isSome
  | _ => false

/-- There is one message for each result given up on, save for one that is still owed. -/
theorem stderrOf_length {strerror : Int → String} {interface : String}
    {history : List (Event (processSignature Method) External)}
    (prompt : AtEach (fun before event => ∀ op result, event = .call op result →
      Prompt strerror interface before op) history) :
    (stderrOf history).length + (owed strerror interface history).toList.length =
      history.countP (gaveUp strerror interface) := by
  induction history using List.reverseRecOn with
  | nil => rfl
  | append_singleton history event ih =>
      obtain ⟨before, last⟩ := AtEach.concat_iff.mp prompt
      have counted := ih before
      rw [owed_concat, stderrOf_concat, List.countP_append, List.length_append]
      cases event with
      | external action => simpa [owedAfter, written, gaveUp] using counted
      | call op result =>
          have due := last op result rfl
          rw [Prompt] at due
          generalize owed strerror interface history = message at due counted ⊢
          cases due with
          | call call =>
              cases complains : complaint strerror interface call result <;>
                simpa [owedAfter, written, gaveUp, complains] using counted
          | _ => simpa [owedAfter, written, gaveUp] using counted

/-! ## What is owed along a program -/

/-- So much is owed, and so much was written. -/
structure Owes (strerror : Int → String) (interface : String) (message : Option Message)
    (texts : List String) (history : List (Event (processSignature Method) External)) : Prop where
  message : owed strerror interface history = message
  texts : stderrOf history = texts

section Owes

variable {strerror : Int → String} {interface : String} {texts : List String}
variable {history : List (Event (processSignature Method) External)}

theorem Owes.concat {message : Option Message}
    (owes : Owes strerror interface message texts history)
    (event : Event (processSignature Method) External) :
    Owes strerror interface (owedAfter strerror interface message event)
      (texts ++ (written event).toList) (history ++ [event]) where
  message := by rw [owed_concat, owes.message]
  texts := by rw [stderrOf_concat, owes.texts]

/-- An event that is not complained of and writes nothing. -/
theorem Owes.fine (settled : Owes strerror interface none texts history)
    {event : Event (processSignature Method) External}
    (fine : owedAfter strerror interface none event = none) (silent : written event = none) :
    Owes strerror interface none texts (history ++ [event]) := by
  have next := settled.concat event
  rwa [fine, silent, Option.toList_none, List.append_nil] at next

variable {env : Environment (processSignature Method) External} {α : Type}
variable {returned : α → List (Event (processSignature Method) External) → Prop}

/-- What is due may be done. -/
theorem Owes.obeys {message : Option Message}
    (owes : Owes strerror interface message texts history) {op : Call ⊕ Local Method}
    (due : Due message op) {next : (processSignature Method).Result op →
      Program (processSignature Method) α}
    (continues : ∀ result, Owes strerror interface
        (owedAfter strerror interface message
          (@Event.call (processSignature Method) External op result))
        (texts ++ (written (@Event.call (processSignature Method) External op result)).toList)
        (history ++ [.call op result]) →
      Obeys env (next result) (Prompt strerror interface) returned
        (history ++ [.call op result])) :
    Obeys env (.call op next) (Prompt strerror interface) returned history := by
  refine .call ?_ fun result => continues result (owes.concat _)
  rw [Prompt, owes.message]
  exact due

/-- A call, while nothing is owed. -/
theorem invoke_prompt (settled : Owes strerror interface none texts history) {call : Call}
    {next : call.Result → Program (processSignature Method) α}
    (continues : ∀ result history',
      Owes strerror interface (complaint strerror interface call result) texts history' →
      Obeys env (next result) (Prompt strerror interface) returned history') :
    Obeys env ((Silently Method (invoke call)).bind next) (Prompt strerror interface) returned
      history := by
  refine settled.obeys (.call call) fun result owes => continues result _ ?_
  simpa [owedAfter, written] using owes

/-- A plain message. -/
theorem plain_prompt {text : String} {next : Unit → Program (processSignature Method) α}
    (owes : Owes strerror interface (some (.plain text)) texts history)
    (continues : ∀ history', Owes strerror interface none (texts ++ [text]) history' →
      Obeys env (next ()) (Prompt strerror interface) returned history') :
    Obeys env ((perform (.fprintf text)).bind next) (Prompt strerror interface) returned
      history :=
  owes.obeys (.fprintf text) fun _ settled => continues _ settled

/-- A message that quotes `errno`. -/
theorem quoting_prompt {text : Int → String} {next : Unit → Program (processSignature Method) α}
    (owes : Owes strerror interface (some (.quoting text)) texts history)
    (continues : ∀ errno history', Owes strerror interface none (texts ++ [text errno]) history' →
      Obeys env (next ()) (Prompt strerror interface) returned history') :
    Obeys env ((perform .errno).bind fun errno => (perform (.fprintf (text errno))).bind next)
      (Prompt strerror interface) returned history := by
  refine owes.obeys (.errno text) fun (errno : Int) owes' => ?_
  have read : Owes strerror interface (some (.plain (text errno))) texts
      (history ++ [@Event.call (processSignature Method) _ (.inr .errno) errno]) := by
    simpa [owedAfter, written] using owes'
  exact plain_prompt read (continues errno)

/-- What is neither a call nor a message, while nothing is owed. -/
theorem quiet_prompt {action : Local Method}
    {next : action.Result → Program (processSignature Method) α}
    (settled : Owes strerror interface none texts history)
    (due : Due none (.inr action : Call ⊕ Local Method))
    (continues : ∀ result history', Owes strerror interface none texts history' →
      Obeys env (next result) (Prompt strerror interface) returned history') :
    Obeys env ((perform action).bind next) (Prompt strerror interface) returned history := by
  refine settled.obeys due fun result _ => continues result _ ?_
  cases due <;> exact settled.fine rfl rfl

end Owes

/-! ## The monitor's steps -/

/-- A step that succeeds has nothing to say, and one that fails says what went wrong. -/
def StepReports (strerror : Int → String) (interface : String) (out : Bool × XdpMonitor)
    (history : List (Event (processSignature Method) External)) : Prop :=
  out.2.targetInterfaceName = interface ∧
    if out.1 then Owes strerror interface none [] history
    else ∃ text, Owes strerror interface none [text] history

/-- A run fails with one message, and succeeds with at most one, about a failed poll. -/
def RunReports (strerror : Int → String) (interface : String) (status : Int)
    (history : List (Event (processSignature Method) External)) : Prop :=
  ∃ texts, Owes strerror interface none texts history ∧
    (status = 1 ∧ texts.length = 1 ∨ status = 0 ∧ texts.length ≤ 1)

namespace XdpMonitor.Printing

variable {strerror : Int → String} {interface : String} {self : XdpMonitor}
variable {history : List (Event (processSignature Method) External)}
variable {env : Environment (processSignature Method) External}

theorem resolveInterfaceIndex_prompt (named : self.targetInterfaceName = interface)
    (settled : Owes strerror interface none [] history) :
    Obeys env (resolveInterfaceIndex strerror self) (Prompt strerror interface)
      (StepReports strerror interface) history := by
  refine invoke_prompt settled fun index history owes => ?_
  simp only [Program.pure_eq, Program.bind_eq, complaint, Int.natCast_eq_zero] at owes ⊢
  by_cases unknown : index.val = 0
  · simp only [if_pos unknown] at owes ⊢
    exact quoting_prompt owes fun errno history settled => .done ⟨named, _, settled⟩
  · simp only [if_neg unknown] at owes ⊢
    exact .done ⟨named, owes⟩

theorem loadBpfObject_prompt (named : self.targetInterfaceName = interface)
    (settled : Owes strerror interface none [] history) :
    Obeys env (loadBpfObject strerror self) (Prompt strerror interface)
      (StepReports strerror interface) history := by
  refine invoke_prompt settled fun object history owes => ?_
  simp only [Program.pure_eq, Program.bind_eq, complaint] at owes ⊢
  by_cases missing : object = none
  · simp only [if_pos missing] at owes ⊢
    exact quoting_prompt owes fun errno history settled => .done ⟨named, _, settled⟩
  simp only [if_neg missing] at owes ⊢
  refine invoke_prompt owes fun loaded history owes => ?_
  simp only [complaint] at owes
  by_cases failed : loaded ≠ 0
  · simp only [if_pos failed] at owes ⊢
    exact plain_prompt owes fun history settled => .done ⟨named, _, settled⟩
  · simp only [if_neg failed] at owes ⊢
    exact .done ⟨named, owes⟩

theorem findBpfProgramAndMap_prompt (named : self.targetInterfaceName = interface)
    (settled : Owes strerror interface none [] history) :
    Obeys env (findBpfProgramAndMap self) (Prompt strerror interface)
      (StepReports strerror interface) history := by
  refine invoke_prompt settled fun program history owes => ?_
  simp only [Program.pure_eq, Program.bind_eq, complaint] at owes ⊢
  by_cases missing : program = none
  · simp only [if_pos missing] at owes ⊢
    exact plain_prompt owes fun history settled => .done ⟨named, _, settled⟩
  simp only [if_neg missing] at owes ⊢
  refine invoke_prompt owes fun map history owes => ?_
  simp only [complaint] at owes
  by_cases missing : map = none
  · simp only [if_pos missing] at owes ⊢
    exact plain_prompt owes fun history settled => .done ⟨named, _, settled⟩
  simp only [if_neg missing] at owes ⊢
  refine invoke_prompt owes fun (fd : Int) history owes => ?_
  simp only [complaint] at owes
  by_cases failed : fd < 0
  · simp only [if_pos failed] at owes ⊢
    exact plain_prompt owes fun history settled => .done ⟨named, _, settled⟩
  · simp only [if_neg failed] at owes ⊢
    exact .done ⟨named, owes⟩

theorem attachXdpProgram_prompt (named : self.targetInterfaceName = interface)
    (settled : Owes strerror interface none [] history) :
    Obeys env (attachXdpProgram strerror self) (Prompt strerror interface)
      (StepReports strerror interface) history := by
  subst named
  refine invoke_prompt settled fun attached history owes => ?_
  simp only [Program.pure_eq, Program.bind_eq, complaint] at owes ⊢
  by_cases failed : attached ≠ 0
  · simp only [if_pos failed] at owes ⊢
    exact quoting_prompt owes fun errno history settled => .done ⟨rfl, _, settled⟩
  · simp only [if_neg failed] at owes ⊢
    exact .done ⟨rfl, owes⟩

theorem openRingBuffer_prompt (named : self.targetInterfaceName = interface)
    (settled : Owes strerror interface none [] history) :
    Obeys env (openRingBuffer self) (Prompt strerror interface)
      (StepReports strerror interface) history := by
  refine invoke_prompt settled fun (fd : Int) history owes => ?_
  simp only [Program.pure_eq, Program.bind_eq, complaint] at owes ⊢
  by_cases failed : fd < 0
  · simp only [if_pos failed] at owes ⊢
    exact plain_prompt owes fun history settled => .done ⟨named, _, settled⟩
  simp only [if_neg failed] at owes ⊢
  refine invoke_prompt owes fun consumer history owes => ?_
  simp only [complaint] at owes
  by_cases missing : consumer = none
  · simp only [if_pos missing] at owes ⊢
    exact plain_prompt owes fun history settled => .done ⟨named, _, settled⟩
  · simp only [if_neg missing] at owes ⊢
    exact .done ⟨named, owes⟩

/-- The loop says nothing unless it is left for a failed poll. -/
theorem pollRingBuffer_prompt (settled : Owes strerror interface none [] history) :
    Obeys env (pollRingBuffer strerror self) (Prompt strerror interface)
      (fun _ history => ∃ texts, texts.length ≤ 1 ∧ Owes strerror interface none texts history)
      history := by
  have leaves (texts : List String) (few : texts.length ≤ 1)
      {history : List (Event (processSignature Method) External)}
      (settled : Owes strerror interface none texts history) :
      Obeys env (.done ()) (Prompt strerror interface) (fun _ history => ∃ texts,
        texts.length ≤ 1 ∧ Owes strerror interface none texts history) history :=
    .done ⟨texts, few, settled⟩
  refine .loop (fun history settled => ⟨?_, fun (stop : Bool) => ?_⟩) settled
  · rw [Prompt, settled.message]
    exact .call _
  have read := @Owes.fine _ _ _ _ _ _ settled (@Event.call (processSignature Method) External
    (.inl .stopMonitoringRequested) stop) rfl rfl
  simp only [Program.pure_eq, Program.bind_eq]
  cases stop
  case true => exact .done (leaves [] (Nat.zero_le 1) read)
  refine invoke_prompt read fun poll history owes => ?_
  simp only [complaint] at owes
  by_cases failed : poll.result < 0
  · simp only [if_pos failed] at owes ⊢
    exact plain_prompt owes fun history settled => .done (leaves [_] (Nat.le_refl 1) settled)
  · simp only [if_neg failed] at owes ⊢
    exact .done owes

theorem run_prompt (named : self.targetInterfaceName = interface)
    (settled : Owes strerror interface none [] history) :
    Obeys env (run strerror self) (Prompt strerror interface)
      (fun out history => RunReports strerror interface out.1 history) history := by
  have fails {self : XdpMonitor} {history : List (Event (processSignature Method) External)}
      (reported : StepReports strerror interface (false, self) history) :
      Obeys env (.done ((1 : Int), self)) (Prompt strerror interface)
        (fun out history => RunReports strerror interface out.1 history) history := by
    obtain ⟨-, text, settled⟩ := reported
    exact .done ⟨[text], settled, .inl ⟨rfl, rfl⟩⟩
  refine .bind ((resolveInterfaceIndex_prompt named settled).mono ?_)
  rintro ⟨resolved, self⟩ history reported
  cases resolved
  case false => exact fails reported
  refine .bind ((loadBpfObject_prompt reported.1 reported.2).mono ?_)
  rintro ⟨loaded, self⟩ history reported
  cases loaded
  case false => exact fails reported
  refine .bind ((findBpfProgramAndMap_prompt reported.1 reported.2).mono ?_)
  rintro ⟨found, self⟩ history reported
  cases found
  case false => exact fails reported
  refine .bind ((attachXdpProgram_prompt reported.1 reported.2).mono ?_)
  rintro ⟨attached, self⟩ history reported
  cases attached
  case false => exact fails reported
  refine .bind ((openRingBuffer_prompt reported.1 reported.2).mono ?_)
  rintro ⟨opened, self⟩ history reported
  cases opened
  case false => exact fails reported
  refine quiet_prompt reported.2 (.printf _) fun _ history settled => ?_
  refine .bind ((pollRingBuffer_prompt settled).mono ?_)
  rintro _ history ⟨texts, few, settled⟩
  exact quiet_prompt settled (.printf _) fun _ history settled =>
    .done ⟨texts, settled, .inr ⟨rfl, few⟩⟩

end XdpMonitor.Printing

/-! ## The programs -/

section Mains

variable {strerror : Int → String} {interface : String} {texts : List String}
variable {history : List (Event (processSignature Method) External)}
variable {env : Environment (processSignature Method) External}

/-- Anything but a call before or after the run. -/
def NotAround (op : Call ⊕ Local Method) : Prop := ¬∃ call, op = .inl call ∧ AroundRun call

theorem AroundRun.not_notAround (call : Call) (around : AroundRun call) :
    ¬NotAround (.inl call : Call ⊕ Local Method) := fun none => none ⟨call, rfl, around⟩

/-- Before and after the run, nothing is complained of. -/
theorem around_prompt {program : Program (processSignature Method) Unit}
    (around : program.Confined NotAround fun _ => True)
    (settled : Owes strerror interface none texts history) :
    Obeys env program (Prompt strerror interface)
      (fun _ history => Owes strerror interface none texts history) history := by
  refine (Obeys.of_confined (fun history op settled fine => ?_) around settled).mono
    fun _ _ ends => ends.2
  obtain ⟨call, rfl, around⟩ := not_not.mp fine
  refine ⟨?_, fun result => settled.fine (around.complaint result) rfl⟩
  rw [Prompt, settled.message]
  exact .call call

/-- The texts as writes to `stderr`. -/
def saying (texts : List String) : List (Event (processSignature Method) External) :=
  texts.map fun text => @Event.call (processSignature Method) External (.inr (.fprintf text)) ()

theorem fprintf_said {all : List (Event (processSignature Method) External)} (texts : List String)
    {trace : List (Event (processSignature Method) External)}
    (left : calls trace ++ saying texts = all) :
    Ensures env (texts.forM fun text => perform (.fprintf text) :
        Program (processSignature Method) PUnit)
      (fun _ trace => calls trace <+: all) (fun _ trace => calls trace = all) trace := by
  induction texts generalizing trace with
  | nil => exact .done (by simpa [saying] using left)
  | cons text texts ih =>
      have stable : Stable fun trace => calls trace ++ saying (text :: texts) = all := by
        intro trace action left
        simpa using left
      refine XdpMonitor.Printing.perform_ensures stable (fun reached left => ⟨⟨_, left⟩, ?_⟩) left
      intro result
      refine ih ?_
      simpa [saying] using left

theorem reject_said (rejection : Rejection) :
    Ensures env (reject rejection) (fun _ trace => calls trace <+: saying rejection.stderr)
      (fun status trace => status = rejection.status ∧
        calls trace = saying rejection.stderr) [] := by
  refine .bind ((fprintf_said rejection.stderr (by simp)).mono (fun _ _ soFar => soFar) ?_)
  exact fun _ trace said => .done ⟨rfl, said⟩

/-- A process says what it has to say when it has to. -/
structure Diagnoses (strerror : Int → String) (interface : String)
    (config : Config (processSignature Method) External Int) : Prop where
  /-- Whatever was due came next, and nothing else was written. -/
  prompt : AtEach (fun before event => ∀ op result, event = .call op result →
    Due (owed strerror interface before) op) (calls config.trace)
  next : ∀ op next, config.thread.await = some ⟨op, next⟩ →
    Due (owed strerror interface (calls config.trace)) op
  /-- One message for each result given up on, the one that is still owed included. -/
  messages : (stderrOf (calls config.trace)).length +
      (owed strerror interface (calls config.trace)).toList.length =
    (calls config.trace).countP (gaveUp strerror interface)
  /-- In the end nothing is owed, and the monitor gave up at most once; a failure tells why. -/
  exit : ∀ status, config.thread = .done status →
    owed strerror interface (calls config.trace) = none ∧
      (status = 1 ∧ (stderrOf (calls config.trace)).length = 1 ∨
        status = 0 ∧ (stderrOf (calls config.trace)).length ≤ 1)

/-- What either program says, and when. -/
def Diagnosing (strerror : Int → String) (program : String)
    (parsed : Except Rejection MonitorArguments)
    (config : Config (processSignature Method) External Int) : Prop :=
  match parsed with
  | .error rejection =>
      (∃ messages, rejection.stderr = messages ++ [usage program]) ∧
        calls config.trace <+: saying rejection.stderr ∧
          ∀ status, config.thread = .done status →
            status = 1 ∧ calls config.trace = saying rejection.stderr
  | .ok accepted => Diagnoses strerror accepted.targetInterfaceName config

theorem Diagnoses.of_obeys {program : Program (processSignature Method) Int}
    (obeys : Obeys env program (Prompt strerror interface) (RunReports strerror interface) [])
    (ticks : List (Tick env.Reply External)) :
    Diagnoses strerror interface ((Config.start External program).run env ticks) where
  prompt := (obeys.run ticks).1
  next := (obeys.run ticks).2
  messages := stderrOf_length (obeys.run ticks).1
  exit := by
    intro status returns
    obtain ⟨texts, ⟨nothing, said⟩, statuses⟩ := (obeys [] rfl ticks).2 status returns
    exact ⟨nothing, by rwa [← said] at statuses⟩

theorem Diagnosing.of_rejects {program : String} {rejection : Rejection}
    (explains : ∃ messages, rejection.stderr = messages ++ [usage program])
    (fails : rejection.status = 1) (ticks : List (Tick env.Reply External)) :
    Diagnosing strerror program (.error rejection)
      ((Config.start External (reject rejection)).run env ticks) := by
  have meets := @reject_said _ _ env rejection ticks
  refine ⟨explains, meets.always fun _ trace ends => ?_, fun status returns => ?_⟩
  · rw [ends.2]
  · obtain ⟨rfl, said⟩ := meets.2 status returns
    exact ⟨fails, said⟩

theorem owes_nil : Owes strerror interface none []
    ([] : List (Event (processSignature Method) External)) := ⟨rfl, rfl⟩

theorem xdpDemoMain_prompt {env : Environment (processSignature Empty) External}
    {program embeddedPath : String} {arguments : List String} {accepted : MonitorArguments}
    (accepts : xdpDemo program embeddedPath arguments = .ok accepted) :
    Obeys env (xdpDemoMain strerror program embeddedPath arguments)
      (Prompt strerror accepted.targetInterfaceName)
      (RunReports strerror accepted.targetInterfaceName) [] := by
  rw [xdpDemoMain, accepts]
  refine .bind ((around_prompt (installSignalHandlers_confined AroundRun.not_notAround)
    owes_nil).mono ?_)
  intro _ history settled
  refine .bind ((XdpMonitor.Printing.run_prompt rfl settled).mono ?_)
  rintro ⟨status, monitor⟩ history ⟨texts, settled, statuses⟩
  refine .bind ((around_prompt (destroy_confined AroundRun.not_notAround monitor) settled).mono ?_)
  exact fun _ history settled => .done ⟨texts, settled, statuses⟩

theorem xdpAppMain_prompt {env : Environment (processSignature ApplicationMethod) External}
    {program embeddedPath : String} {arguments : List String} {accepted : MonitorArguments}
    (accepts : xdpAppIntegrationExample program embeddedPath arguments = .ok accepted) :
    Obeys env (xdpAppIntegrationExampleMain strerror program embeddedPath arguments)
      (Prompt strerror accepted.targetInterfaceName)
      (RunReports strerror accepted.targetInterfaceName) [] := by
  rw [xdpAppIntegrationExampleMain, accepts]
  refine .bind ((around_prompt (installSignalHandlers_confined AroundRun.not_notAround)
    owes_nil).mono ?_)
  intro _ history settled
  refine .bind ((XdpMonitor.Printing.run_prompt rfl settled).mono ?_)
  rintro ⟨exitCode, monitor⟩ history ⟨texts, settled, statuses⟩
  have teardown {history : List (Event (processSignature ApplicationMethod) External)}
      (settled : Owes strerror accepted.targetInterfaceName none texts history) :
      Obeys env ((Silently ApplicationMethod monitor.destroy).bind fun _ => .done exitCode)
        (Prompt strerror accepted.targetInterfaceName)
        (RunReports strerror accepted.targetInterfaceName) history := by
    refine .bind ((around_prompt (destroy_confined AroundRun.not_notAround monitor)
      settled).mono ?_)
    exact fun _ history settled => .done ⟨texts, settled, statuses⟩
  simp only [Program.pure_eq, Program.bind_eq]
  split
  · exact quiet_prompt settled (.method _) fun _ history settled => teardown settled
  · exact teardown settled

/-- Whatever the surroundings of a program are, it says on `stderr` exactly what it has to: after a
rejected command line what is wrong with it and how it is used; and after every result that its
monitor gives up on, before it does anything else, one message about it. It exits with a failure
only if there was one. -/
theorem executables_diagnose (strerror : Int → String) (program embeddedPath : String)
    (arguments : List String) :
    (∀ (env : Environment (processSignature Empty) External)
        (ticks : List (Tick env.Reply External)),
      Diagnosing strerror program (xdpDemo program embeddedPath arguments)
        ((Config.start External
          (xdpDemoMain strerror program embeddedPath arguments)).run env ticks)) ∧
    ∀ (env : Environment (processSignature ApplicationMethod) External)
        (ticks : List (Tick env.Reply External)),
      Diagnosing strerror program (xdpAppIntegrationExample program embeddedPath arguments)
        ((Config.start External (xdpAppIntegrationExampleMain strerror program embeddedPath
          arguments)).run env ticks) := by
  constructor
  · intro env ticks
    cases parsed : xdpDemo program embeddedPath arguments with
    | ok accepted => exact .of_obeys (xdpDemoMain_prompt parsed) ticks
    | error rejection =>
        rw [xdpDemoMain, parsed]
        obtain ⟨message, stderr⟩ := xdpDemo_stderr parsed
        exact .of_rejects ⟨[message], stderr⟩ (xdpDemo_status parsed) ticks
  · intro env ticks
    cases parsed : xdpAppIntegrationExample program embeddedPath arguments with
    | ok accepted => exact .of_obeys (xdpAppMain_prompt parsed) ticks
    | error rejection =>
        rw [xdpAppIntegrationExampleMain, parsed]
        exact .of_rejects ⟨[], xdpAppIntegrationExample_stderr parsed⟩
          (xdpAppIntegrationExample_status parsed) ticks

end Mains

end XdpExperiment
