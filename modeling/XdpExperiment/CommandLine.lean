import Mathlib.Data.List.Induction
import Mathlib.Tactic.Common

/-!
# The command lines of the two programs

Both programs document the same command line and scan it with a loop of their own. The loops differ
in how they remember that an interface was given and in what they make of an option at the very
end.
-/

namespace XdpExperiment

/-- What a program prints when it gives up, and its exit status. -/
structure Rejection where
  stderr : List String
  status : Int
  deriving DecidableEq

/-- What the constructor of the monitor gets, besides the handler. -/
structure MonitorArguments where
  targetInterfaceName : String
  bpfObjectFilePath : String
  deriving DecidableEq

def usage (program : String) : String :=
  "Usage: " ++ program ++ " [interface] [--bpf <path-to-xdp_prog.o>]\n"

/-- The loop of `args::parse` on the arguments that are left. -/
def Args.parse : List String → MonitorArguments → Except String MonitorArguments
  | [], parsed => .ok parsed
  | currentArgument :: rest, parsed =>
      if currentArgument = "--bpf" then
        match rest with
        | [] => .error "Error: '--bpf' requires a path argument.\n"
        | path :: rest => Args.parse rest { parsed with bpfObjectFilePath := path }
      else if parsed.targetInterfaceName = "" then
        Args.parse rest { parsed with targetInterfaceName := currentArgument }
      else
        .error ("Error: unexpected argument '" ++ currentArgument ++ "'.\n")

/-- `main` of the demo up to the construction of the monitor. -/
def xdpDemo (program embeddedPath : String) (arguments : List String) :
    Except Rejection MonitorArguments :=
  match Args.parse arguments ⟨"", ""⟩ with
  | .error message => .error ⟨[message, usage program], 1⟩
  | .ok parsed =>
      .ok {
        targetInterfaceName :=
          if parsed.targetInterfaceName = "" then "enp5s0" else parsed.targetInterfaceName
        bpfObjectFilePath :=
          if parsed.bpfObjectFilePath = "" then embeddedPath else parsed.bpfObjectFilePath }

/-- The loop in `main` of the integration example. -/
def appScan (program : String) :
    List String → MonitorArguments → Except Rejection MonitorArguments
  | [], parsed => .ok parsed
  | currentArgument :: rest, parsed =>
      match decide (currentArgument = "--bpf"), rest with
      | true, path :: rest => appScan program rest { parsed with bpfObjectFilePath := path }
      | _, rest =>
          if parsed.targetInterfaceName = "enp5s0" then
            appScan program rest { parsed with targetInterfaceName := currentArgument }
          else
            .error ⟨[usage program], 1⟩

/-- `main` of the integration example up to the construction of the monitor. -/
def xdpAppIntegrationExample (program embeddedPath : String) (arguments : List String) :
    Except Rejection MonitorArguments :=
  match appScan program arguments ⟨"enp5s0", ""⟩ with
  | .error rejection => .error rejection
  | .ok parsed =>
      .ok { parsed with
        bpfObjectFilePath :=
          if parsed.bpfObjectFilePath = "" then embeddedPath else parsed.bpfObjectFilePath }

/-! ## Groups of arguments -/

/-- An option with its value, or a single argument. -/
inductive ArgumentGroup
  | bpf (path : String)
  | positional (argument : String)
  deriving DecidableEq

/-- The groups of a command line from left to right, and whether an option without a value is left
at its end. -/
def groups : List String → List ArgumentGroup × Bool
  | [] => ([], false)
  | currentArgument :: rest =>
      if currentArgument = "--bpf" then
        match rest with
        | [] => ([], true)
        | path :: rest => (.bpf path :: (groups rest).1, (groups rest).2)
      else (.positional currentArgument :: (groups rest).1, (groups rest).2)

/-- Take over the groups one by one. An interface name is taken for as long as the one there is
counts as not given. -/
def assign (notGiven : String) : List ArgumentGroup → MonitorArguments → Option MonitorArguments
  | [], parsed => some parsed
  | .bpf path :: rest, parsed => assign notGiven rest { parsed with bpfObjectFilePath := path }
  | .positional argument :: rest, parsed =>
      if parsed.targetInterfaceName = notGiven then
        assign notGiven rest { parsed with targetInterfaceName := argument }
      else none

def positionals : List ArgumentGroup → List String
  | [] => []
  | .bpf _ :: rest => positionals rest
  | .positional argument :: rest => argument :: positionals rest

def paths : List ArgumentGroup → List String
  | [] => []
  | .bpf path :: rest => path :: paths rest
  | .positional _ :: rest => paths rest

theorem positionals_append (line line' : List ArgumentGroup) :
    positionals (line ++ line') = positionals line ++ positionals line' := by
  induction line with
  | nil => rfl
  | cons group line ih => cases group <;> simp [positionals, ih]

theorem paths_append (line line' : List ArgumentGroup) :
    paths (line ++ line') = paths line ++ paths line' := by
  induction line with
  | nil => rfl
  | cons group line ih => cases group <;> simp [paths, ih]

theorem parse_positional {argument : String} (notOption : argument ≠ "--bpf")
    (rest : List String) (parsed : MonitorArguments) :
    Args.parse (argument :: rest) parsed =
      if parsed.targetInterfaceName = "" then
        Args.parse rest { parsed with targetInterfaceName := argument }
      else .error ("Error: unexpected argument '" ++ argument ++ "'.\n") := by
  rw [Args.parse.eq_def]
  simp only [notOption, if_false]

theorem appScan_positional (program : String) {argument : String} (notOption : argument ≠ "--bpf")
    (rest : List String) (parsed : MonitorArguments) :
    appScan program (argument :: rest) parsed =
      if parsed.targetInterfaceName = "enp5s0" then
        appScan program rest { parsed with targetInterfaceName := argument }
      else .error ⟨[usage program], 1⟩ := by
  rw [appScan.eq_def]
  simp [notOption]

theorem groups_positional {argument : String} (notOption : argument ≠ "--bpf")
    (rest : List String) :
    groups (argument :: rest) = (.positional argument :: (groups rest).1, (groups rest).2) := by
  rw [groups.eq_def]
  simp only [notOption, if_false]

/-- The demo rejects a dangling option and else assigns the groups. -/
theorem parse_toOption (arguments : List String) (parsed : MonitorArguments) :
    (Args.parse arguments parsed).toOption =
      if (groups arguments).2 then none else assign "" (groups arguments).1 parsed := by
  induction arguments using groups.induct generalizing parsed with
  | case1 => rfl
  | case2 => rfl
  | case3 path rest ih => exact ih _
  | case4 argument rest notOption ih =>
      rw [parse_positional notOption, groups_positional notOption, assign]
      by_cases free : parsed.targetInterfaceName = ""
      · rw [if_pos free, if_pos free]
        exact ih _
      · rw [if_neg free, if_neg free, ite_self]
        rfl

/-- The integration example takes a dangling option for an interface name. -/
theorem appScan_toOption (program : String) (arguments : List String)
    (parsed : MonitorArguments) :
    (appScan program arguments parsed).toOption =
      assign "enp5s0" ((groups arguments).1 ++
        if (groups arguments).2 then [.positional "--bpf"] else []) parsed := by
  induction arguments using groups.induct generalizing parsed with
  | case1 => rfl
  | case2 =>
      change (if parsed.targetInterfaceName = "enp5s0" then _ else _ : Except _ _).toOption =
        if parsed.targetInterfaceName = "enp5s0" then _ else _
      by_cases free : parsed.targetInterfaceName = "enp5s0"
      · rw [if_pos free, if_pos free]
        rfl
      · rw [if_neg free, if_neg free]
        rfl
  | case3 path rest ih => exact ih _
  | case4 argument rest notOption ih =>
      rw [appScan_positional program notOption, groups_positional notOption, List.cons_append,
        assign]
      by_cases free : parsed.targetInterfaceName = "enp5s0"
      · rw [if_pos free, if_pos free]
        exact ih _
      · rw [if_neg free, if_neg free]
        rfl

/-- Whoever gives up does so with status 1. -/
theorem appScan_status {program : String} {arguments : List String} {parsed : MonitorArguments}
    {rejection : Rejection} (rejects : appScan program arguments parsed = .error rejection) :
    rejection.status = 1 := by
  induction arguments using groups.induct generalizing parsed with
  | case1 => cases rejects
  | case2 =>
      change (if parsed.targetInterfaceName = "enp5s0" then _ else _) = _ at rejects
      split at rejects
      · cases rejects
      · cases rejects
        rfl
  | case3 path rest ih => exact ih rejects
  | case4 argument rest notOption ih =>
      rw [appScan_positional program notOption] at rejects
      split at rejects
      · exact ih rejects
      · cases rejects
        rfl

/-- An assignment succeeds unless a name is given after a name that counts as given. -/
theorem assign_eq (notGiven : String) (line : List ArgumentGroup) (name path : String) :
    assign notGiven line ⟨name, path⟩ =
      if ∀ earlier ∈ (name :: positionals line).dropLast, earlier = notGiven then
        some ⟨(positionals line).getLastD name, (paths line).getLastD path⟩
      else none := by
  induction line generalizing name path with
  | nil => simp [assign, positionals, paths]
  | cons group line ih =>
      cases group with
      | bpf value => rw [assign, ih, positionals, paths, List.getLastD_cons]
      | positional argument =>
          rw [assign, ih, positionals, paths, List.getLastD_cons, List.dropLast_cons_cons]
          by_cases free : name = notGiven
          · simp only [free, if_true, List.forall_mem_cons, true_and]
          · simp only [free, if_false, List.forall_mem_cons, false_and]

theorem assign_start (notGiven : String) (line : List ArgumentGroup) (path : String) :
    assign notGiven line ⟨notGiven, path⟩ =
      if ∀ earlier ∈ (positionals line).dropLast, earlier = notGiven then
        some ⟨(positionals line).getLastD notGiven, (paths line).getLastD path⟩
      else none := by
  rw [assign_eq]
  cases positionals line with
  | nil => simp
  | cons first names => simp

/-! ## Where the programs agree -/

/-- Both reject the command line with exit status 1, or both construct the monitor with the same
arguments. -/
def Agree : Except Rejection MonitorArguments → Except Rejection MonitorArguments → Prop
  | .ok demo, .ok app => demo = app
  | .error demo, .error app => demo.status = 1 ∧ app.status = 1
  | _, _ => False

/-- The empty name and the default name are the traps: each counts as not given for one of the two
programs. -/
def SameInterface (arguments : List String) : Prop :=
  let names := positionals (groups arguments).1
  if (groups arguments).2 then
    ∃ name ∈ names, name ≠ "enp5s0"
  else
    names = [] ∨ (∃ name, names = [name] ∧ name ≠ "") ∨
      2 ≤ names.length ∧ (∃ name ∈ names.dropLast, name ≠ "") ∧
        ∃ name ∈ names.dropLast, name ≠ "enp5s0"

theorem agree_iff_toOption {demo app : Except Rejection MonitorArguments}
    (demoStatus : ∀ rejection, demo = .error rejection → rejection.status = 1)
    (appStatus : ∀ rejection, app = .error rejection → rejection.status = 1) :
    Agree demo app ↔ demo.toOption = app.toOption := by
  cases demo with
  | ok demo =>
      cases app with
      | ok app => simp [Agree, Except.toOption]
      | error app => simp [Agree, Except.toOption]
  | error demo =>
      cases app with
      | ok app => simp [Agree, Except.toOption]
      | error app => simp [Agree, Except.toOption, demoStatus, appStatus]

/-- The default for a value that was not given. -/
def orElse (value default : String) : String := if value = "" then default else value

theorem xdpDemo_toOption (program embeddedPath : String) (arguments : List String) :
    (xdpDemo program embeddedPath arguments).toOption =
      if (groups arguments).2 then none
      else if ∀ earlier ∈ (positionals (groups arguments).1).dropLast, earlier = "" then
        some ⟨orElse ((positionals (groups arguments).1).getLastD "") "enp5s0",
          orElse ((paths (groups arguments).1).getLastD "") embeddedPath⟩
      else none := by
  have scanned := parse_toOption arguments ⟨"", ""⟩
  rw [assign_start] at scanned
  have whole : (xdpDemo program embeddedPath arguments).toOption =
      (Args.parse arguments ⟨"", ""⟩).toOption.map fun parsed =>
        ⟨orElse parsed.targetInterfaceName "enp5s0",
          orElse parsed.bpfObjectFilePath embeddedPath⟩ := by
    rw [xdpDemo]
    cases Args.parse arguments ⟨"", ""⟩ <;> rfl
  rw [whole, scanned]
  split
  · rfl
  · split <;> rfl

theorem xdpAppIntegrationExample_toOption (program embeddedPath : String)
    (arguments : List String) :
    (xdpAppIntegrationExample program embeddedPath arguments).toOption =
      let names := positionals (groups arguments).1 ++
        if (groups arguments).2 then ["--bpf"] else []
      if ∀ earlier ∈ names.dropLast, earlier = "enp5s0" then
        some ⟨names.getLastD "enp5s0",
          orElse ((paths (groups arguments).1).getLastD "") embeddedPath⟩
      else none := by
  have scanned := appScan_toOption program arguments ⟨"enp5s0", ""⟩
  rw [assign_start] at scanned
  have whole : (xdpAppIntegrationExample program embeddedPath arguments).toOption =
      (appScan program arguments ⟨"enp5s0", ""⟩).toOption.map fun parsed =>
        ⟨parsed.targetInterfaceName, orElse parsed.bpfObjectFilePath embeddedPath⟩ := by
    rw [xdpAppIntegrationExample]
    cases appScan program arguments ⟨"enp5s0", ""⟩ <;> rfl
  rw [whole, scanned, positionals_append, paths_append]
  cases (groups arguments).2 with
  | true =>
      simp only [if_true, positionals, paths, List.append_nil]
      split <;> rfl
  | false =>
      simp only [Bool.false_eq_true, if_false, positionals, paths, List.append_nil]
      split <;> rfl

theorem xdpDemo_status {program embeddedPath : String} {arguments : List String}
    {rejection : Rejection}
    (rejects : xdpDemo program embeddedPath arguments = .error rejection) :
    rejection.status = 1 := by
  rw [xdpDemo] at rejects
  split at rejects
  · cases rejects
    rfl
  · cases rejects

theorem xdpAppIntegrationExample_status {program embeddedPath : String}
    {arguments : List String} {rejection : Rejection}
    (rejects : xdpAppIntegrationExample program embeddedPath arguments = .error rejection) :
    rejection.status = 1 := by
  rw [xdpAppIntegrationExample] at rejects
  split at rejects
  · rename_i scanned
    cases rejects
    exact appScan_status scanned
  · cases rejects

theorem appScan_stderr {program : String} {arguments : List String} {parsed : MonitorArguments}
    {rejection : Rejection} (rejects : appScan program arguments parsed = .error rejection) :
    rejection.stderr = [usage program] := by
  induction arguments using groups.induct generalizing parsed with
  | case1 => cases rejects
  | case2 =>
      change (if parsed.targetInterfaceName = "enp5s0" then _ else _) = _ at rejects
      split at rejects
      · cases rejects
      · cases rejects
        rfl
  | case3 path rest ih => exact ih rejects
  | case4 argument rest notOption ih =>
      rw [appScan_positional program notOption] at rejects
      split at rejects
      · exact ih rejects
      · cases rejects
        rfl

/-- A rejection of the integration example says how to use it. -/
theorem xdpAppIntegrationExample_stderr {program embeddedPath : String} {arguments : List String}
    {rejection : Rejection}
    (rejects : xdpAppIntegrationExample program embeddedPath arguments = .error rejection) :
    rejection.stderr = [usage program] := by
  rw [xdpAppIntegrationExample] at rejects
  split at rejects
  · rename_i scanned
    cases rejects
    exact appScan_stderr scanned
  · cases rejects

/-- A rejection of the demo says what is wrong first. -/
theorem xdpDemo_stderr {program embeddedPath : String} {arguments : List String}
    {rejection : Rejection}
    (rejects : xdpDemo program embeddedPath arguments = .error rejection) :
    ∃ message, rejection.stderr = [message, usage program] := by
  rw [xdpDemo] at rejects
  split at rejects
  · cases rejects
    exact ⟨_, rfl⟩
  · cases rejects

theorem none_eq_ite_iff {α : Type*} {accepted : Prop} [Decidable accepted] {value : α} :
    none = (if accepted then some value else none) ↔ ¬ accepted := by
  split <;> simp [*]

/-- The exact command lines that the two programs treat alike. -/
theorem agree_iff (program program' embeddedPath : String) (arguments : List String) :
    Agree (xdpDemo program embeddedPath arguments)
        (xdpAppIntegrationExample program' embeddedPath arguments) ↔
      SameInterface arguments := by
  rw [agree_iff_toOption (fun _ => xdpDemo_status) (fun _ => xdpAppIntegrationExample_status),
    xdpDemo_toOption, xdpAppIntegrationExample_toOption, SameInterface]
  generalize positionals (groups arguments).1 = names
  cases (groups arguments).2 with
  | true =>
      -- The demo rejects, so the names before the option must make the other program reject.
      simp only [if_true, List.dropLast_concat]
      rw [none_eq_ite_iff]
      simp
  | false =>
      simp only [Bool.false_eq_true, if_false, List.append_nil]
      match names with
      | [] => simp [orElse]
      | [name] =>
          by_cases given : name = ""
          · simp [orElse, given]
          · simp [orElse, given]
      | first :: second :: rest =>
          -- The first name cannot count as not given for both, so agreeing means rejecting.
          generalize split : (first :: second :: rest).dropLast = earlier
          have first_mem : first ∈ earlier := by simp [← split]
          have demoRejects : (∃ name ∈ earlier, name ≠ "") ↔
              ¬ ∀ name ∈ earlier, name = "" := by simp
          have appRejects : (∃ name ∈ earlier, name ≠ "enp5s0") ↔
              ¬ ∀ name ∈ earlier, name = "enp5s0" := by simp
          rw [demoRejects, appRejects]
          by_cases demo : ∀ name ∈ earlier, name = ""
          · have app : ¬ ∀ name ∈ earlier, name = "enp5s0" := by
              intro app
              have clash := (demo first first_mem).symm.trans (app first first_mem)
              revert clash
              decide
            simp [app]
          · rw [if_neg demo, none_eq_ite_iff]
            simp [demo]

/-- The demo rejects an option without a value, the other program takes it for an interface. -/
theorem dangling_option_disagrees :
    ¬ ∀ (program program' embeddedPath : String) (arguments : List String),
      Agree (xdpDemo program embeddedPath arguments)
        (xdpAppIntegrationExample program' embeddedPath arguments) := by
  intro claim
  exact claim "xdp_demo" "xdp_app_integration_example" "xdp_prog.o" ["--bpf"]

/-! ## The documented grammar -/

/-- At most one interface and no dangling option are accepted and nothing else, and the monitor gets
what was given or the defaults. -/
def GrammarRespected (program embeddedPath : String) (arguments : List String) : Prop :=
  let names := positionals (groups arguments).1
  ((∃ parsed, Args.parse arguments ⟨"", ""⟩ = .ok parsed) ↔
      (groups arguments).2 = false ∧ names.length ≤ 1) ∧
    ∀ parsed, Args.parse arguments ⟨"", ""⟩ = .ok parsed →
      xdpDemo program embeddedPath arguments =
        .ok ⟨orElse (names.headD "") "enp5s0",
          orElse ((paths (groups arguments).1).getLastD "") embeddedPath⟩

theorem toOption_eq_some {ε α : Type*} {result : Except ε α} {value : α} :
    result.toOption = some value ↔ result = .ok value := by
  cases result <;> simp [Except.toOption]

/-- The demo accepts any number of interfaces as long as all but the last are empty. -/
theorem parse_accepts_iff (arguments : List String) :
    (∃ parsed, Args.parse arguments ⟨"", ""⟩ = .ok parsed) ↔
      (groups arguments).2 = false ∧
        ∀ earlier ∈ (positionals (groups arguments).1).dropLast, earlier = "" := by
  simp only [← toOption_eq_some]
  rw [parse_toOption, assign_start]
  cases (groups arguments).2 with
  | true => simp
  | false =>
      simp only [Bool.false_eq_true, if_false, true_and]
      split
      case isTrue empty => exact ⟨fun _ => empty, fun _ => ⟨_, rfl⟩⟩
      case isFalse given => simp [given]

/-- An accepted command line gives the monitor the last interface and the last path. -/
theorem xdpDemo_of_parse {arguments : List String} {parsed : MonitorArguments}
    (accepted : Args.parse arguments ⟨"", ""⟩ = .ok parsed) (program embeddedPath : String) :
    xdpDemo program embeddedPath arguments =
      .ok ⟨orElse ((positionals (groups arguments).1).getLastD "") "enp5s0",
        orElse ((paths (groups arguments).1).getLastD "") embeddedPath⟩ := by
  obtain ⟨complete, empty⟩ := (parse_accepts_iff arguments).mp ⟨parsed, accepted⟩
  rw [← toOption_eq_some, xdpDemo_toOption, complete, if_pos empty]
  rfl

theorem dropLast_of_length_le_one {names : List String} (single : names.length ≤ 1) :
    names.dropLast = [] ∧ names.headD "" = names.getLastD "" := by
  match names with
  | [] => exact ⟨rfl, rfl⟩
  | [name] => exact ⟨rfl, rfl⟩

/-- The grammar is respected unless a second interface is accepted, which takes empty ones before
it. -/
theorem grammarRespected_iff (program embeddedPath : String) (arguments : List String) :
    GrammarRespected program embeddedPath arguments ↔
      (groups arguments).2 = true ∨ (positionals (groups arguments).1).length ≤ 1 ∨
        ∃ earlier ∈ (positionals (groups arguments).1).dropLast, earlier ≠ "" := by
  have accepts := parse_accepts_iff arguments
  by_cases single : (positionals (groups arguments).1).length ≤ 1
  · obtain ⟨alone, same⟩ := dropLast_of_length_le_one single
    simp only [single, true_or, or_true, iff_true]
    constructor
    · rw [accepts, alone]
      simp [single]
    · intro parsed accepted
      rw [same]
      exact xdpDemo_of_parse accepted program embeddedPath
  · -- With several interfaces the documented answer is to reject.
    simp only [GrammarRespected, single, and_false, iff_false, false_or]
    constructor
    · rintro ⟨rejects, -⟩
      rw [accepts] at rejects
      by_cases dangling : (groups arguments).2 = true
      · exact .inl dangling
      · right
        simpa [dangling] using rejects
    · intro given
      have rejects : ¬ ∃ parsed, Args.parse arguments ⟨"", ""⟩ = .ok parsed := by
        rw [accepts]
        rintro ⟨complete, empty⟩
        obtain dangling | ⟨earlier, member, nonempty⟩ := given
        · rw [complete] at dangling
          cases dangling
        · exact nonempty (empty earlier member)
      exact ⟨rejects, fun parsed accepted => absurd ⟨parsed, accepted⟩ rejects⟩

/-- An empty interface is accepted besides another one. -/
theorem empty_interface_accepted :
    ¬ ∀ (program embeddedPath : String) (arguments : List String),
      GrammarRespected program embeddedPath arguments := by
  intro claim
  have documented := (claim "xdp_demo" "xdp_prog.o" ["", "eth0"]).1
  have accepted := documented.mp ⟨⟨"eth0", ""⟩, rfl⟩
  exact absurd accepted.2 (by decide)

end XdpExperiment
