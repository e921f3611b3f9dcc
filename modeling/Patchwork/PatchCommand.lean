import Patchwork.CommandLine
import Patchwork.Engine
import Patchwork.Host
import Patchwork.JobFile
import Patchwork.Outcome.Report

/-!
# The command that applies one patch

The command line names one of two patches and gives its settings after the name. The options that hold for
both may stand before the name or after it; when one stands in both places, the one after the name counts.

The command does all of its work or none of it. When it succeeds it puts out one report, and when it fails
it explains the fault and puts out nothing else.
-/

set_option autoImplicit false

namespace Patchwork

/-- The patch that a command line names, with its settings. -/
inductive PatchRequest where
  | workflow (path marker stepFile : Option String)
  | buildFix (path : Option String) (threshold : Option Nat)
      (permissionMarker duplicateMarker : Option String)
  deriving DecidableEq, Repr

/-- What a command line asks for. -/
structure PatchCommand where
  baseDirectory : String
  dryRun : Bool
  json : Bool
  verbose : Bool
  request : PatchRequest
  deriving DecidableEq, Repr

namespace PatchCommand

open CommandLine

/-! ## Reading the command line -/

/-- The options that hold for both patches. -/
def commonSettings : List Setting := [.baseDirectory, .dryRun, .json, .verbose]

def workflowSettings : List Setting := [.path, .marker, .stepFile]

def buildFixSettings : List Setting := [.path, .threshold, .permissionMarker, .duplicateMarker]

/-- What comes of words after the word `help`: they may name one command. -/
def helpOn : List String → Refusal
  | [] => .help
  | [word] => if word ∈ ["workflow", "build-fix", "help"] then .help else .usage
  | _ => .usage

/-- The request that the options after the name make. -/
def workflowRequest (own : Entries) : PatchRequest :=
  .workflow (own.get? .path) (own.get? .marker) (own.get? .stepFile)

def buildFixRequest (own : Entries) : PatchRequest :=
  .buildFix (own.get? .path) ((own.get? .threshold).bind count?) (own.get? .permissionMarker)
    (own.get? .duplicateMarker)

/-- The command that the options before and after the name make. -/
def ofEntries (before after : Entries) (request : PatchRequest) : PatchCommand where
  baseDirectory := ((after.get? .baseDirectory).orElse fun _ => before.get? .baseDirectory).getD "."
  dryRun := before.has .dryRun || after.has .dryRun
  json := before.has .json || after.has .json
  verbose := before.has .verbose || after.has .verbose
  request := request

/-- The arguments after the name of a patch. The options before the name are entered last. -/
def parseRequest (before : Entries) (own : List Setting) (request : Entries → PatchRequest)
    (arguments : List String) : Except Refusal PatchCommand := do
  let after ← readAll (commonSettings ++ own) arguments
  let before ← before.settle
  return ofEntries before after (request after)

def parse (arguments : List String) : Except Refusal PatchCommand := do
  let reading ← read commonSettings .empty arguments
  if reading.closed then .error .usage
  else match reading.rest with
    | [] => .error .usage
    | "workflow" :: rest => parseRequest reading.entries workflowSettings workflowRequest rest
    | "build-fix" :: rest => parseRequest reading.entries buildFixSettings buildFixRequest rest
    | "help" :: rest => .error (helpOn rest)
    | _ :: _ => .error .usage

/-! ## Validating the command and building its patch -/

/-- What can be checked before any file is read. -/
def validate (command : PatchCommand) : Except Fault Unit := do
  Validation.path "base_dir" command.baseDirectory
  match command.request with
  | .workflow path marker stepFile =>
    stepFile.forM (Validation.path "step_file")
    (WorkflowSection.mk path marker none).validate
  | .buildFix path threshold permissionMarker duplicateMarker =>
    (BuildFixSection.mk path threshold permissionMarker duplicateMarker).validate

variable {m : Type → Type} [Monad m]

/-- The patch. A step file is read from the storage, and the settings are then checked again. -/
def patch [MarkerSearch] (command : PatchCommand) (storage : Storage m) : ExceptT Fault m Patch := do
  match command.request with
  | .workflow path marker none =>
    let insertion ← ExceptT.mk (pure (WorkflowSection.mk path marker none).insertion)
    return insertion.toPatch
  | .workflow path marker (some stepFile) =>
    let step ← storage.read stepFile
    let job := WorkflowSection.mk path marker (some step)
    ExceptT.mk (pure job.validate)
    let insertion ← ExceptT.mk (pure job.insertion)
    return insertion.toPatch
  | .buildFix path threshold permissionMarker duplicateMarker =>
    return (BuildFixSection.mk path threshold permissionMarker duplicateMarker).removal.toPatch

/-! ## Running the command -/

/-- What is put out about an outcome. -/
def reportOf (command : PatchCommand) (outcome : Outcome) : String :=
  if command.json then outcome.report else s!"✅ {outcome.summary}"

def work [MarkerSearch] (command : PatchCommand) (storage : Storage m) : ExceptT Fault m Outcome := do
  let patch ← command.patch storage
  Engine.run storage command.dryRun patch

def runWith [MarkerSearch] (command : PatchCommand) (host : Host m) (setup : Log.Setup) : m Ending := do
  host.log setup (Log.info "Starting repo-fixup")
  match command.validate with
  | .error fault =>
    host.log setup (Log.error s!"❌ Configuration validation failed: {fault.message}")
    host.log setup (Log.error s!"💡 Suggestion: {fault.suggestion}")
    host.explain fault
    return .exit fault.exitCode
  | .ok () =>
    match ← (command.work (host.storage setup command.baseDirectory)).run with
    | .ok outcome =>
      host.out (command.reportOf outcome)
      return .exit 0
    | .error fault =>
      host.log setup (Log.error s!"❌ Patch failed: {fault.classified}")
      host.explain fault
      host.advise fault
      return .exit fault.exitCode

/-- Runs the command that a command line asks for. Without a chosen filter the default one holds. -/
def run [MarkerSearch] (host : Host m) (chosen : Option Log.Filter) (arguments : List String) : m Ending :=
  match parse arguments with
  | .error .help => pure .help
  | .error .usage => pure .usage
  | .ok command =>
    command.runWith host ⟨chosen.getD (Log.Filter.default command.verbose), .compact⟩

end PatchCommand

end Patchwork
