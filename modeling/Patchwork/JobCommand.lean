import Patchwork.CommandLine
import Patchwork.Engine
import Patchwork.Host
import Patchwork.JobFile.Decoding
import Patchwork.Outcome.Report

/-!
# The command that runs a job file

The command reads a job file, validates it, shows what it is going to do, and runs the patches in order up
to the first one that fails. What the patches before it wrote stays written. The summary of each patch is
put out when the patch is done; as JSON all outcomes are put out at the end, and only if no patch failed.
-/

set_option autoImplicit false

namespace Patchwork

/-- What a command line asks for. -/
structure JobCommand where
  config : String
  verbose : Bool
  dryRun : Bool
  json : Bool
  deriving DecidableEq, Repr

namespace JobCommand

open CommandLine

def settings : List Setting := [.config, .verbose, .dryRun, .json]

def defaultConfig : String := "fixup.toml"

def parse (arguments : List String) : Except Refusal JobCommand := do
  let entries ← readAll settings arguments
  return { config := (entries.get? .config).getD defaultConfig
           verbose := entries.has .verbose
           dryRun := entries.has .dryRun
           json := entries.has .json }

variable {m : Type → Type} [Monad m]

/-- Reads a job file, whose path is not looked up from any base directory. -/
def load (host : Host m) (path : String) : ExceptT Fault m JobFile := do
  let text ← host.read path
  let environment ← host.environment (Placeholder.names text)
  ExceptT.mk (pure (JobFile.ofText environment text))

/-- The lines that show what is going to be done. -/
def overview (command : JobCommand) (jobs : JobFile) : List String :=
  let workflowLines (job : WorkflowSection) : List String :=
    [s!"  Workflow: {job.target}", s!"    Marker: {job.markerText}",
     s!"    Step lines: {lineCount job.stepText}"]
  let buildFixLines (job : BuildFixSection) : List String :=
    [s!"  Build script: {job.target}", s!"    Line threshold: {job.lineThreshold}",
     s!"    Duplicate marker: {job.duplicateText}"]
  ["📋 Configuration Summary:", s!"  Base dir: {jobs.base}"]
    ++ jobs.workflow.toList.flatMap workflowLines
    ++ jobs.buildFix.toList.flatMap buildFixLines
    ++ (if command.dryRun then ["  🔍 DRY RUN MODE ENABLED"] else [])
    ++ [""]

/-- Runs patches in order up to the first one that fails, and puts out the summary of each when it is
done. Answers the outcomes, and the patch that failed with its fault. -/
def runAll (command : JobCommand) (host : Host m) (storage : Storage m) :
    List Patch → m (List Outcome × Option (Patch × Fault))
  | [] => pure ([], none)
  | patch :: rest => do
    match ← (Engine.run storage command.dryRun patch).run with
    | .error fault => return ([], some (patch, fault))
    | .ok outcome =>
      unless command.json do host.out s!"✅ {outcome.summary}"
      let (outcomes, failure) ← command.runAll host storage rest
      return (outcome :: outcomes, failure)

/-- Runs the jobs of a file that is valid. -/
def runJobs [MarkerSearch] (command : JobCommand) (host : Host m) (setup : Log.Setup) (jobs : JobFile) :
    m Ending := do
  unless command.json do (command.overview jobs).forM host.out
  match jobs.patches with
  | .error fault =>
    host.emit (.err fault.unhandled)
    return .exit 1
  | .ok patches =>
    match ← command.runAll host (host.storage setup jobs.base) patches with
    | (outcomes, none) =>
      if command.json then host.out (Outcome.reportAll outcomes)
      return .exit 0
    | (_, some (patch, fault)) =>
      host.log setup (.mk .error .jobRunner s!"❌ {patch.kind.label} failed: {fault.classified}")
      host.explain fault
      host.advise fault
      return .exit fault.exitCode

def runLoaded [MarkerSearch] (command : JobCommand) (host : Host m) (setup : Log.Setup) (jobs : JobFile) :
    m Ending := do
  host.log setup (.mk .info .jobRunner s!"📁 Loaded configuration from: {command.config}")
  match jobs.validate with
  | .error fault =>
    host.log setup (.mk .error .jobRunner s!"❌ Configuration validation failed: {fault.message}")
    host.log setup (.mk .error .jobRunner s!"💡 Suggestion: {fault.suggestion}")
    host.explain fault
    return .exit fault.exitCode
  | .ok () => command.runJobs host setup jobs

/-- Runs the command. Without a chosen filter the default one holds, and the job file too can ask for more
of the log; it also says in which format the log is written. -/
def runCommand [MarkerSearch] (command : JobCommand) (host : Host m) (chosen : Option Log.Filter) : m Ending := do
  match ← (load host command.config).run with
  | .error fault =>
    host.err s!"❌ Failed to load config file '{command.config}': {fault.message}"
    host.advise fault
    return .exit fault.exitCode
  | .ok jobs =>
    let filter := chosen.getD (Log.Filter.default (command.verbose || jobs.verbose))
    command.runLoaded host ⟨filter, jobs.logFormat⟩ jobs

def run [MarkerSearch] (host : Host m) (chosen : Option Log.Filter) (arguments : List String) : m Ending :=
  match parse arguments with
  | .error .help => pure .help
  | .error .usage => pure .usage
  | .ok command => command.runCommand host chosen

end JobCommand

end Patchwork
