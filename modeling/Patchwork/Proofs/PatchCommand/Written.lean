import Patchwork.PatchCommand
import Patchwork.Proofs.CommandLine.Written

/-!
# Command lines that write a command out

The same command can be written out in many ways. Its options stand in any order, and those that hold for both
patches stand before the name of the patch or after it. A base directory that is the current one need not be written.
Every such command line is read back as the command.
-/

set_option autoImplicit false

namespace Patchwork

open CommandLine

namespace PatchRequest

/-- The name of the patch on a command line. -/
def name : PatchRequest → String
  | .workflow .. => "workflow"
  | .buildFix .. => "build-fix"

/-- The options of the patch itself. -/
def settings : PatchRequest → List Setting
  | .workflow .. => PatchCommand.workflowSettings
  | .buildFix .. => PatchCommand.buildFixSettings

def threshold? : PatchRequest → Option Nat
  | .workflow .. => none
  | .buildFix _ threshold _ _ => threshold

/-- The settings that are given for the patch, each with the texts that its value can be written as. -/
def Sets : PatchRequest → Setting → String → Prop
  | .workflow path _ _, .path, text => path = some text
  | .workflow _ marker _, .marker, text => marker = some text
  | .workflow _ _ stepFile, .stepFile, text => stepFile = some text
  | .buildFix path _ _ _, .path, text => path = some text
  | .buildFix _ threshold _ _, .threshold, text => ∃ number, threshold = some number ∧ Numeral number text
  | .buildFix _ _ permissionMarker _, .permissionMarker, text => permissionMarker = some text
  | .buildFix _ _ _ duplicateMarker, .duplicateMarker, text => duplicateMarker = some text
  | _, _, _ => False

/-- The request for the same patch that its options make. -/
def ofEntries : PatchRequest → Entries → PatchRequest
  | .workflow .. => PatchCommand.workflowRequest
  | .buildFix .. => PatchCommand.buildFixRequest

variable {request : PatchRequest} {setting : Setting} {text : String}

private theorem isWord_name (request : PatchRequest) : isWord request.name = true := by
  cases request with
  | workflow => exact (by decide : isWord "workflow" = true)
  | buildFix => exact (by decide : isWord "build-fix" = true)

private theorem Sets.mem_settings (sets : request.Sets setting text) : setting ∈ request.settings := by
  cases request <;> cases setting <;> first
    | exact sets.elim
    | simp [settings, PatchCommand.workflowSettings, PatchCommand.buildFixSettings]

private theorem Sets.isFlag_eq_false (sets : request.Sets setting text) : setting.isFlag = false := by
  cases request <;> cases setting <;> first | exact sets.elim | rfl

private theorem Sets.accepts (sets : request.Sets setting text)
    (small : ∀ number ∈ request.threshold?, number < UInt64.size) : setting.accepts text = true := by
  cases request with
  | workflow path marker stepFile => cases setting <;> first | exact sets.elim | rfl
  | buildFix path threshold permissionMarker duplicateMarker =>
    cases setting with
    | threshold =>
      obtain ⟨number, given, numeral⟩ := sets
      rw [Setting.accepts, count?_of_numeral numeral (small number given)]
      rfl
    | _ => first | exact sets.elim | rfl

end PatchRequest

namespace PatchCommand

/-- The settings that the command is made by, each with the texts that its value can be written as. -/
def Sets (command : PatchCommand) : Setting → String → Prop
  | .baseDirectory, text => text = command.baseDirectory
  | .dryRun, text => command.dryRun = true ∧ text = ""
  | .json, text => command.json = true ∧ text = ""
  | .verbose, text => command.verbose = true ∧ text = ""
  | setting, text => command.request.Sets setting text

/-- The options that a command line gives for the command before and after the name of its patch. -/
structure Options (command : PatchCommand) (before after : List (Setting × String)) : Prop where
  sets : ∀ option ∈ before ++ after, command.Sets option.1 option.2
  once : ((before ++ after).map Prod.fst).Nodup
  complete : ∀ setting text, command.Sets setting text →
    setting ∈ (before ++ after).map Prod.fst ∨ setting = .baseDirectory ∧ command.baseDirectory = "."
  common : ∀ option ∈ before, option.1 ∈ commonSettings

/-- A command line that writes the command out. -/
def WrittenAs (command : PatchCommand) (arguments : List String) : Prop :=
  ∃ before after, command.Options before after ∧
    arguments = before.map written ++ command.request.name :: after.map written

variable {command : PatchCommand} {setting : Setting} {text : String} {before after : List (Setting × String)}

/-! ## Options are read one by one -/

theorem Sets.writable (sets : command.Sets setting text)
    (small : ∀ number ∈ command.request.threshold?, number < UInt64.size) :
    Writable (commonSettings ++ command.request.settings) (setting, text) := by
  cases setting with
  | baseDirectory => exact ⟨List.mem_append_left _ (by simp [commonSettings]), rfl, fun flag => nomatch flag⟩
  | dryRun => exact ⟨List.mem_append_left _ (by simp [commonSettings]), rfl, fun _ => sets.2⟩
  | json => exact ⟨List.mem_append_left _ (by simp [commonSettings]), rfl, fun _ => sets.2⟩
  | verbose => exact ⟨List.mem_append_left _ (by simp [commonSettings]), rfl, fun _ => sets.2⟩
  | _ =>
    have own : command.request.Sets _ text := sets
    exact ⟨List.mem_append_right _ own.mem_settings, own.accepts small,
      fun flag => nomatch own.isFlag_eq_false.symm.trans flag⟩

private theorem parse_of_read {request : PatchRequest} {entries : Entries} {arguments rest : List String}
    (reads : read commonSettings .empty arguments = .ok ⟨entries, request.name :: rest, false⟩) :
    parse arguments = parseRequest entries request.settings request.ofEntries rest := by
  unfold parse
  rw [reads]
  cases request <;> rfl

theorem parse_map_written {request : PatchRequest} (common : ∀ option ∈ before, Writable commonSettings option)
    (writable : ∀ option ∈ after, Writable (commonSettings ++ request.settings) option)
    (once : ((before ++ after).map Prod.fst).Nodup) :
    parse (before.map written ++ request.name :: after.map written) =
      .ok (ofEntries ⟨before, none⟩ ⟨after, none⟩ (request.ofEntries ⟨after, none⟩)) := by
  rw [List.map_append, List.nodup_append] at once
  have reads : read commonSettings .empty (before.map written ++ request.name :: after.map written) =
      .ok ⟨⟨before, none⟩, request.name :: after.map written, false⟩ :=
    (read_map_written [] common once.1).trans (read_cons_of_word request.isWord_name)
  rw [parse_of_read reads, parseRequest, readAll_map_written writable once.2.1]
  rfl

/-! ## The options make the command -/

private theorem Options.writable (options : command.Options before after)
    (small : ∀ number ∈ command.request.threshold?, number < UInt64.size) :
    (∀ option ∈ before, Writable commonSettings option) ∧
      ∀ option ∈ after, Writable (commonSettings ++ command.request.settings) option := by
  constructor
  · intro option member
    have writable := (options.sets option (List.mem_append_left _ member)).writable small
    exact ⟨options.common option member, writable.accepted, writable.bare⟩
  · intro option member
    exact (options.sets option (List.mem_append_right _ member)).writable small

theorem Options.sets_of_get?_eq_some (options : command.Options before after)
    (found : (Entries.mk (after ++ before) none).get? setting = some text) : command.Sets setting text := by
  have member := List.mem_append.1 (Entries.mem_of_get?_eq_some found)
  exact options.sets _ (List.mem_append.2 member.symm)

/-- Of the settings that make the command, only the current directory as the base may be missing. -/
theorem Options.base_of_get?_eq_none (options : command.Options before after)
    (missing : (Entries.mk (after ++ before) none).get? setting = none) (sets : command.Sets setting text) :
    setting = .baseDirectory ∧ command.baseDirectory = "." := by
  rcases options.complete setting text sets with member | base
  · rw [List.map_append, List.mem_append, or_comm, ← List.mem_append, ← List.map_append] at member
    exact absurd member (Entries.get?_eq_none_iff.1 missing)
  · exact base

/-- A setting is read off the options when every text for it reads as its value, and it has a text if it has a
value. -/
theorem Options.bind_get? {α : Type} {value : Option α} {reading : String → Option α}
    (options : command.Options before after) (notBase : setting ≠ .baseDirectory)
    (reads : ∀ text, command.Sets setting text → reading text = value)
    (given : value.isSome → ∃ text, command.Sets setting text) :
    ((Entries.mk (after ++ before) none).get? setting).bind reading = value := by
  cases found : (Entries.mk (after ++ before) none).get? setting with
  | some text => exact reads text (options.sets_of_get?_eq_some found)
  | none =>
    cases value with
    | none => rfl
    | some value =>
      obtain ⟨text, sets⟩ := given rfl
      exact absurd (options.base_of_get?_eq_none found sets).1 notBase

theorem Options.get?_eq (value : Option String) (options : command.Options before after)
    (notBase : setting ≠ .baseDirectory) (sets : ∀ text, command.Sets setting text ↔ value = some text) :
    (Entries.mk (after ++ before) none).get? setting = value := by
  have given : value.isSome → ∃ text, command.Sets setting text := fun present =>
    ⟨value.get present, (sets _).2 (Option.some_get present).symm⟩
  have whole := options.bind_get? notBase (fun text here => ((sets text).1 here).symm) given
  rwa [Option.bind_fun_some] at whole

private theorem Options.has_flag {flag : Bool} (options : command.Options before after)
    (notBase : setting ≠ .baseDirectory)
    (sets : ∀ text, command.Sets setting text ↔ flag = true ∧ text = "") :
    ((Entries.mk before none).has setting || (Entries.mk after none).has setting) = flag := by
  have whole := options.get?_eq (if flag then some "" else none) notBase fun text => by
    rw [sets]
    cases flag <;> simp [eq_comm]
  rw [Entries.get?_append] at whole
  rw [Bool.or_comm, Entries.has, Entries.has, ← Option.isSome_or, whole]
  cases flag <;> rfl

/-- The options of the patch itself stand after its name. -/
theorem Options.get?_after (options : command.Options before after) (own : setting ∉ commonSettings) :
    (Entries.mk after none).get? setting = (Entries.mk (after ++ before) none).get? setting := by
  have notBefore : (Entries.mk before none).get? setting = none := by
    refine Entries.get?_eq_none_iff.2 fun member => ?_
    obtain ⟨option, here, rfl⟩ := List.mem_map.1 member
    exact own (options.common option here)
  rw [Entries.get?_append, notBefore, Option.or_none]

private theorem Options.get?_own (value : Option String) (options : command.Options before after)
    (own : setting ∉ commonSettings) (sets : ∀ text, command.Sets setting text ↔ value = some text) :
    (Entries.mk after none).get? setting = value := by
  rw [options.get?_after own]
  refine options.get?_eq value ?_ sets
  rintro rfl
  exact own List.mem_cons_self

theorem Options.baseDirectory_eq (options : command.Options before after) :
    (((Entries.mk after none).get? .baseDirectory).orElse fun _ =>
      (Entries.mk before none).get? .baseDirectory).getD "." = command.baseDirectory := by
  rw [Option.orElse_eq_or, ← Entries.get?_append]
  cases found : (Entries.mk (after ++ before) none).get? .baseDirectory with
  | some text => exact options.sets_of_get?_eq_some found
  | none => exact (options.base_of_get?_eq_none found rfl).2.symm

theorem Options.request_eq (options : command.Options before after)
    (small : ∀ number ∈ command.request.threshold?, number < UInt64.size) :
    command.request.ofEntries ⟨after, none⟩ = command.request := by
  obtain ⟨base, dryRun, json, verbose, request⟩ := command
  cases request with
  | workflow path marker stepFile =>
    change PatchCommand.workflowRequest _ = _
    rw [workflowRequest, options.get?_own path (by decide) fun _ => Iff.rfl,
      options.get?_own marker (by decide) fun _ => Iff.rfl,
      options.get?_own stepFile (by decide) fun _ => Iff.rfl]
  | buildFix path threshold permissionMarker duplicateMarker =>
    have counted : ((Entries.mk after none).get? .threshold).bind count? = threshold := by
      rw [options.get?_after (by decide)]
      refine options.bind_get? (by decide) ?_ ?_
      · rintro text ⟨number, rfl, numeral⟩
        exact count?_of_numeral numeral (small number rfl)
      · intro given
        exact ⟨_, threshold.get given, (Option.some_get given).symm, numeral_toString _⟩
    change PatchCommand.buildFixRequest _ = _
    rw [buildFixRequest, counted, options.get?_own path (by decide) fun _ => Iff.rfl,
      options.get?_own permissionMarker (by decide) fun _ => Iff.rfl,
      options.get?_own duplicateMarker (by decide) fun _ => Iff.rfl]

/-- Every way to write a command out is read as the command. -/
theorem parse_of_writtenAs {arguments : List String} (written : command.WrittenAs arguments)
    (small : ∀ number ∈ command.request.threshold?, number < UInt64.size) :
    parse arguments = .ok command := by
  obtain ⟨before, after, options, rfl⟩ := written
  obtain ⟨common, writable⟩ := options.writable small
  rw [parse_map_written common writable options.once, options.request_eq small]
  unfold ofEntries
  rw [options.baseDirectory_eq, options.has_flag (by decide) fun _ => Iff.rfl,
    options.has_flag (by decide) fun _ => Iff.rfl, options.has_flag (by decide) fun _ => Iff.rfl]

/-! ### Values that look like options, an empty one, and the largest threshold -/

def scatteredCommand : PatchCommand :=
  ⟨"", false, true, true, .buildFix (some "--json") (some 18446744073709551615) none (some "=")⟩

def scatteredArguments : List String :=
  ["--verbose", "--base-dir=", "build-fix", "--duplicate-marker==", "--json",
    "--threshold=+0018446744073709551615", "--path=--json"]

private theorem writtenAs_scattered : scatteredCommand.WrittenAs scatteredArguments := by
  refine ⟨[(.verbose, ""), (.baseDirectory, "")],
    [(.duplicateMarker, "="), (.json, ""), (.threshold, "+0018446744073709551615"), (.path, "--json")],
    ⟨?_, by decide, ?_, by decide⟩, by decide⟩
  · have numeral : Numeral 18446744073709551615 "+0018446744073709551615" := by
      have padded : "+0018446744073709551615" = String.ofList ('+' :: zeroPadded 2 18446744073709551615) := by decide
      rw [padded]
      exact .signed 2
    simp only [List.cons_append, List.nil_append, List.forall_mem_cons]
    exact ⟨⟨rfl, rfl⟩, rfl, rfl, ⟨rfl, rfl⟩, ⟨_, rfl, numeral⟩, rfl, List.forall_mem_nil _⟩
  · intro setting text sets
    cases setting with
    | dryRun => cases sets.1
    | permissionMarker => cases sets
    | config | marker | stepFile => exact sets.elim
    | _ => exact .inl (by decide)

theorem parse_of_writtenAs_scattered :
    scatteredCommand.WrittenAs scatteredArguments ∧ parse scatteredArguments = .ok scatteredCommand := by
  refine ⟨writtenAs_scattered, parse_of_writtenAs writtenAs_scattered ?_⟩
  rintro number ⟨⟩
  decide

end PatchCommand

end Patchwork
