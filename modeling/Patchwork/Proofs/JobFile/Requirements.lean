import Patchwork.JobFile

/-!
# Requirements on job files

A job file has to meet requirements, which are looked at in a fixed order: its base directory, that there is a
section at all, the settings of the sections that are there, and the format of the log. They are about the
settings that hold, given or by default. A file that meets all of them is valid, and any other is refused for the
first requirement that it violates.
-/

set_option autoImplicit false

namespace Patchwork

/-! ## Single requirements -/

def UsablePath (value : String) : Prop :=
  value ≠ "" ∧ '\x00' ∉ value.toList

def NotBlank (value : String) : Prop :=
  ∃ c ∈ value.toList, Text.isBlank c = false

def UsableMarker (value : String) : Prop :=
  NotBlank value ∧ '\n' ∉ value.toList ∧ '\r' ∉ value.toList

/-- Something that is required of a job file. A setting is named by its field. -/
inductive Requirement where
  | path (field value : String)
  | marker (field value : String)
  | step (field value : String)
  | anySection (given : Bool)
  | logFormat (value : String)
  deriving DecidableEq, Repr

namespace Requirement

def Met : Requirement → Prop
  | .path _ value => UsablePath value
  | .marker _ value => UsableMarker value
  | .step _ value => NotBlank value
  | .anySection given => given = true
  | .logFormat value => value = "compact" ∨ value = "json"

/-- How a requirement can be violated, and the fault that blames it. -/
inductive Violated : Requirement → Fault → Prop where
  | emptyPath {field} : Violated (.path field "") (.badValue field "" "Path cannot be empty")
  | nulInPath {field value} (nul : '\x00' ∈ value.toList) :
      Violated (.path field value) (.badValue field value "Path contains null bytes")
  | blankMarker {field value} (blank : ¬ NotBlank value) :
      Violated (.marker field value) (.badValue field value "Value cannot be empty or whitespace-only")
  | markerOfLines {field value} (notBlank : NotBlank value) (ends : '\n' ∈ value.toList ∨ '\r' ∈ value.toList) :
      Violated (.marker field value) (.badValue field value "Value must fit on a single line")
  | blankStep {field value} (blank : ¬ NotBlank value) :
      Violated (.step field value) (.badValue field value "Value cannot be empty or whitespace-only")
  | noSection : Violated (.anySection false) (.missing "[workflow] or [build_fix]")
  | unknownFormat {value} (notCompact : value ≠ "compact") (notJson : value ≠ "json") :
      Violated (.logFormat value)
        (.badValue "logging.format" value "Unsupported format. Valid formats: compact, json")

/-- The check of a requirement. -/
def check : Requirement → Except Fault Unit
  | .path field value => Validation.path field value
  | .marker field value => Validation.singleLine field value
  | .step field value => Validation.nonEmpty field value
  | .anySection given => if given then .ok () else .error (.missing "[workflow] or [build_fix]")
  | .logFormat value => JobFile.validateFormat value

variable {requirement : Requirement} {requirements : List Requirement} {fault : Fault}

theorem check_eq_ok_iff : requirement.check = .ok () ↔ requirement.Met := by
  cases requirement with
  | path field value => exact Validation.path_eq_ok_iff
  | marker field value => exact Validation.singleLine_eq_ok_iff
  | step field value => exact Validation.nonEmpty_eq_ok_iff
  | anySection given => cases given <;> simp [check, Met]
  | logFormat value =>
    rw [check, JobFile.validateFormat, Met]
    split
    · next listed => simpa [JobFile.logFormats] using listed
    · next unlisted => simpa [JobFile.logFormats] using unlisted

private theorem notBlank_of_nonEmpty {field value : String} {done : Unit}
    (passed : Validation.nonEmpty field value = .ok done) : NotBlank value :=
  Validation.nonEmpty_eq_ok_iff.1 passed

private theorem nonEmpty_eq_error {field value : String} (refused : Validation.nonEmpty field value = .error fault) :
    ¬ NotBlank value ∧ fault = .badValue field value "Value cannot be empty or whitespace-only" := by
  constructor
  · intro notBlank
    cases refused.symm.trans (Validation.nonEmpty_eq_ok_iff.2 notBlank)
  · unfold Validation.nonEmpty at refused
    split at refused
    · exact (Except.error.inj refused).symm
    · cases refused

private theorem violated_of_check_eq (refused : requirement.check = .error fault) : requirement.Violated fault := by
  cases requirement with
  | path field value =>
    rw [check, Validation.path] at refused
    split at refused
    · next empty =>
      obtain rfl := String.isEmpty_iff.1 empty
      cases refused
      exact .emptyPath
    · split at refused
      · next nul =>
        cases refused
        exact .nulInPath nul
      · cases refused
  | marker field value =>
    rw [check, Validation.singleLine] at refused
    cases first : Validation.nonEmpty field value with
    | error other =>
      obtain ⟨blank, rfl⟩ := nonEmpty_eq_error first
      rw [first] at refused
      cases refused
      exact .blankMarker blank
    | ok done =>
      rw [first] at refused
      change (if _ then _ else _) = _ at refused
      split at refused
      · next ends =>
        cases refused
        exact .markerOfLines (notBlank_of_nonEmpty first) ends
      · cases refused
  | step field value =>
    obtain ⟨blank, rfl⟩ := nonEmpty_eq_error refused
    exact .blankStep blank
  | anySection given =>
    cases given <;> cases refused
    exact .noSection
  | logFormat value =>
    rw [check, JobFile.validateFormat] at refused
    split at refused
    · cases refused
    · next unlisted =>
      cases refused
      simp only [JobFile.logFormats, List.mem_cons, List.not_mem_nil, or_false, not_or] at unlisted
      exact .unknownFormat unlisted.1 unlisted.2

theorem Violated.not_met (violated : requirement.Violated fault) : ¬ requirement.Met := by
  cases violated with
  | emptyPath => exact fun usable => usable.1 rfl
  | nulInPath nul => exact fun usable => usable.2 nul
  | blankMarker blank => exact fun usable => blank usable.1
  | markerOfLines _ ends => exact fun usable => ends.elim usable.2.1 usable.2.2
  | blankStep blank => exact blank
  | noSection => exact Bool.false_ne_true
  | unknownFormat notCompact notJson => exact fun known => known.elim notCompact notJson

theorem Violated.unique {other : Fault} (violated : requirement.Violated fault)
    (otherwise : requirement.Violated other) : other = fault := by
  cases violated with
  | emptyPath =>
    cases otherwise with
    | emptyPath => rfl
    | nulInPath nul => cases nul
  | nulInPath nul =>
    cases otherwise with
    | emptyPath => cases nul
    | nulInPath => rfl
  | blankMarker blank =>
    cases otherwise with
    | blankMarker => rfl
    | markerOfLines notBlank => exact absurd notBlank blank
  | markerOfLines notBlank =>
    cases otherwise with
    | blankMarker blank => exact absurd notBlank blank
    | markerOfLines => rfl
  | blankStep => cases otherwise; rfl
  | noSection => cases otherwise; rfl
  | unknownFormat => cases otherwise; rfl

theorem check_eq_error_iff : requirement.check = .error fault ↔ requirement.Violated fault := by
  refine ⟨violated_of_check_eq, fun violated => ?_⟩
  cases checked : requirement.check with
  | ok done => exact absurd (check_eq_ok_iff.1 checked) violated.not_met
  | error other => rw [violated.unique (violated_of_check_eq checked)]

/-! ## Requirements in order -/

/-- A fault that blames the first violated requirement. All requirements before it are met. -/
def BlamesFirst (requirements : List Requirement) (fault : Fault) : Prop :=
  ∃ met violated unchecked, requirements = met ++ violated :: unchecked ∧
    (∀ earlier ∈ met, earlier.Met) ∧ violated.Violated fault

private theorem blamesFirst_cons_of_met (met : requirement.Met) :
    BlamesFirst (requirement :: requirements) fault ↔ BlamesFirst requirements fault := by
  constructor
  · rintro ⟨_ | ⟨first, earlier⟩, violated, unchecked, same, allMet, blamed⟩
    · obtain ⟨rfl, -⟩ := List.cons.inj same
      exact absurd met blamed.not_met
    · exact ⟨earlier, violated, unchecked, (List.cons.inj same).2,
        fun other here => allMet other (List.mem_cons_of_mem _ here), blamed⟩
  · rintro ⟨earlier, violated, unchecked, rfl, allMet, blamed⟩
    exact ⟨requirement :: earlier, violated, unchecked, rfl, List.forall_mem_cons.2 ⟨met, allMet⟩, blamed⟩

private theorem blamesFirst_cons_of_violated {first : Fault} (violated : requirement.Violated first) :
    BlamesFirst (requirement :: requirements) fault ↔ fault = first := by
  constructor
  · rintro ⟨_ | ⟨earliest, earlier⟩, other, unchecked, same, allMet, blamed⟩
    · obtain ⟨rfl, -⟩ := List.cons.inj same
      exact violated.unique blamed
    · obtain ⟨rfl, -⟩ := List.cons.inj same
      exact absurd (allMet _ List.mem_cons_self) violated.not_met
  · rintro rfl
    exact ⟨[], requirement, requirements, rfl, by simp, violated⟩

private theorem not_blamesFirst_nil : ¬ BlamesFirst [] fault := by
  rintro ⟨met, violated, unchecked, same, -⟩
  exact absurd same.symm (by simp)

/-- Checks one after the other pass when all requirements are met, and else the first fault wins. -/
theorem forM_check (requirements : List Requirement) :
    (requirements.forM check = .ok () ↔ ∀ requirement ∈ requirements, requirement.Met) ∧
      ∀ fault, requirements.forM check = .error fault ↔ BlamesFirst requirements fault := by
  induction requirements with
  | nil =>
    exact ⟨iff_of_true rfl fun _ here => absurd here List.not_mem_nil,
      fun fault => ⟨nofun, fun blames => absurd blames not_blamesFirst_nil⟩⟩
  | cons requirement rest inductionHypothesis =>
    rw [List.forM_eq_forM, List.forM_cons]
    cases checked : requirement.check with
    | ok done =>
      have met := check_eq_ok_iff.1 checked
      simp only [blamesFirst_cons_of_met met, List.forall_mem_cons, met, true_and]
      exact inductionHypothesis
    | error first =>
      have violated := check_eq_error_iff.1 checked
      refine ⟨⟨nofun, fun allMet => absurd (allMet _ List.mem_cons_self) violated.not_met⟩, fun fault => ?_⟩
      rw [blamesFirst_cons_of_violated violated]
      exact ⟨fun same => (Except.error.inj same).symm, fun same => congrArg Except.error same.symm⟩

end Requirement

/-! ## The requirements on a job file -/

namespace WorkflowSection

def requirements (job : WorkflowSection) : List Requirement :=
  [.path "workflow.path" job.target, .marker "workflow.marker" job.markerText,
   .step "workflow.step" job.stepText]

theorem validate_eq_forM (job : WorkflowSection) : job.validate = job.requirements.forM Requirement.check := by
  simp [validate, requirements, Requirement.check]

theorem requirements_met_iff {job : WorkflowSection} : (∀ requirement ∈ job.requirements, requirement.Met) ↔
    UsablePath job.target ∧ UsableMarker job.markerText ∧ NotBlank job.stepText := by
  simp [requirements, Requirement.Met]

end WorkflowSection

namespace BuildFixSection

def requirements (job : BuildFixSection) : List Requirement :=
  [.path "build_fix.path" job.target, .marker "build_fix.permission_marker" job.permissionText,
   .marker "build_fix.duplicate_marker" job.duplicateText]

theorem validate_eq_forM (job : BuildFixSection) : job.validate = job.requirements.forM Requirement.check := by
  simp [validate, requirements, Requirement.check]

theorem requirements_met_iff {job : BuildFixSection} : (∀ requirement ∈ job.requirements, requirement.Met) ↔
    UsablePath job.target ∧ UsableMarker job.permissionText ∧ UsableMarker job.duplicateText := by
  simp [requirements, Requirement.Met]

end BuildFixSection

namespace JobFile

open Requirement (BlamesFirst)

/-- What is required of a job file, in the order in which it is checked. -/
def requirements (jobs : JobFile) : List Requirement :=
  [.path "base_dir" jobs.base, .anySection (jobs.workflow.isSome || jobs.buildFix.isSome)] ++
    jobs.workflow.toList.flatMap WorkflowSection.requirements ++
    jobs.buildFix.toList.flatMap BuildFixSection.requirements ++
    jobs.logFormat?.toList.map .logFormat

theorem validate_eq_forM (jobs : JobFile) : jobs.validate = jobs.requirements.forM Requirement.check := by
  have workflowEq : jobs.workflow.forM WorkflowSection.validate =
      (jobs.workflow.toList.flatMap WorkflowSection.requirements).forM Requirement.check := by
    cases jobs.workflow with
    | none => rfl
    | some job => simp [WorkflowSection.validate_eq_forM]
  have buildFixEq : jobs.buildFix.forM BuildFixSection.validate =
      (jobs.buildFix.toList.flatMap BuildFixSection.requirements).forM Requirement.check := by
    cases jobs.buildFix with
    | none => rfl
    | some job => simp [BuildFixSection.validate_eq_forM]
  have formatEq : jobs.logFormat?.forM validateFormat =
      (jobs.logFormat?.toList.map Requirement.logFormat).forM Requirement.check := by
    cases jobs.logFormat? with
    | none => rfl
    | some format => simp [Requirement.check]
  rw [validate, workflowEq, buildFixEq, formatEq, requirements]
  simp only [List.forM_eq_forM, List.forM_append, List.forM_cons, List.forM_nil, bind_assoc, Requirement.check]
  refine bind_congr fun _ => ?_
  -- The throw without a section ends the checks; with one there is nothing to check here.
  cases workflow : jobs.workflow with
  | some job => rfl
  | none => cases jobs.buildFix <;> rfl

/-- A job file that can be used. -/
structure Usable (jobs : JobFile) : Prop where
  base : UsablePath jobs.base
  anySection : jobs.workflow ≠ none ∨ jobs.buildFix ≠ none
  workflow : ∀ job, jobs.workflow = some job →
    UsablePath job.target ∧ UsableMarker job.markerText ∧ NotBlank job.stepText
  buildFix : ∀ job, jobs.buildFix = some job →
    UsablePath job.target ∧ UsableMarker job.permissionText ∧ UsableMarker job.duplicateText
  logFormat : ∀ format, jobs.logFormat? = some format → format = "compact" ∨ format = "json"

theorem usable_iff {jobs : JobFile} : jobs.Usable ↔ ∀ requirement ∈ jobs.requirements, requirement.Met := by
  have given : (jobs.workflow.isSome || jobs.buildFix.isSome) = true ↔
      jobs.workflow ≠ none ∨ jobs.buildFix ≠ none := by
    rw [Bool.or_eq_true, Option.isSome_iff_ne_none, Option.isSome_iff_ne_none]
  simp only [requirements, List.forall_mem_append, List.forall_mem_cons, List.forall_mem_flatMap,
    List.forall_mem_map, Option.mem_toList, WorkflowSection.requirements_met_iff,
    BuildFixSection.requirements_met_iff, List.not_mem_nil, false_imp_iff, implies_true, and_true]
  simp only [Requirement.Met, given]
  constructor
  · rintro ⟨base, anySection, workflow, buildFix, logFormat⟩
    exact ⟨⟨⟨⟨base, anySection⟩, workflow⟩, buildFix⟩, logFormat⟩
  · rintro ⟨⟨⟨⟨base, anySection⟩, workflow⟩, buildFix⟩, logFormat⟩
    exact ⟨base, anySection, workflow, buildFix, logFormat⟩

/-- A job file is valid exactly when it can be used. Otherwise it is refused for the first of its requirements that
is violated: the fault names the field and the value that holds there. -/
theorem validate_blames_first_violated (jobs : JobFile) :
    (jobs.validate = .ok () ↔ jobs.Usable) ∧
      ∀ fault, jobs.validate = .error fault ↔ BlamesFirst jobs.requirements fault := by
  rw [validate_eq_forM, usable_iff]
  exact Requirement.forM_check jobs.requirements

example : (JobFile.mk none (some ⟨some "", some " ", none⟩) none none).validate =
    .error (.badValue "workflow.path" "" "Path cannot be empty") := rfl

end JobFile

end Patchwork
