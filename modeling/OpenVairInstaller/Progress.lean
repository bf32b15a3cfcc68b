/-
# `OpenVairInstaller.Progress` — the progress view of `tui.rs`

`TuiApp` is what the dashboard draws: 39 step records, the index of the step
last started, the aggregate percentage, a status line and the quit flag.
`handle_message` is its only transition, and `runMessages` folds it over a
sequence of messages from `TuiApp::new()`.  For every such sequence:

* each record shows the flags named by the last message carrying its index, or
  none when no message did, and the current step is the last one started in
  range (`runMessages_view`);
* the aggregate is the value `update_progress` computed after the last
  in-range `StartStep` or `CompleteStep`.  `fail_step` does not call
  `update_progress`, so the aggregate differs from the value of the current
  records exactly when a `FailStep` since then hit a completed record
  (`overallProgress_runMessages_lastRecompute`);
* the aggregate is the binary64 value of `k / 39 * 100` for some `k ≤ 39`, so
  the `u16` handed to `Gauge::percent` is at most 100 (`runMessages_gauge_le`).

Nothing can index the records out of range: every index `handle_message` uses
carries its bound, and the number of records is a field of `InstallProgress`.
What `ui` draws from this state is modelled in `OpenVairInstaller.View`.
-/
import OpenVairInstaller.F64
import Mathlib.Data.List.Basic

namespace OpenVair

/-! ## `InstallStep` -/

/-- One line of the step list. -/
structure InstallStep where
  name : String
  description : String
  completed : Bool
  inProgress : Bool
  failed : Bool
deriving DecidableEq, Repr

namespace InstallStep

/-- `InstallStep::new`: no flag set. -/
def new (name description : String) : InstallStep := ⟨name, description, false, false, false⟩

/-- `InstallStep::start`. -/
def start (s : InstallStep) : InstallStep :=
  { s with inProgress := true, completed := false, failed := false }

/-- `InstallStep::complete`. -/
def complete (s : InstallStep) : InstallStep :=
  { s with inProgress := false, completed := true, failed := false }

/-- `InstallStep::fail`. -/
def fail (s : InstallStep) : InstallStep :=
  { s with inProgress := false, completed := false, failed := true }

/-- The flags `(in_progress, completed, failed)`. -/
def flags (s : InstallStep) : Bool × Bool × Bool := (s.inProgress, s.completed, s.failed)

@[simp] theorem flags_start (s : InstallStep) : s.start.flags = (true, false, false) := rfl

@[simp] theorem flags_complete (s : InstallStep) : s.complete.flags = (false, true, false) := rfl

@[simp] theorem flags_fail (s : InstallStep) : s.fail.flags = (false, false, true) := rfl

end InstallStep

/-- The records `InstallProgress::new` lists, in order. -/
def stepCatalog : List InstallStep :=
  [InstallStep.new "Install tmux" "Check and install tmux if needed",
    InstallStep.new "Verify user data" "Validate user credentials",
    InstallStep.new "Create JWT secret" "Generate secure JWT secret",
    InstallStep.new "Detect OS type" "Identify operating system",
    InstallStep.new "Setup directories" "Create project directories",
    InstallStep.new "Install Python tools" "Install python3-venv and python3-pip",
    InstallStep.new "Create virtual env" "Set up Python virtual environment",
    InstallStep.new "Configure PYTHONPATH" "Add project path to environment",
    InstallStep.new "Install libpq-dev" "Install PostgreSQL development libraries",
    InstallStep.new "Install websockify" "Install python3-websockify package",
    InstallStep.new "Install libvirt" "Install virtualization support",
    InstallStep.new "Storage requirements" "Install NFS and XFS tools",
    InstallStep.new "Python requirements" "Install Python dependencies",
    InstallStep.new "Pre-commit hooks" "Setup Git pre-commit hooks",
    InstallStep.new "PostgreSQL support" "Install psycopg2 and libraries",
    InstallStep.new "OpenVSwitch" "Install software-defined networking",
    InstallStep.new "Multipath tools" "Install multipath storage support",
    InstallStep.new "Change ownership" "Fix file permissions",
    InstallStep.new "Detect architecture" "Determine system architecture",
    InstallStep.new "Install Docker" "Install container platform",
    InstallStep.new "PostgreSQL container" "Setup database container",
    InstallStep.new "RabbitMQ" "Install message broker",
    InstallStep.new "SNMP" "Install network monitoring",
    InstallStep.new "Database migrations" "Run Alembic migrations",
    InstallStep.new "SSL certificates" "Generate self-signed certificates",
    InstallStep.new "Prometheus" "Install monitoring system",
    InstallStep.new "Node Exporter" "Install metrics exporter",
    InstallStep.new "Open-iSCSI" "Install iSCSI storage support",
    InstallStep.new "NoVNC" "Install web VNC client",
    InstallStep.new "JQ utility" "Install JSON processor",
    InstallStep.new "Restic backup" "Install backup utility",
    InstallStep.new "Process services" "Setup systemd services",
    InstallStep.new "UV package manager" "Install fast Python package manager",
    InstallStep.new "Documentation" "Clone and install documentation",
    InstallStep.new "Clean home directory" "Remove temporary files",
    InstallStep.new "Hash password" "Create hashed password for database",
    InstallStep.new "Create default user" "Add admin user to database",
    InstallStep.new "Restart web app" "Restart main web application",
    InstallStep.new "Final message" "Display installation summary"]

theorem flags_of_mem_stepCatalog : ∀ s ∈ stepCatalog, s.flags = (false, false, false) := by
  decide

/-! ## `InstallProgress` -/

/-- The expression `update_progress` evaluates:
`(completed_count as f64) / (self.steps.len() as f64) * 100.0`. -/
def progressPercent (completed total : Nat) : F64 :=
  ((F64.ofNat completed).div (F64.ofNat total)).mul (F64.ofNat 100)

/-- `InstallProgress`.  `steps` is private to it, `new` builds 39 records and no
method adds or removes one: the count is carried as a field. -/
structure InstallProgress where
  steps : List InstallStep
  currentStep : Nat
  overallProgress : F64
  steps_length : steps.length = 39

namespace InstallProgress

/-- `InstallProgress::new`. -/
def new : InstallProgress := ⟨stepCatalog, 0, F64.zero, rfl⟩

/-- `total_steps`. -/
def totalSteps (p : InstallProgress) : Nat := p.steps.length

theorem totalSteps_eq (p : InstallProgress) : p.totalSteps = 39 := p.steps_length

/-- Every progress has as many records as every other. -/
theorem length_eq (p q : InstallProgress) : p.steps.length = q.steps.length :=
  p.steps_length.trans q.steps_length.symm

/-- `update_progress`. -/
def updateProgress (p : InstallProgress) : InstallProgress :=
  { p with overallProgress := progressPercent (p.steps.countP (·.completed)) p.steps.length }

/-- `self.steps[step_index].<change>()`, for an index in range. -/
def changeStep (p : InstallProgress) (i : Nat) (h : i < p.steps.length)
    (change : InstallStep → InstallStep) : InstallProgress :=
  { p with
    steps := p.steps.set i (change p.steps[i])
    steps_length := (List.length_set ..).trans p.steps_length }

/-- `start_step`. -/
def startStep (p : InstallProgress) (stepIndex : Nat) : InstallProgress :=
  if h : stepIndex < p.steps.length then
    updateProgress { p.changeStep stepIndex h InstallStep.start with currentStep := stepIndex }
  else p

/-- `complete_step`. -/
def completeStep (p : InstallProgress) (stepIndex : Nat) : InstallProgress :=
  if h : stepIndex < p.steps.length then updateProgress (p.changeStep stepIndex h InstallStep.complete)
  else p

/-- `fail_step`: unlike the other two, it does not call `update_progress`. -/
def failStep (p : InstallProgress) (stepIndex : Nat) : InstallProgress :=
  if h : stepIndex < p.steps.length then p.changeStep stepIndex h InstallStep.fail else p

/-- The number of completed records, `update_progress`'s `completed_count`. -/
def completedCount (p : InstallProgress) : Nat := p.steps.countP (·.completed)

/-- Whether record `i` exists and is completed. -/
def completedAt (p : InstallProgress) (i : Nat) : Bool := (p.steps[i]?.map (·.completed)).getD false

@[simp] theorem steps_updateProgress (p : InstallProgress) : (updateProgress p).steps = p.steps := rfl

@[simp] theorem currentStep_updateProgress (p : InstallProgress) :
    (updateProgress p).currentStep = p.currentStep := rfl

theorem overallProgress_updateProgress (p : InstallProgress) :
    (updateProgress p).overallProgress = progressPercent p.completedCount 39 := by
  simp only [updateProgress, completedCount, p.steps_length]

theorem completedCount_le (p : InstallProgress) : p.completedCount ≤ 39 :=
  p.steps_length ▸ List.countP_le_length _

theorem getElem?_changeStep (p : InstallProgress) (i : Nat) (h : i < p.steps.length)
    (f : InstallStep → InstallStep) (j : Nat) :
    (p.changeStep i h f).steps[j]? = if i = j then p.steps[j]?.map f else p.steps[j]? := by
  by_cases hij : i = j
  · subst hij; simp [changeStep, List.getElem?_set_self h, List.getElem?_eq_getElem h]
  · simp [changeStep, List.getElem?_set_ne hij, hij]

theorem completedAt_changeStep (p : InstallProgress) (i : Nat) (h : i < p.steps.length)
    (f : InstallStep → InstallStep) (j : Nat) :
    (p.changeStep i h f).completedAt j = if i = j then (f p.steps[i]).completed else p.completedAt j := by
  by_cases hij : i = j
  · subst hij; simp [completedAt, getElem?_changeStep, List.getElem?_eq_getElem h]
  · simp [completedAt, getElem?_changeStep, hij]

theorem completedAt_of_lt (p : InstallProgress) {i : Nat} (h : i < p.steps.length) :
    p.completedAt i = p.steps[i].completed := by
  simp [completedAt, List.getElem?_eq_getElem h]

theorem completedAt_of_le (p : InstallProgress) {i : Nat} (h : 39 ≤ i) : p.completedAt i = false := by
  simp [completedAt, List.getElem?_eq_none (p.steps_length ▸ h)]

end InstallProgress

/-! ## `TuiApp` -/

/-- `TuiMessage`. -/
inductive TuiMessage where
  | startStep (step : Nat)
  | completeStep (step : Nat)
  | failStep (step : Nat)
  | updateStatus (status : String)
  | exit
deriving DecidableEq, Repr

/-- `TuiApp`. -/
structure TuiApp where
  progress : InstallProgress
  statusMessage : String
  shouldQuit : Bool

namespace TuiApp

/-- `TuiApp::new`. -/
def new : TuiApp := ⟨InstallProgress.new, "Starting installation...", false⟩

/-- `handle_message`.  The record named in the status line is read after the
change, at an index whose bound is checked first. -/
def handleMessage (app : TuiApp) : TuiMessage → TuiApp
  | .startStep step =>
    if h : step < app.progress.steps.length then
      let progress := app.progress.startStep step
      have : step < progress.steps.length := Nat.lt_of_lt_of_eq h (app.progress.length_eq _)
      { app with progress := progress, statusMessage := "Starting: " ++ progress.steps[step].name }
    else { app with statusMessage := "Starting step " ++ toString step }
  | .completeStep step =>
    if h : step < app.progress.steps.length then
      let progress := app.progress.completeStep step
      have : step < progress.steps.length := Nat.lt_of_lt_of_eq h (app.progress.length_eq _)
      { app with progress := progress, statusMessage := "Completed: " ++ progress.steps[step].name }
    else { app with statusMessage := "Completed step " ++ toString step }
  | .failStep step =>
    if h : step < app.progress.steps.length then
      let progress := app.progress.failStep step
      have : step < progress.steps.length := Nat.lt_of_lt_of_eq h (app.progress.length_eq _)
      { app with progress := progress, statusMessage := "Failed: " ++ progress.steps[step].name }
    else { app with statusMessage := "Failed step " ++ toString step }
  | .updateStatus status => { app with statusMessage := status }
  | .exit => { app with shouldQuit := true }

/-- The value `ui` hands to `Gauge::percent`: `overall_progress as u16`. -/
def gaugePercent (app : TuiApp) : Nat := app.progress.overallProgress.asU16

end TuiApp

/-- The state after `handle_message` has handled `ms` in order from `TuiApp::new()`. -/
def runMessages (ms : List TuiMessage) : TuiApp := ms.foldl TuiApp.handleMessage TuiApp.new

@[simp] theorem runMessages_nil : runMessages [] = TuiApp.new := rfl

@[simp] theorem runMessages_append_singleton (ms : List TuiMessage) (m : TuiMessage) :
    runMessages (ms ++ [m]) = (runMessages ms).handleMessage m := by
  simp [runMessages, List.foldl_append]

/-! ## What one message does

Each message is described by the record index it carries, the change it makes
to that record, and whether `update_progress` runs after it. -/

namespace TuiMessage

/-- The record index a message carries. -/
def index? : TuiMessage → Option Nat
  | startStep i | completeStep i | failStep i => some i
  | _ => none

/-- What `handle_message` does to the record a message carries. -/
def change : TuiMessage → InstallStep → InstallStep
  | startStep _ => InstallStep.start
  | completeStep _ => InstallStep.complete
  | failStep _ => InstallStep.fail
  | _ => id

/-- Whether a message reaches a record: it carries an index in range. -/
def touchesRecord (m : TuiMessage) : Bool := (m.index?.map fun i => decide (i < 39)).getD false

/-- Whether `update_progress` runs: an in-range `StartStep` or `CompleteStep`. -/
def recomputes : TuiMessage → Bool
  | startStep i | completeStep i => decide (i < 39)
  | _ => false

/-- The index an in-range `StartStep` makes current. -/
def startedIndex? : TuiMessage → Option Nat
  | startStep i => if i < 39 then some i else none
  | _ => none

end TuiMessage

/-- The flags a record shows when `m` is the last message carrying its index;
`none`, no message did: the record is pending. -/
def flagsOf : Option TuiMessage → Bool × Bool × Bool
  | some (.startStep _) => (true, false, false)
  | some (.completeStep _) => (false, true, false)
  | some (.failStep _) => (false, false, true)
  | _ => (false, false, false)

/-- The last message of `ms` carrying index `i`. -/
def lastCarrying (ms : List TuiMessage) (i : Nat) : Option TuiMessage :=
  (ms.filter (·.index? == some i)).getLast?

/-- The index of the last in-range `StartStep` of `ms`, or 0. -/
def lastStarted (ms : List TuiMessage) : Nat := ((ms.filterMap TuiMessage.startedIndex?).getLast?).getD 0

theorem flags_change {m : TuiMessage} {i : Nat} (h : m.index? = some i) (s : InstallStep) :
    (m.change s).flags = flagsOf (some m) := by
  cases m <;> simp_all [TuiMessage.index?, TuiMessage.change, flagsOf]

@[simp] theorem lastCarrying_append_singleton (ms : List TuiMessage) (m : TuiMessage) (i : Nat) :
    lastCarrying (ms ++ [m]) i = if m.index? = some i then some m else lastCarrying ms i := by
  by_cases h : m.index? = some i <;> simp [lastCarrying, List.filter_append, h]

@[simp] theorem lastStarted_append_singleton (ms : List TuiMessage) (m : TuiMessage) :
    lastStarted (ms ++ [m]) = (m.startedIndex?).getD (lastStarted ms) := by
  cases h : m.startedIndex? <;> simp [lastStarted, h]

theorem TuiMessage.le_of_touchesRecord_eq_false {m : TuiMessage} {i : Nat}
    (h : m.touchesRecord = false) (hi : m.index? = some i) : 39 ≤ i := by
  simpa [TuiMessage.touchesRecord, hi] using h

@[simp] theorem TuiMessage.recomputes_of_touchesRecord_eq_false {m : TuiMessage}
    (h : m.touchesRecord = false) : m.recomputes = false := by
  cases m <;> simp_all [TuiMessage.touchesRecord, TuiMessage.index?, TuiMessage.recomputes]

@[simp] theorem TuiMessage.startedIndex?_of_touchesRecord_eq_false {m : TuiMessage}
    (h : m.touchesRecord = false) : m.startedIndex? = none := by
  cases m <;> simp_all [TuiMessage.touchesRecord, TuiMessage.index?, TuiMessage.startedIndex?]

namespace TuiApp

variable (app : TuiApp) (m : TuiMessage)

/-- **What one message can do to the progress**: start, complete or fail a
record in range, through the method `handle_message` calls (which checks the
bound once more), or leave the progress as it was. -/
theorem progress_handleMessage_cases :
    (∃ i h, m = .startStep i ∧ (app.handleMessage m).progress =
      InstallProgress.updateProgress { app.progress.changeStep i h InstallStep.start with currentStep := i }) ∨
    (∃ i h, m = .completeStep i ∧ (app.handleMessage m).progress =
      InstallProgress.updateProgress (app.progress.changeStep i h InstallStep.complete)) ∨
    (∃ i h, m = .failStep i ∧
      (app.handleMessage m).progress = app.progress.changeStep i h InstallStep.fail) ∨
    (m.touchesRecord = false ∧ (app.handleMessage m).progress = app.progress) := by
  have hlen := app.progress.steps_length
  cases m with
  | startStep i =>
    by_cases h : i < app.progress.steps.length
    · exact .inl ⟨i, h, rfl, by simp [handleMessage, InstallProgress.startStep, h]⟩
    · refine .inr (.inr (.inr ⟨?_, by simp [handleMessage, h]⟩))
      simp only [TuiMessage.touchesRecord, TuiMessage.index?]; simp; omega
  | completeStep i =>
    by_cases h : i < app.progress.steps.length
    · exact .inr (.inl ⟨i, h, rfl, by simp [handleMessage, InstallProgress.completeStep, h]⟩)
    · refine .inr (.inr (.inr ⟨?_, by simp [handleMessage, h]⟩))
      simp only [TuiMessage.touchesRecord, TuiMessage.index?]; simp; omega
  | failStep i =>
    by_cases h : i < app.progress.steps.length
    · exact .inr (.inr (.inl ⟨i, h, rfl, by simp [handleMessage, InstallProgress.failStep, h]⟩))
    · refine .inr (.inr (.inr ⟨?_, by simp [handleMessage, h]⟩))
      simp only [TuiMessage.touchesRecord, TuiMessage.index?]; simp; omega
  | updateStatus status => exact .inr (.inr (.inr ⟨rfl, rfl⟩))
  | exit => exact .inr (.inr (.inr ⟨rfl, rfl⟩))

/-- **One message, one record**: the record a message carries gets the message's
change, whatever it held; every other record is left as it was. -/
theorem getElem?_handleMessage (j : Nat) :
    (app.handleMessage m).progress.steps[j]? =
      if m.index? = some j then app.progress.steps[j]?.map m.change else app.progress.steps[j]? := by
  rcases progress_handleMessage_cases app m with
    ⟨i, h, rfl, hp⟩ | ⟨i, h, rfl, hp⟩ | ⟨i, h, rfl, hp⟩ | ⟨hm, hp⟩ <;> rw [hp]
  case inr.inr.inr =>
    split
    · rw [List.getElem?_eq_none (app.progress.steps_length ▸ TuiMessage.le_of_touchesRecord_eq_false hm ‹_›)]
      rfl
    · rfl
  all_goals simp [InstallProgress.getElem?_changeStep, TuiMessage.index?, TuiMessage.change]

theorem currentStep_handleMessage :
    (app.handleMessage m).progress.currentStep = (m.startedIndex?).getD app.progress.currentStep := by
  have hlen := app.progress.steps_length
  rcases progress_handleMessage_cases app m with
    ⟨i, h, rfl, hp⟩ | ⟨i, h, rfl, hp⟩ | ⟨i, h, rfl, hp⟩ | ⟨hm, hp⟩ <;> rw [hp]
  case inl => simp [TuiMessage.startedIndex?, hlen ▸ h]
  case inr.inr.inr => simp [hm]
  all_goals rfl

theorem shouldQuit_handleMessage :
    (app.handleMessage m).shouldQuit = (app.shouldQuit || decide (m = .exit)) := by
  cases m <;> simp only [handleMessage] <;> try split
  all_goals simp

/-- A message that reaches no record changes no record, no index and no aggregate. -/
theorem progress_handleMessage_of_not_touchesRecord (h : m.touchesRecord = false) :
    (app.handleMessage m).progress = app.progress := by
  have hlen := app.progress.steps_length
  rcases progress_handleMessage_cases app m with
    ⟨i, hi, rfl, -⟩ | ⟨i, hi, rfl, -⟩ | ⟨i, hi, rfl, -⟩ | ⟨-, hp⟩
  all_goals first
    | exact hp
    | simp [TuiMessage.touchesRecord, TuiMessage.index?] at h; omega

/-- After an in-range `StartStep` or `CompleteStep` the aggregate is recomputed
from the records; after every other message it is left as it was. -/
theorem overallProgress_handleMessage :
    (app.handleMessage m).progress.overallProgress =
      if m.recomputes then progressPercent (app.handleMessage m).progress.completedCount 39
      else app.progress.overallProgress := by
  have hlen := app.progress.steps_length
  rcases progress_handleMessage_cases app m with
    ⟨i, h, rfl, hp⟩ | ⟨i, h, rfl, hp⟩ | ⟨i, h, rfl, hp⟩ | ⟨hm, hp⟩ <;> rw [hp]
  case inr.inr.inr => simp [hm]
  all_goals simp [TuiMessage.recomputes, hlen ▸ h, InstallProgress.overallProgress_updateProgress,
    InstallProgress.completedCount, InstallProgress.changeStep]

/-- A message after which `update_progress` does not run leaves every
completed flag as it was, but for a `FailStep`, which clears the flag it hits. -/
theorem completedAt_handleMessage_of_not_recomputes (h : m.recomputes = false) (j : Nat) :
    (app.handleMessage m).progress.completedAt j =
      (app.progress.completedAt j && !decide (m = .failStep j)) := by
  have hlen := app.progress.steps_length
  rcases progress_handleMessage_cases app m with
    ⟨i, hi, rfl, -⟩ | ⟨i, hi, rfl, -⟩ | ⟨i, hi, rfl, hp⟩ | ⟨hm, hp⟩
  · simp [TuiMessage.recomputes] at h; omega
  · simp [TuiMessage.recomputes] at h; omega
  · rw [hp, InstallProgress.completedAt_changeStep]
    by_cases hij : i = j
    · subst hij; simp [InstallStep.fail]
    · simp [hij]
  · rw [hp]
    by_cases hmj : m = .failStep j
    · subst hmj
      simp [InstallProgress.completedAt_of_le _ (TuiMessage.le_of_touchesRecord_eq_false hm rfl)]
    · simp [hmj]

end TuiApp

/-! ## Whole runs: what each record shows -/

/-- A record of `TuiApp::new()` shows no flag. -/
theorem flags_new (j : Nat) (hj : j < 39) :
    TuiApp.new.progress.steps[j]?.map InstallStep.flags = some (false, false, false) := by
  have hlt : j < stepCatalog.length := hj
  simp [TuiApp.new, InstallProgress.new, List.getElem?_eq_getElem hlt,
    flags_of_mem_stepCatalog _ (List.getElem_mem hlt)]

theorem flags_runMessages (ms : List TuiMessage) (j : Nat) (hj : j < 39) :
    (runMessages ms).progress.steps[j]?.map InstallStep.flags = some (flagsOf (lastCarrying ms j)) := by
  induction ms using List.reverseRecOn with
  | nil => exact flags_new j hj
  | append_singleton ms m ih =>
    rw [runMessages_append_singleton, TuiApp.getElem?_handleMessage, lastCarrying_append_singleton]
    split
    · cases hs : (runMessages ms).progress.steps[j]? with
      | none => simp [hs] at ih
      | some s => simp [flags_change ‹_›]
    · exact ih

theorem currentStep_runMessages (ms : List TuiMessage) :
    (runMessages ms).progress.currentStep = lastStarted ms := by
  induction ms using List.reverseRecOn with
  | nil => rfl
  | append_singleton ms m ih =>
    rw [runMessages_append_singleton, TuiApp.currentStep_handleMessage, ih, lastStarted_append_singleton]

theorem shouldQuit_runMessages (ms : List TuiMessage) :
    (runMessages ms).shouldQuit = decide (TuiMessage.exit ∈ ms) := by
  induction ms using List.reverseRecOn with
  | nil => rfl
  | append_singleton ms m ih =>
    rw [runMessages_append_singleton, TuiApp.shouldQuit_handleMessage, ih]
    by_cases h : m = .exit
    · subst h; simp
    · simp [h, Ne.symm h]

/-- **What the view shows after any sequence of messages.**  Whatever the
indices, repeats, restarts after completion or failure: there are 39 records;
record `i` shows the flags of the last message carrying `i` (none if no message
did); the current step is the last in-range `StartStep`; a message that reaches
no record leaves the records, the current step and the aggregate unchanged; and
`should_quit()` holds exactly when `Exit` was handled. -/
theorem runMessages_view (ms : List TuiMessage) :
    (runMessages ms).progress.totalSteps = 39 ∧
    (∀ i < 39, (runMessages ms).progress.steps[i]?.map InstallStep.flags =
      some (flagsOf (lastCarrying ms i))) ∧
    (runMessages ms).progress.currentStep = lastStarted ms ∧
    (∀ (app : TuiApp) (m : TuiMessage), m.touchesRecord = false →
      (app.handleMessage m).progress = app.progress) ∧
    ((runMessages ms).shouldQuit = true ↔ TuiMessage.exit ∈ ms) :=
  ⟨InstallProgress.totalSteps_eq _, flags_runMessages ms, currentStep_runMessages ms,
    TuiApp.progress_handleMessage_of_not_touchesRecord, by simp [shouldQuit_runMessages]⟩

/-- A record shows completed exactly when the last message carrying its index
is a `CompleteStep`. -/
theorem completedAt_runMessages {ms : List TuiMessage} {j : Nat} (hj : j < 39) :
    (runMessages ms).progress.completedAt j = (flagsOf (lastCarrying ms j)).2.1 := by
  simpa [InstallProgress.completedAt, Option.map_map, Function.comp_def, InstallStep.flags] using
    congrArg (fun o => (o.map (·.2.1)).getD false) (flags_runMessages ms j hj)

/-- A record shows completed only when a `CompleteStep` carried its index. -/
theorem completeStep_mem_of_completedAt {ms : List TuiMessage} {j : Nat}
    (h : (runMessages ms).progress.completedAt j = true) : TuiMessage.completeStep j ∈ ms := by
  have hj : j < 39 := Nat.lt_of_not_le fun hle => by
    simp [InstallProgress.completedAt_of_le _ hle] at h
  rw [completedAt_runMessages hj] at h
  cases hl : lastCarrying ms j with
  | none => simp [hl, flagsOf] at h
  | some m =>
    obtain ⟨hmem, hidx⟩ := List.mem_filter.mp (List.mem_of_getLast?_eq_some hl)
    cases m <;> simp_all [flagsOf, TuiMessage.index?]

/-! ## Whole runs: the aggregate -/

/-- The messages up to the last one after which `update_progress` ran. -/
def upToLastRecompute (ms : List TuiMessage) : List TuiMessage :=
  (ms.reverse.dropWhile (fun m => !m.recomputes)).reverse

/-- The messages after it: none of them runs `update_progress`. -/
def afterLastRecompute (ms : List TuiMessage) : List TuiMessage :=
  (ms.reverse.takeWhile (fun m => !m.recomputes)).reverse

theorem upToLastRecompute_append_afterLastRecompute (ms : List TuiMessage) :
    upToLastRecompute ms ++ afterLastRecompute ms = ms := by
  rw [upToLastRecompute, afterLastRecompute, ← List.reverse_append, List.takeWhile_append_dropWhile,
    List.reverse_reverse]

theorem recomputes_of_mem_afterLastRecompute {ms : List TuiMessage} {m : TuiMessage}
    (h : m ∈ afterLastRecompute ms) : m.recomputes = false := by
  simpa using List.mem_takeWhile_imp (List.mem_reverse.mp h)

theorem upToLastRecompute_append_singleton (ms : List TuiMessage) (m : TuiMessage) :
    upToLastRecompute (ms ++ [m]) = if m.recomputes then ms ++ [m] else upToLastRecompute ms := by
  by_cases h : m.recomputes <;> simp [upToLastRecompute, List.dropWhile_cons, h]

/-- The aggregate is what `update_progress` computed at the last recomputation. -/
theorem overallProgress_runMessages (ms : List TuiMessage) :
    (runMessages ms).progress.overallProgress =
      progressPercent (runMessages (upToLastRecompute ms)).progress.completedCount 39 := by
  induction ms using List.reverseRecOn with
  | nil => decide
  | append_singleton ms m ih =>
    rw [runMessages_append_singleton, TuiApp.overallProgress_handleMessage,
      upToLastRecompute_append_singleton]
    split
    · rw [runMessages_append_singleton]
    · exact ih

/-- Over messages none of which recomputes, a record stays completed unless a
`FailStep` hits it. -/
theorem completedAt_foldl_of_not_recomputes (t : List TuiMessage)
    (ht : ∀ m ∈ t, m.recomputes = false) (app : TuiApp) (j : Nat) :
    (t.foldl TuiApp.handleMessage app).progress.completedAt j =
      (app.progress.completedAt j && !decide (TuiMessage.failStep j ∈ t)) := by
  induction t generalizing app with
  | nil => simp
  | cons m t ih =>
    rw [List.foldl_cons, ih (fun m hm => ht m (List.mem_cons_of_mem _ hm)),
      TuiApp.completedAt_handleMessage_of_not_recomputes _ _ (ht m (List.mem_cons_self _ _))]
    by_cases h : m = .failStep j
    · subst h; simp
    · simp [h, Ne.symm h]

/-- A count over a list, read as a count over its indices. -/
theorem countP_eq_countP_range {α : Type} (f : α → Bool) :
    ∀ l : List α, l.countP f = (List.range l.length).countP fun i => (l[i]?.map f).getD false
  | [] => rfl
  | a :: l => by
    rw [List.length_cons, List.range_succ_eq_map, List.countP_cons, List.countP_cons, List.countP_map,
      countP_eq_countP_range f l]
    simp [Function.comp_def]

/-- Counting the elements that pass `c` but not `d` finds all that pass `c`
exactly when none of them passes `d`. -/
theorem countP_and_not_eq_iff {α : Type} (c d : α → Bool) (l : List α) :
    l.countP (fun a => c a && !d a) = l.countP c ↔ ∀ a ∈ l, c a = true → d a = false := by
  have h := List.countP_filter (fun a => !d a) c l
  simp only [Bool.and_comm (!d _)] at h
  rw [← h, List.countP_eq_length_filter c, List.countP_eq_length]
  simp

theorem InstallProgress.completedCount_eq (p : InstallProgress) :
    p.completedCount = (List.range 39).countP p.completedAt := by
  rw [completedCount, countP_eq_countP_range, p.steps_length]; rfl

/-- Over messages none of which recomputes, the completed count stays as it was
exactly when no `FailStep` hits a record completed at the start. -/
theorem completedCount_foldl_eq_iff (t : List TuiMessage) (ht : ∀ m ∈ t, m.recomputes = false)
    (app : TuiApp) :
    (t.foldl TuiApp.handleMessage app).progress.completedCount = app.progress.completedCount ↔
      ∀ i, TuiMessage.failStep i ∈ t → app.progress.completedAt i = false := by
  have hfold : (t.foldl TuiApp.handleMessage app).progress.completedAt =
      fun j => app.progress.completedAt j && !decide (TuiMessage.failStep j ∈ t) :=
    funext (completedAt_foldl_of_not_recomputes t ht app)
  rw [InstallProgress.completedCount_eq, InstallProgress.completedCount_eq, hfold, countP_and_not_eq_iff]
  constructor
  · intro h i hi
    by_cases hlt : i < 39
    · simpa [hi] using h i (List.mem_range.mpr hlt)
    · exact app.progress.completedAt_of_le (Nat.le_of_not_lt hlt)
  · intro h i _ hc
    simpa using fun hi => absurd (h i hi) (by simp [hc])

/-! ## The values the aggregate can take -/

set_option maxRecDepth 20000 in
/-- The 40 values `update_progress` can compute, checked one by one: each is at
most 100, and its truncation to `u16` determines the count. -/
theorem progressPercent_table : ∀ k ≤ 39,
    progressPercent k 39 ≤ F64.ofNat 100 ∧ ((progressPercent k 39).asU16 * 39 + 99) / 100 = k := by
  decide

theorem progressPercent_inj {a b : Nat} (ha : a ≤ 39) (hb : b ≤ 39)
    (h : progressPercent a 39 = progressPercent b 39) : a = b := by
  rw [← (progressPercent_table a ha).2, ← (progressPercent_table b hb).2, h]

/-- For a count at most `n`, the gauge reads at most `100 n / 39`. -/
theorem asU16_progressPercent_le {k n : Nat} (hk : k ≤ n) (hn : n ≤ 39) :
    (progressPercent k 39).asU16 * 39 ≤ 100 * n := by
  have := (progressPercent_table k (hk.trans hn)).2
  omega

/-! ## The aggregate after any sequence of messages -/

set_option maxRecDepth 2000 in
/-- **`fail_step` leaves the aggregate stale.**  After `StartStep(0)`,
`CompleteStep(0)`, `FailStep(0)` no record is completed, so `update_progress`
would compute 0; but `fail_step`, unlike `start_step` and `complete_step`, does
not call it, and the aggregate still reads one step in 39. -/
theorem overallProgress_stale_after_failStep :
    (runMessages [.startStep 0, .completeStep 0, .failStep 0]).progress.overallProgress =
        progressPercent 1 39 ∧
      (InstallProgress.updateProgress
        (runMessages [.startStep 0, .completeStep 0, .failStep 0]).progress).overallProgress = F64.zero ∧
      progressPercent 1 39 ≠ F64.zero := by
  decide

/-- **The aggregate after any sequence of messages** is the value
`update_progress` computed after the last in-range `StartStep` or
`CompleteStep`; it is the value of the current records exactly when no
`FailStep` since then hit a record completed at that point. -/
theorem overallProgress_runMessages_lastRecompute (ms : List TuiMessage) :
    (runMessages ms).progress.overallProgress =
        (InstallProgress.updateProgress (runMessages (upToLastRecompute ms)).progress).overallProgress ∧
      ((runMessages ms).progress.overallProgress =
          (InstallProgress.updateProgress (runMessages ms).progress).overallProgress ↔
        ∀ i, TuiMessage.failStep i ∈ afterLastRecompute ms →
          (runMessages (upToLastRecompute ms)).progress.completedAt i = false) := by
  have hsplit : runMessages ms =
      (afterLastRecompute ms).foldl TuiApp.handleMessage (runMessages (upToLastRecompute ms)) := by
    conv_lhs => rw [← upToLastRecompute_append_afterLastRecompute ms]
    exact List.foldl_append ..
  rw [InstallProgress.overallProgress_updateProgress, InstallProgress.overallProgress_updateProgress,
    overallProgress_runMessages]
  refine ⟨rfl, ?_⟩
  rw [← completedCount_foldl_eq_iff _ (fun _ => recomputes_of_mem_afterLastRecompute), ← hsplit]
  exact ⟨fun h => (progressPercent_inj (InstallProgress.completedCount_le _)
    (InstallProgress.completedCount_le _) h).symm, fun h => h ▸ rfl⟩

/-- **The gauge never passes 100.**  After any sequence of messages the
aggregate is the binary64 value of `k / 39 * 100` for a count `k ≤ 39`, lies in
`[0, 100]`, and the `u16` `ui` hands to `Gauge::percent` is at most 100. -/
theorem runMessages_gauge_le (ms : List TuiMessage) :
    ∃ k ≤ 39, (runMessages ms).progress.overallProgress = progressPercent k 39 ∧
      F64.zero ≤ (runMessages ms).progress.overallProgress ∧
      (runMessages ms).progress.overallProgress ≤ F64.ofNat 100 ∧
      (runMessages ms).gaugePercent ≤ 100 := by
  have hk := InstallProgress.completedCount_le (runMessages (upToLastRecompute ms)).progress
  have hgauge := asU16_progressPercent_le hk le_rfl
  rw [TuiApp.gaugePercent, overallProgress_runMessages]
  exact ⟨_, hk, rfl, F64.zero_le _, (progressPercent_table _ hk).1, by omega⟩

end OpenVair
