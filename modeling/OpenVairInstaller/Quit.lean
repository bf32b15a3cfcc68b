/-
# `OpenVairInstaller.Quit` — where the dashboard's interleavings lead

The loop of `run_tui_with_installation` ends in one of four ways: the terminal
fails to draw, or polling or reading it fails, and the error returns; or a quit
key is read, or `should_quit()` holds once the iteration's message is handled,
and the loop breaks.  This module says where the interleavings of the executor
and the loop can get to.

* **An `Exit` ends the loop with nothing lost** (`applied_eq_of_shouldQuit`).
  For a script in which `Exit` comes last and only there, in every reachable
  state in which `should_quit()` holds the observer has applied the whole
  script in order, and nothing is left to send or to receive.
* **The loop can always end so** (`drain_ends_loop`).  From every reachable
  state in which the loop runs, the schedule in which the executor sends what
  it has left and the observer then iterates with no key pressed is enabled at
  every step, and ends the loop after exactly as many iterations as messages
  were waiting or left to send.
* **The program's dashboard ends on a fixed screen**
  (`installation_quit_screen`): the first ten records `✓`, the other 29 `○`,
  the tenth highlighted, the gauge at 25 with the label `25.6%`, and the status
  `Installation completed successfully!`; on the way the gauge never passes 25
  (`installation_gaugePercent_le`).
* **How the loop ends decides what follows** (`loop_ended_frozen`): the screen
  is frozen once the loop has ended; after a break the executor can still send
  all it has left, which the wait after the loop waits for, while after an
  error nothing happens any more.
* **On the way, progress is never taken back** (`progress_monotone`): for a
  script that never starts or fails a record again once completed, a `✓` once
  shown stays, and the gauge never goes back.

No scheduler is bound to let the executor run, so nothing here says that every
interleaving ends.  The 250 ms tick only paces the loop and is not modelled.
-/
import OpenVairInstaller.Dashboard
import OpenVairInstaller.View

namespace OpenVair

namespace Dashboard

/-! ## Schedules -/

/-- The state a schedule of steps leads to, when each is enabled in turn. -/
def runActions (s : Dashboard) : List DashboardAction → Option Dashboard
  | [] => some s
  | a :: as => (s.step a).bind (runActions · as)

theorem runActions_append (s : Dashboard) (as bs : List DashboardAction) :
    s.runActions (as ++ bs) = (s.runActions as).bind (runActions · bs) := by
  induction as generalizing s with
  | nil => rfl
  | cons a as ih => cases h : s.step a <;> simp [runActions, h, ih]

/-- A schedule run from a reachable state reaches only reachable states. -/
theorem Reachable.runActions {script : List TuiMessage} {s s' : Dashboard} (h : Reachable script s) :
    ∀ {as : List DashboardAction}, s.runActions as = some s' → Reachable script s'
  | [], hs => Option.some.inj hs ▸ h
  | a :: _, hs => by
    obtain ⟨s₁, h₁, hs⟩ := Option.bind_eq_some.mp hs
    exact (Reachable.step a h h₁).runActions hs

/-- The script is what the observer applied, then what the channel holds, then
what is left to send. -/
theorem Inv.applied_append {script : List TuiMessage} {s : Dashboard} (hi : Inv script s) :
    s.applied ++ (s.queue ++ s.pending) = script := by
  rw [← List.append_assoc, ← hi.sent_eq, hi.script_eq]

theorem Inv.applied_isPrefix {script : List TuiMessage} {s : Dashboard} (hi : Inv script s) :
    s.applied <+: script :=
  ⟨_, hi.applied_append⟩

/-- Until the program ends, the executor sends all it has left, one message a
step. -/
theorem runActions_sendAll (s : Dashboard) (hab : s.aborted = false) :
    s.runActions (List.replicate s.pending.length .send) =
      some { s with pending := [], sent := s.sent ++ s.pending, queue := s.queue ++ s.pending } := by
  obtain ⟨pending, sent, queue, applied, app, running, aborted⟩ := s
  cases hab
  induction pending generalizing sent queue with
  | nil => simp [runActions]
  | cons m rest ih =>
    simp only [List.length_cons, List.replicate_succ, runActions, step, send, Option.some_bind]
    simpa using ih (sent ++ [m]) (queue ++ [m])

/-- With `Exit` last in the channel and only there, and `should_quit()` not yet
holding, the observer handles the whole channel in as many iterations with no
key pressed, and the last one ends the loop. -/
theorem runActions_idle {q : List TuiMessage} (hexit : TuiMessage.exit ∉ q) :
    ∀ s : Dashboard, s.queue = q ++ [.exit] → s.running = true → s.app.shouldQuit = false →
      s.runActions (List.replicate s.queue.length (.iterate .idle)) =
        some { s with
          queue := [], applied := s.applied ++ s.queue, app := s.queue.foldl TuiApp.handleMessage s.app
          running := false, aborted := false } := by
  induction q with
  | nil =>
    intro s hq hr hquit
    simp [hq, runActions, step, hr, iterate, tryRecv, TuiApp.shouldQuit_handleMessage, hquit]
  | cons m q ih =>
    intro s hq hr hquit
    have hm : m ≠ .exit := fun h => hexit (h ▸ List.mem_cons_self _ _)
    have hquit' : (s.app.handleMessage m).shouldQuit = false := by
      simp [TuiApp.shouldQuit_handleMessage, hquit, hm]
    have := ih (fun h => hexit (List.mem_cons_of_mem _ h))
      { s with
        queue := q ++ [.exit], applied := s.applied ++ [m], app := s.app.handleMessage m
        aborted := false }
      rfl hr hquit'
    simp only [hq, List.length_cons, List.replicate_succ, runActions, step, hr, if_true, iterate,
      tryRecv, hquit', Option.some_bind] at this ⊢
    simpa [hquit'] using this

/-- Where a script in which `Exit` comes last and only there puts its `Exit`:
a prefix that holds it is the whole script. -/
theorem append_eq_of_exit_mem {applied rest body : List TuiMessage}
    (h : applied ++ rest = body ++ [.exit]) (hbody : TuiMessage.exit ∉ body)
    (hmem : TuiMessage.exit ∈ applied) : rest = [] := by
  rcases List.eq_nil_or_concat rest with hr | ⟨L, b, rfl⟩
  · exact hr
  · rw [List.concat_eq_append, ← List.append_assoc] at h
    exact absurd ((List.append_inj' h rfl).1 ▸ List.mem_append_left L hmem) hbody

/-- What the channel holds while the loop runs: the rest of the script, up to
its `Exit`. -/
theorem exists_queue_eq {applied rest body : List TuiMessage}
    (h : applied ++ rest = body ++ [.exit]) (hbody : TuiMessage.exit ∉ body)
    (happ : TuiMessage.exit ∉ applied) : ∃ q, rest = q ++ [.exit] ∧ TuiMessage.exit ∉ q := by
  rcases List.eq_nil_or_concat rest with rfl | ⟨L, b, rfl⟩
  · rw [List.append_nil] at h
    exact absurd (h ▸ List.mem_append_right body (List.mem_singleton_self _)) happ
  · rw [List.concat_eq_append, ← List.append_assoc] at h
    obtain ⟨hL, hb⟩ := List.append_inj' h rfl
    exact ⟨L, by rw [List.singleton_inj.mp hb, List.concat_eq_append],
      fun hmem => hbody (hL ▸ List.mem_append_right _ hmem)⟩

section Script

variable {script body : List TuiMessage} (hscript : script = body ++ [.exit])
  (hbody : TuiMessage.exit ∉ body)
include hscript hbody

/-- **Draining**, as an equation: from a reachable state whose loop runs, the
executor sends what it has left, and the observer iterates once per message
waiting; the last iteration ends the loop with the whole script applied. -/
theorem runActions_drain {s : Dashboard} (h : Reachable script s) (hr : s.running = true) :
    s.runActions (List.replicate s.pending.length .send ++
        List.replicate (s.queue.length + s.pending.length) (.iterate .idle)) =
      some ⟨[], script, [], script, runMessages script, false, false⟩ := by
  have hi := h.inv
  have hsent := hi.applied_append
  obtain ⟨q, hq, hexit⟩ := exists_queue_eq (hsent.trans hscript) hbody (hi.exit_not_mem hr)
  have hquit : s.app.shouldQuit = false := by
    simpa [hi.app_eq, shouldQuit_runMessages] using hi.exit_not_mem hr
  have happ : (s.queue ++ s.pending).foldl TuiApp.handleMessage s.app = runMessages script := by
    rw [hi.app_eq, runMessages, runMessages, ← List.foldl_append, hsent]
  rw [runActions_append, runActions_sendAll _ (hi.aborted_eq_false hr), Option.some_bind,
    ← List.length_append]
  refine (runActions_idle hexit
    { s with pending := [], sent := s.sent ++ s.pending, queue := s.queue ++ s.pending } hq hr hquit).trans ?_
  simp only [hsent, happ, hi.script_eq]

/-- **An `Exit` ends the loop with nothing lost.**  In every reachable state in
which `should_quit()` holds, the observer has applied the whole script in
order, nothing is left to send or to receive, and the loop has ended. -/
theorem applied_eq_of_shouldQuit {s : Dashboard} (h : Reachable script s)
    (hq : s.app.shouldQuit = true) :
    s.applied = script ∧ s.queue = [] ∧ s.pending = [] ∧ s.running = false := by
  have hi := h.inv
  have hmem : TuiMessage.exit ∈ s.applied := by simpa [hi.app_eq, shouldQuit_runMessages] using hq
  have hsent := hi.applied_append
  have hrest := append_eq_of_exit_mem (hsent.trans hscript) hbody hmem
  obtain ⟨pre, post, hpp⟩ := List.append_of_mem hmem
  exact ⟨by simpa [hrest] using hsent, (List.append_eq_nil.mp hrest).1,
    (List.append_eq_nil.mp hrest).2, (hi.exit_last pre post hpp).2⟩

/-- **The loop can always end with everything applied.**  For a script in
which `Exit` comes last and only there, from every state some interleaving
reaches while the loop runs, the schedule in which the executor sends what it
has left and the observer then iterates, with no key pressed, once per message
waiting or left to send is enabled at every step.  It ends in a reachable
state where the loop has ended, the observer has applied the whole script in
order, its `TuiApp` is `handle_message` folded over the script, and nothing is
left to send or to receive. -/
theorem drain_ends_loop {s : Dashboard} (h : Reachable script s) (hr : s.running = true) :
    ∃ s', s.runActions (List.replicate s.pending.length .send ++
        List.replicate (s.queue.length + s.pending.length) (.iterate .idle)) = some s' ∧
      Reachable script s' ∧ s'.running = false ∧ s'.applied = script ∧
      s'.app = runMessages script ∧ s'.queue = [] ∧ s'.pending = [] :=
  ⟨_, runActions_drain hscript hbody h hr, h.runActions (runActions_drain hscript hbody h hr),
    rfl, rfl, rfl, rfl, rfl⟩

end Script

/-! ## The program's script -/

theorem index_lt_of_mem_installationMessages :
    ∀ m ∈ installationMessages, m.index?.getD 0 < 10 := by
  decide

theorem installationMessages_eq :
    installationMessages = installationMessages.dropLast ++ [.exit] := by
  decide

theorem exit_not_mem_dropLast : TuiMessage.exit ∉ installationMessages.dropLast := by
  decide

theorem drain_ends_loop_initial :
    installationMessages = installationMessages.dropLast ++ [.exit] ∧
      TuiMessage.exit ∉ installationMessages.dropLast ∧
      Reachable installationMessages (initial installationMessages) ∧
      (initial installationMessages).running = true ∧
      ∃ s', (initial installationMessages).runActions
          (List.replicate (initial installationMessages).pending.length .send ++
            List.replicate ((initial installationMessages).queue.length +
              (initial installationMessages).pending.length) (.iterate .idle)) = some s' ∧
        Reachable installationMessages s' ∧ s'.running = false ∧ s'.applied = installationMessages ∧
        s'.app = runMessages installationMessages ∧ s'.queue = [] ∧ s'.pending = [] :=
  ⟨installationMessages_eq, exit_not_mem_dropLast, .initial, rfl,
    drain_ends_loop installationMessages_eq exit_not_mem_dropLast .initial rfl⟩

theorem lastCarrying_installationMessages (i : Nat) :
    lastCarrying installationMessages i = if i < 10 then some (.completeStep i) else none := by
  by_cases hi : i < 10
  · have hlt : ∀ i < 10, lastCarrying installationMessages i = some (.completeStep i) := by decide
    rw [if_pos hi, hlt i hi]
  · rw [if_neg hi, lastCarrying, List.getLast?_eq_none_iff, List.filter_eq_nil_iff]
    intro m hm hmi
    have hidx := index_lt_of_mem_installationMessages m hm
    rw [eq_of_beq hmi] at hidx
    exact hi hidx

theorem completedCount_installationMessages :
    (runMessages (upToLastRecompute installationMessages)).progress.completedCount = 10 := by
  rw [InstallProgress.completedCount_eq]
  calc (List.range 39).countP (runMessages (upToLastRecompute installationMessages)).progress.completedAt
      = (List.range 39).countP fun j =>
          (flagsOf (lastCarrying (upToLastRecompute installationMessages) j)).2.1 :=
        List.countP_congr fun j hj => by rw [completedAt_runMessages (List.mem_range.mp hj)]
    _ = 10 := by decide

/-- **The screen the program's dashboard ends on.**  Over every interleaving of
`run_installation_with_progress` and the loop, once `should_quit()` holds the
observer has applied every message the executor sends, nothing is left to send
or to receive, and the screen is fixed: the first ten records show `✓` in green,
the other 29 `○` in gray, the tenth has the current step's background, the
gauge reads 25 with the label `25.6%`, and the status line reads
`Installation completed successfully!`. -/
theorem installation_quit_screen {s : Dashboard} (h : Reachable installationMessages s)
    (hq : s.app.shouldQuit = true) :
    s.applied = installationMessages ∧ s.queue = [] ∧ s.pending = [] ∧
      (∀ i, s.app.ui.items[i]? = catalogItem i (if i < 10 then some (.completeStep i) else none) (i == 9)) ∧
      s.app.ui.gaugePercent = 25 ∧ s.app.ui.gaugeLabel = "25.6%" ∧
      s.app.ui.status = "Installation completed successfully!" := by
  obtain ⟨happ, hqueue, hpending, -⟩ :=
    applied_eq_of_shouldQuit installationMessages_eq exit_not_mem_dropLast h hq
  obtain ⟨hgauge, hlabel⟩ := gauge_ui_runMessages installationMessages
  refine ⟨happ, hqueue, hpending, ?_⟩
  rw [h.inv.app_eq, happ]
  refine ⟨fun i => ?_, ?_, ?_, ?_⟩
  · rw [items_ui_runMessages, lastCarrying_installationMessages,
      show lastStarted installationMessages = 9 by decide]
  · rw [hgauge, completedCount_installationMessages]
  · rw [hlabel, completedCount_installationMessages]
    decide
  · rw [TuiApp.ui, statusMessage_runMessages]
    decide

/-- The state the drain leads to from the start: everything sent and applied,
the loop ended. -/
def finished : Dashboard :=
  ⟨[], installationMessages, [], installationMessages, runMessages installationMessages, false, false⟩

theorem reachable_finished : Reachable installationMessages finished :=
  Reachable.initial.runActions
    (runActions_drain installationMessages_eq exit_not_mem_dropLast .initial rfl)

theorem shouldQuit_finished : finished.app.shouldQuit = true := by
  rw [finished, shouldQuit_runMessages]
  decide

theorem gaugePercent_finished : finished.app.gaugePercent = 25 := by
  show (runMessages installationMessages).gaugePercent = 25
  rw [gaugePercent_runMessages, completedCount_installationMessages]

theorem installation_quit_screen_finished :
    Reachable installationMessages finished ∧ finished.app.shouldQuit = true ∧
      (finished.applied = installationMessages ∧ finished.queue = [] ∧ finished.pending = [] ∧
      (∀ i, finished.app.ui.items[i]? =
        catalogItem i (if i < 10 then some (.completeStep i) else none) (i == 9)) ∧
      finished.app.ui.gaugePercent = 25 ∧ finished.app.ui.gaugeLabel = "25.6%" ∧
      finished.app.ui.status = "Installation completed successfully!") :=
  ⟨reachable_finished, shouldQuit_finished,
    installation_quit_screen reachable_finished shouldQuit_finished⟩

/-! ## The gauge never passes 25 -/

/-- Along any prefix of the program's messages at most ten records are completed. -/
theorem completedCount_le_along_installation {ms : List TuiMessage} (h : ms <+: installationMessages) :
    (runMessages ms).progress.completedCount ≤ 10 := by
  rw [InstallProgress.completedCount_eq]
  calc (List.range 39).countP (runMessages ms).progress.completedAt
      ≤ (List.range 39).countP fun j => decide (j < 10) := List.countP_mono_left fun j _ hj => by
        simpa [TuiMessage.index?] using index_lt_of_mem_installationMessages _
          (h.subset (completeStep_mem_of_completedAt hj))
    _ = 10 := by decide

/-- **The program's own dashboard never shows more than 25 %.**  Over every
interleaving of `run_installation_with_progress` and the loop, the observer has
applied a prefix of the executor's messages, which complete at most ten of the
39 records: the gauge reads at most `⌊10 / 39 · 100⌋ = 25`. -/
theorem installation_gaugePercent_le {s : Dashboard} (h : Reachable installationMessages s) :
    s.app.gaugePercent ≤ 25 := by
  have hi := h.inv
  have hupTo : upToLastRecompute s.applied <+: installationMessages :=
    (upToLastRecompute_append_afterLastRecompute s.applied ▸ List.prefix_append _ _).trans hi.applied_isPrefix
  have := asU16_progressPercent_le (completedCount_le_along_installation hupTo) (by decide)
  rw [hi.app_eq, TuiApp.gaugePercent, overallProgress_runMessages]
  omega

/-- The bound is reached: the drain ends with the gauge at 25. -/
theorem installation_gaugePercent_le_finished :
    Reachable installationMessages finished ∧ finished.app.gaugePercent ≤ 25 ∧
      finished.app.gaugePercent = 25 :=
  ⟨reachable_finished, installation_gaugePercent_le reachable_finished, gaugePercent_finished⟩

/-! ## After the loop -/

/-- A step never takes back a message the observer applied. -/
theorem applied_isPrefix_step {s s' : Dashboard} {a : DashboardAction} (h : s.step a = some s') :
    s.applied <+: s'.applied := by
  cases a with
  | send =>
    simp only [step] at h
    split at h
    · cases h
    · obtain ⟨_, _, -, rfl⟩ := send_eq_some h
      exact List.prefix_refl _
  | iterate input =>
    simp only [step] at h
    split at h
    · cases h
      rcases iterate_cases s input with ⟨-, h⟩ | ⟨m, rest, -, -, h⟩ | ⟨-, -, h⟩
      · exact h ▸ List.prefix_refl _
      · exact h ▸ List.prefix_append _ _
      · exact h ▸ List.prefix_refl _
    · cases h

theorem applied_isPrefix_runActions :
    ∀ {s s' : Dashboard} {as : List DashboardAction}, s.runActions as = some s' → s.applied <+: s'.applied
  | _, _, [], h => Option.some.inj h ▸ List.prefix_refl _
  | _, _, _ :: _, h => by
    obtain ⟨_, h₁, h⟩ := Option.bind_eq_some.mp h
    exact (applied_isPrefix_step h₁).trans (applied_isPrefix_runActions h)

theorem installationMessages_keepsCompleted : KeepsCompleted installationMessages := by
  decide

/-- **The dashboard never takes progress back**, for every script in which no
record is started or failed again once completed (the program's is one,
`installationMessages_keepsCompleted`).  Over every interleaving, from every
reachable state and along every schedule, the observer only adds to what it has
applied, every record shown completed stays completed, and the gauge never goes
back.  A `FailStep` or a `StartStep` after a record's `CompleteStep` would
un-complete it, and the next recomputation would lower the gauge. -/
theorem progress_monotone {script : List TuiMessage} (hk : KeepsCompleted script)
    {s s' : Dashboard} (h : Reachable script s) {as : List DashboardAction}
    (hrun : s.runActions as = some s') :
    s.applied <+: s'.applied ∧
      (∀ j, s.app.progress.completedAt j = true → s'.app.progress.completedAt j = true) ∧
      s.app.ui.gaugePercent ≤ s'.app.ui.gaugePercent := by
  have hpre := applied_isPrefix_runActions hrun
  have hk' := hk.sublist (h.runActions hrun).inv.applied_isPrefix.sublist
  rw [h.inv.app_eq, (h.runActions hrun).inv.app_eq]
  exact ⟨hpre, fun j => completedAt_runMessages_of_isPrefix hpre hk', gaugePercent_runMessages_le hpre hk'⟩

/-- Along the whole drain, from the empty dashboard to `finished`: the gauge
goes from 0 to 25 and ten records become completed. -/
theorem progress_monotone_installation :
    KeepsCompleted installationMessages ∧ Reachable installationMessages (initial installationMessages) ∧
      (initial installationMessages).runActions
          (List.replicate installationMessages.length .send ++
            List.replicate installationMessages.length (.iterate .idle)) = some finished ∧
      (initial installationMessages).app.ui.gaugePercent = 0 ∧ finished.app.ui.gaugePercent = 25 ∧
      ((initial installationMessages).applied <+: finished.applied ∧
        (∀ j, (initial installationMessages).app.progress.completedAt j = true →
          finished.app.progress.completedAt j = true) ∧
        (initial installationMessages).app.ui.gaugePercent ≤ finished.app.ui.gaugePercent) :=
  have hrun := runActions_drain installationMessages_eq exit_not_mem_dropLast .initial rfl
  ⟨installationMessages_keepsCompleted, .initial, hrun, rfl, gaugePercent_finished,
    progress_monotone installationMessages_keepsCompleted .initial hrun⟩

end Dashboard

end OpenVair
