/-
# `OpenVairInstaller.Dashboard` — the installation dashboard and its channel

`run_tui_with_installation` runs two tasks around an unbounded `mpsc` channel:

* the executor, `run_installation_with_progress` spawned, loads the
  configuration and sends its messages one by one (`tx.send`);
* the observer, the loop of `run_tui_with_installation`, draws, takes at most
  one message (`rx.try_recv()`), handles it, polls the keyboard, and leaves the
  loop on `q` or `Esc` or once `should_quit()` holds.

Which runs when is up to the scheduler and the 250 ms tick, so the model is a
step relation: from any state either task may take its next step.  The state
holds what the executor has still to send, the messages sent so far, the
channel's contents, the messages the observer has applied, its `TuiApp`, and
whether the loop runs; `sent` and `applied` are ghost lists that only state the
invariants.  For every interleaving, in every state reached
(`Dashboard.reachable_channel`):

* the channel loses, duplicates and reorders nothing: `sent = applied ++ queue`,
  and what was sent is a prefix of what the executor meant to send;
* the observer's `TuiApp` is `handle_message` folded over `applied` from
  `TuiApp::new()`;
* an iteration that finds the channel empty leaves the `TuiApp` as it was;
* no message is applied after `Exit`: the loop ends in the iteration that
  applies it.

What the terminal does in an iteration is its input.  A quit key, or
`should_quit()` once the message is handled, breaks out of the loop, and the
executor goes on sending what it has left while `install_handle.await` waits
for it.  A failing `terminal.draw` (before `try_recv`) or a failing `poll` or
`read` (after it) returns through `?` instead: `run_tui_with_installation`
returns the error before the wait, `main` returns it, and the runtime drops the
executor, so nothing happens after that (`aborted`).  The tick timer, the
drawing and the terminal's set-up and tear-down are not modelled.
-/
import OpenVairInstaller.Progress

namespace OpenVair

/-- The messages `run_installation_with_progress` sends once the configuration
has loaded; when loading fails (`read_file` or `toml::from_str`), the `?` returns
before any send, and the executor sends nothing. -/
def installationMessages : List TuiMessage :=
  (List.range 10).flatMap (fun i => [.startStep i, .completeStep i]) ++
    [.updateStatus "Installation completed successfully!", .exit]

/-- What the terminal does during one iteration of the loop. -/
inductive TerminalInput where
  /-- `terminal.draw(...)?` fails: the error returns before `try_recv`. -/
  | drawFails
  /-- `q` or `Esc` is read: the loop breaks after the message. -/
  | quitKey
  /-- `poll(...)?` or `read()?` fails: the error returns after the message. -/
  | inputFails
  /-- Nothing that ends the loop. -/
  | idle
deriving DecidableEq, Repr

/-- The two tasks' steps. -/
inductive DashboardAction where
  | send
  | iterate (input : TerminalInput)
deriving DecidableEq, Repr

/-- The executor and the observer of `run_tui_with_installation`; `aborted`
records that the loop returned an error, after which the program ends. -/
structure Dashboard where
  pending : List TuiMessage
  sent : List TuiMessage
  queue : List TuiMessage
  applied : List TuiMessage
  app : TuiApp
  running : Bool
  aborted : Bool

namespace Dashboard

/-- The state after `TuiApp::new()`, `mpsc::unbounded_channel()` and
`tokio::spawn`, with the executor about to send `script`. -/
def initial (script : List TuiMessage) : Dashboard := ⟨script, [], [], [], TuiApp.new, true, false⟩

/-- `tx.send(message)`: the channel is unbounded and the receiver outlives the
executor, so a send never blocks or fails. -/
def send (s : Dashboard) : Option Dashboard :=
  match s.pending with
  | [] => none
  | m :: rest => some { s with pending := rest, sent := s.sent ++ [m], queue := s.queue ++ [m] }

/-- `rx.try_recv()`: the head of the channel, if any. -/
def tryRecv : List TuiMessage → Option (TuiMessage × List TuiMessage)
  | [] => none
  | m :: rest => some (m, rest)

/-- One iteration of the observer's loop. -/
def iterate (s : Dashboard) : TerminalInput → Dashboard
  | .drawFails => { s with running := false, aborted := true }
  | input =>
    let s := match tryRecv s.queue with
      | some (m, rest) => { s with queue := rest, applied := s.applied ++ [m], app := s.app.handleMessage m }
      | none => s
    { s with
      running := !(input == .quitKey || input == .inputFails || s.app.shouldQuit)
      aborted := input == .inputFails }

/-- A step of either task: the executor while it has a message to send and the
program has not ended, the observer while its loop runs. -/
def step (s : Dashboard) : DashboardAction → Option Dashboard
  | .send => if s.aborted then none else s.send
  | .iterate input => if s.running then some (s.iterate input) else none

/-- The states some interleaving reaches from `initial script`. -/
inductive Reachable (script : List TuiMessage) : Dashboard → Prop
  | initial : Reachable script (initial script)
  | step {s s' : Dashboard} (a : DashboardAction) : Reachable script s → s.step a = some s' →
      Reachable script s'

/-! ## What each step does -/

theorem send_eq_some {s s' : Dashboard} (h : s.send = some s') :
    ∃ m rest, s.pending = m :: rest ∧
      s' = { s with pending := rest, sent := s.sent ++ [m], queue := s.queue ++ [m] } := by
  unfold send at h
  split at h
  · cases h
  · exact ⟨_, _, ‹_›, (Option.some.inj h).symm⟩

/-- **What an iteration can do**: return an error with nothing received, or take
the head of the channel and handle it, or find the channel empty; the loop
runs on unless the terminal or `should_quit()` ends it, and it ends aborted
exactly when the terminal failed. -/
theorem iterate_cases (s : Dashboard) (input : TerminalInput) :
    (input = .drawFails ∧ s.iterate input = { s with running := false, aborted := true }) ∨
    (∃ m rest, input ≠ .drawFails ∧ s.queue = m :: rest ∧
      s.iterate input =
        { s with
          queue := rest, applied := s.applied ++ [m], app := s.app.handleMessage m
          running := !(input == .quitKey || input == .inputFails || (s.app.handleMessage m).shouldQuit)
          aborted := input == .inputFails }) ∨
    (input ≠ .drawFails ∧ s.queue = [] ∧
      s.iterate input =
        { s with
          running := !(input == .quitKey || input == .inputFails || s.app.shouldQuit)
          aborted := input == .inputFails }) := by
  cases input <;> cases hq : s.queue <;> simp [iterate, tryRecv, hq, and_assoc]

/-! ## The invariant -/

/-- What holds in every reachable state. -/
structure Inv (script : List TuiMessage) (s : Dashboard) : Prop where
  script_eq : s.sent ++ s.pending = script
  sent_eq : s.sent = s.applied ++ s.queue
  app_eq : s.app = runMessages s.applied
  exit_last : ∀ pre post, s.applied = pre ++ .exit :: post → post = [] ∧ s.running = false
  aborted_stops : s.aborted = true → s.running = false

theorem inv_initial (script : List TuiMessage) : Inv script (initial script) :=
  ⟨by simp [initial], rfl, rfl, fun pre post h => by simp [initial] at h, fun h => by cases h⟩

theorem Inv.send {script : List TuiMessage} {s s' : Dashboard} (hi : Inv script s)
    (h : s.send = some s') : Inv script s' := by
  obtain ⟨m, rest, hp, rfl⟩ := send_eq_some h
  exact ⟨by simp [← hi.script_eq, hp], by simp [hi.sent_eq], hi.app_eq, hi.exit_last,
    hi.aborted_stops⟩

/-- A running loop has not returned an error. -/
theorem Inv.aborted_eq_false {script : List TuiMessage} {s : Dashboard} (hi : Inv script s)
    (hr : s.running = true) : s.aborted = false := by
  cases hab : s.aborted
  · rfl
  · simp [hi.aborted_stops hab] at hr

/-- A running loop has applied no `Exit`. -/
theorem Inv.exit_not_mem {script : List TuiMessage} {s : Dashboard} (hi : Inv script s)
    (hr : s.running = true) : TuiMessage.exit ∉ s.applied := fun hmem => by
  obtain ⟨pre, post, h⟩ := List.append_of_mem hmem
  simp [(hi.exit_last pre post h).2] at hr

/-- Appending one message to a list with no `Exit` puts an `Exit` nowhere but at
the end. -/
theorem post_eq_nil_of_append_singleton {l pre post : List TuiMessage} {m : TuiMessage}
    (hl : TuiMessage.exit ∉ l) (h : l ++ [m] = pre ++ .exit :: post) : post = [] ∧ m = .exit := by
  cases post with
  | nil => simpa using (List.append_inj' h rfl).2
  | cons x post =>
    have : l = pre ++ (TuiMessage.exit :: x :: post).dropLast := by
      rw [← List.dropLast_append_cons, ← h, List.dropLast_concat]
    exact absurd (this ▸ List.mem_append_right _ (List.mem_cons_self _ _)) hl

theorem Inv.iterate {script : List TuiMessage} {s : Dashboard} (hi : Inv script s)
    (hr : s.running = true) (input : TerminalInput) : Inv script (s.iterate input) := by
  rcases iterate_cases s input with ⟨-, h⟩ | ⟨m, rest, -, hq, h⟩ | ⟨-, -, h⟩ <;> rw [h]
  · exact ⟨hi.script_eq, hi.sent_eq, hi.app_eq, fun pre post h => ⟨(hi.exit_last pre post h).1, rfl⟩,
      fun _ => rfl⟩
  · refine ⟨hi.script_eq, by simp [hi.sent_eq, hq], by simp [hi.app_eq], fun pre post h => ?_,
      fun hab => by simp [beq_iff_eq.mp hab]⟩
    obtain ⟨rfl, rfl⟩ := post_eq_nil_of_append_singleton (hi.exit_not_mem hr) h
    simp [TuiApp.shouldQuit_handleMessage]
  · exact ⟨hi.script_eq, hi.sent_eq, hi.app_eq, fun pre post h => absurd
      (h ▸ List.mem_append_right _ (List.mem_cons_self _ _)) (hi.exit_not_mem hr),
      fun hab => by simp [beq_iff_eq.mp hab]⟩

theorem Inv.step {script : List TuiMessage} {s s' : Dashboard} (hi : Inv script s)
    {a : DashboardAction} (h : s.step a = some s') : Inv script s' := by
  cases a with
  | send =>
    simp only [Dashboard.step] at h
    split at h
    · cases h
    · exact hi.send h
  | iterate input =>
    simp only [Dashboard.step] at h
    split at h
    · exact (Option.some.inj h) ▸ hi.iterate ‹_› input
    · cases h

theorem Reachable.inv {script : List TuiMessage} {s : Dashboard} (h : Reachable script s) :
    Inv script s := by
  induction h with
  | initial => exact inv_initial script
  | step _ _ hstep ih => exact ih.step hstep

/-- **The channel between the executor and the observer**, over every
interleaving: what was sent is a prefix of the executor's script; every message
sent was applied or is still in the channel, once and in order; the observer's
`TuiApp` is `handle_message` folded over what it applied; an iteration that
finds the channel empty changes no `TuiApp`; and no message is applied after
`Exit`, with which the loop ends. -/
theorem reachable_channel {script : List TuiMessage} {s : Dashboard} (h : Reachable script s) :
    s.sent ++ s.pending = script ∧
    s.sent = s.applied ++ s.queue ∧
    s.app = runMessages s.applied ∧
    (s.queue = [] → ∀ input, (s.iterate input).app = s.app) ∧
    (∀ pre post, s.applied = pre ++ .exit :: post → post = [] ∧ s.running = false) := by
  have hi := h.inv
  refine ⟨hi.script_eq, hi.sent_eq, hi.app_eq, fun hq input => ?_, hi.exit_last⟩
  rcases iterate_cases s input with ⟨-, h⟩ | ⟨m, rest, -, hq', -⟩ | ⟨-, -, h⟩
  · rw [h]
  · simp [hq] at hq'
  · rw [h]

/-- The executor has sent `StartStep(0)` and the observer has handled it. -/
def afterFirstMessage : Dashboard :=
  ⟨installationMessages.tail, [.startStep 0], [], [.startStep 0], TuiApp.new.handleMessage (.startStep 0),
    true, false⟩

theorem reachable_afterFirstMessage : Reachable installationMessages afterFirstMessage :=
  .step (.iterate .idle) (.step .send .initial rfl) rfl

theorem reachable_channel_afterFirstMessage :
    Reachable installationMessages afterFirstMessage ∧
      (afterFirstMessage.sent ++ afterFirstMessage.pending = installationMessages ∧
      afterFirstMessage.sent = afterFirstMessage.applied ++ afterFirstMessage.queue ∧
      afterFirstMessage.app = runMessages afterFirstMessage.applied ∧
      (afterFirstMessage.queue = [] → ∀ input, (afterFirstMessage.iterate input).app = afterFirstMessage.app) ∧
      (∀ pre post, afterFirstMessage.applied = pre ++ .exit :: post →
        post = [] ∧ afterFirstMessage.running = false)) :=
  ⟨reachable_afterFirstMessage, reachable_channel reachable_afterFirstMessage⟩

end Dashboard

end OpenVair
