/-
# `OpenVairInstaller.View` — what `TuiApp::ui` draws

`ui` draws four widgets from the app: a title, the gauge, the list of the 39
records and the status line.  The model keeps what they show: the texts, the
colour of each span of a list item, which item has the current step's
background, the gauge's percentage and its label.  The layout (margins,
constraints, borders, block titles) and the fixed styles of the title, the
gauge and the status widget are not modelled.

The label is `format!("{:.1}%", overall_progress)`: `core::fmt` prints the
exact binary value rounded to one decimal, ties to even.  No tie arises for the
values the aggregate takes.

After any sequence of messages handled from `TuiApp::new()`
(`runMessages_ui`):

* the list has 39 items; item `i` shows the name and description
  `InstallProgress::new` gave record `i`, in the symbol and colour of the last
  message carrying `i`: `✓` green for `CompleteStep`, `✗` red for `FailStep`,
  `⟳` yellow for `StartStep`, `○` gray when none did.  A record never has two
  flags set, so the order in which `ui` tests them never matters;
* exactly one item has the current step's background: that of the last
  in-range `StartStep`, or the first item before any;
* for the count `k` of completed records at the last recomputation, the gauge
  shows `⌊100 k / 39⌋` and the label `100 k / 39` rounded to one decimal: the
  binary64 rounding of the aggregate never shows;
* the status line is the text of the last message other than `Exit`, naming
  the record `InstallProgress::new` gave its index, or
  `Starting installation...` before any.
-/
import OpenVairInstaller.Progress

namespace OpenVair

/-! ## `ui` -/

/-- The colours of the list's spans. -/
inductive Color where
  | green
  | red
  | yellow
  | gray
deriving DecidableEq, Repr

/-- `Span::styled`: a text in a foreground colour. -/
structure Span where
  text : String
  color : Color
deriving DecidableEq, Repr

/-- A `ListItem`: its spans, and whether it has the current step's background. -/
structure StepItem where
  spans : List Span
  highlighted : Bool
deriving DecidableEq, Repr

/-- What the four widgets show. -/
structure Screen where
  title : String
  gaugePercent : Nat
  gaugeLabel : String
  items : List StepItem
  status : String
deriving DecidableEq, Repr

namespace InstallStep

/-- The symbol and colour `ui` picks for a record, testing `completed`, then
`failed`, then `in_progress`. -/
def symbolStyle (step : InstallStep) : String × Color :=
  if step.completed then ("✓", .green)
  else if step.failed then ("✗", .red)
  else if step.inProgress then ("⟳", .yellow)
  else ("○", .gray)

/-- The list item `ui` builds for a record: `"{symbol} "` and the name in the
record's colour, `" - {description}"` in gray. -/
def item (step : InstallStep) (current : Bool) : StepItem :=
  ⟨[⟨step.symbolStyle.1 ++ " ", step.symbolStyle.2⟩, ⟨step.name, step.symbolStyle.2⟩,
    ⟨" - " ++ step.description, .gray⟩], current⟩

end InstallStep

/-- Ten times the value of `x`, rounded to an integer, ties to even. -/
def F64.tenths (x : F64) : Nat :=
  if 0 ≤ x.exp then x.mant * 10 * 2 ^ x.exp.toNat
  else roundHalfEven (x.mant * 10) (2 ^ (-x.exp).toNat)

/-- A number of tenths as `{:.1}` prints it: the integer part, a point and one
digit. -/
def formatTenths (r : Nat) : String := toString (r / 10) ++ "." ++ toString (r % 10)

/-- `format!("{:.1}", x)`. -/
def F64.formatFixed1 (x : F64) : String := formatTenths x.tenths

/-- `TuiApp::ui`. -/
def TuiApp.ui (app : TuiApp) : Screen where
  title := "OpenVAir Installation"
  gaugePercent := app.gaugePercent
  gaugeLabel := app.progress.overallProgress.formatFixed1 ++ "%"
  items := app.progress.steps.mapIdx fun i step => step.item (i == app.progress.currentStep)
  status := app.statusMessage

/-! ## What each widget shows after a run -/

/-- The symbol and colour of a record the message `o` touched last: none
touched it, it was started, completed or failed. -/
def symbolStyleOf : Option TuiMessage → String × Color
  | some (.completeStep _) => ("✓", .green)
  | some (.failStep _) => ("✗", .red)
  | some (.startStep _) => ("⟳", .yellow)
  | _ => ("○", .gray)

/-- The item of record `i` of `InstallProgress::new` when `o` touched it last. -/
def catalogItem (i : Nat) (o : Option TuiMessage) (current : Bool) : Option StepItem :=
  stepCatalog[i]?.map fun s =>
    ⟨[⟨(symbolStyleOf o).1 ++ " ", (symbolStyleOf o).2⟩, ⟨s.name, (symbolStyleOf o).2⟩,
      ⟨" - " ++ s.description, .gray⟩], current⟩

/-- The status text of a message carrying index `i`: the name
`InstallProgress::new` gave record `i`, or the index when there is none. -/
def recordStatus (verb fallback : String) (i : Nat) : String :=
  match stepCatalog[i]? with
  | some s => verb ++ s.name
  | none => fallback ++ toString i

/-- The status text a message leaves; `Exit` leaves the status line alone. -/
def TuiMessage.statusText : TuiMessage → Option String
  | .startStep i => some (recordStatus "Starting: " "Starting step " i)
  | .completeStep i => some (recordStatus "Completed: " "Completed step " i)
  | .failStep i => some (recordStatus "Failed: " "Failed step " i)
  | .updateStatus status => some status
  | .exit => none

/-- The status line after `ms`. -/
def statusLine (ms : List TuiMessage) : String :=
  ((ms.filterMap TuiMessage.statusText).getLast?).getD "Starting installation..."

@[simp] theorem statusLine_append_singleton (ms : List TuiMessage) (m : TuiMessage) :
    statusLine (ms ++ [m]) = m.statusText.getD (statusLine ms) := by
  cases h : m.statusText <;> simp [statusLine, h]

/-! ## The records after a run -/

/-- A record with its flags `(in_progress, completed, failed)` set to `f`. -/
def InstallStep.setFlags (s : InstallStep) (f : Bool × Bool × Bool) : InstallStep :=
  { s with inProgress := f.1, completed := f.2.1, failed := f.2.2 }

theorem change_setFlags {m : TuiMessage} {i : Nat} (h : m.index? = some i) (s : InstallStep)
    (f : Bool × Bool × Bool) : m.change (s.setFlags f) = s.setFlags (flagsOf (some m)) := by
  cases m <;> first | rfl | cases h

theorem item_setFlags (s : InstallStep) (o : Option TuiMessage) (current : Bool) :
    (s.setFlags (flagsOf o)).item current =
      ⟨[⟨(symbolStyleOf o).1 ++ " ", (symbolStyleOf o).2⟩, ⟨s.name, (symbolStyleOf o).2⟩,
        ⟨" - " ++ s.description, .gray⟩], current⟩ := by
  rcases o with _ | ⟨_ | _ | _ | _ | _⟩ <;> rfl

/-- **Every record after a run** is the record `InstallProgress::new` built,
with the flags of the last message carrying its index. -/
theorem getElem?_runMessages (ms : List TuiMessage) (i : Nat) :
    (runMessages ms).progress.steps[i]? =
      stepCatalog[i]?.map (·.setFlags (flagsOf (lastCarrying ms i))) := by
  induction ms using List.reverseRecOn with
  | nil =>
    have hnew : ∀ s ∈ stepCatalog, s.setFlags (flagsOf none) = s := fun s hs => by
      rw [show flagsOf none = s.flags from (flags_of_mem_stepCatalog s hs).symm]; rfl
    cases h : stepCatalog[i]? with
    | none => exact h
    | some s => exact h.trans (congrArg some (hnew s (List.getElem?_mem h)).symm)
  | append_singleton ms m ih =>
    rw [runMessages_append_singleton, TuiApp.getElem?_handleMessage, lastCarrying_append_singleton]
    split
    · rw [ih, Option.map_map]
      exact congrArg (stepCatalog[i]?.map ·) (funext fun s => change_setFlags ‹_› s _)
    · exact ih

/-- The last in-range `StartStep` names a record. -/
theorem lastStarted_lt (ms : List TuiMessage) : lastStarted ms < 39 := by
  induction ms using List.reverseRecOn with
  | nil => decide
  | append_singleton ms m ih =>
    rw [lastStarted_append_singleton]
    cases m <;> simp only [TuiMessage.startedIndex?, Option.getD_none, ih]
    split <;> simp [*]

/-! ## The status line after a run -/

theorem recordStatus_of_getElem? {p : InstallProgress}
    (hp : ∀ j : Nat, (p.steps[j]?).map InstallStep.name = (stepCatalog[j]?).map InstallStep.name) {i : Nat}
    (h : i < p.steps.length) (verb fallback : String) :
    verb ++ p.steps[i].name = recordStatus verb fallback i := by
  have hi := hp i
  rw [List.getElem?_eq_getElem h] at hi
  unfold recordStatus
  split <;> simp_all

theorem recordStatus_of_le {i : Nat} (h : 39 ≤ i) (verb fallback : String) :
    recordStatus verb fallback i = fallback ++ toString i := by
  simp [recordStatus, List.getElem?_eq_none (show stepCatalog.length ≤ i from h)]

/-- The status `handle_message` writes, for an app whose records carry the
names `InstallProgress::new` gave them once the message is handled. -/
theorem statusMessage_handleMessage (app : TuiApp) (m : TuiMessage)
    (hp : ∀ j : Nat, ((app.handleMessage m).progress.steps[j]?).map InstallStep.name =
      (stepCatalog[j]?).map InstallStep.name) :
    (app.handleMessage m).statusMessage = m.statusText.getD app.statusMessage := by
  have hlen := app.progress.steps_length
  cases m <;> simp only [TuiApp.handleMessage, TuiMessage.statusText, Option.getD_some] at hp ⊢
  all_goals first
    | rfl
    | split
      · simp only [dif_pos ‹_›] at hp
        exact recordStatus_of_getElem? hp _ _ _
      · exact (recordStatus_of_le (by omega) _ _).symm

theorem statusMessage_runMessages (ms : List TuiMessage) :
    (runMessages ms).statusMessage = statusLine ms := by
  induction ms using List.reverseRecOn with
  | nil => rfl
  | append_singleton ms m ih =>
    have hp : ∀ j : Nat, ((runMessages (ms ++ [m])).progress.steps[j]?).map InstallStep.name =
        (stepCatalog[j]?).map InstallStep.name := fun j => by
      rw [getElem?_runMessages, Option.map_map]; rfl
    rw [runMessages_append_singleton] at hp ⊢
    rw [statusMessage_handleMessage _ _ hp, ih, statusLine_append_singleton]

/-! ## The gauge -/

set_option maxRecDepth 20000 in
/-- The gauge and label for each of the 40 values `update_progress` can
compute, checked one by one. -/
theorem progressPercent_shown : ∀ k ≤ 39,
    (progressPercent k 39).asU16 = 100 * k / 39 ∧
      (progressPercent k 39).tenths = roundHalfEven (1000 * k) 39 := by
  decide

/-! ## The screen after a run -/

/-- Item `i` of the list after a run: record `i` of `InstallProgress::new` in
the symbol and colour of the last message carrying `i`, highlighted when it is
the last record started. -/
theorem items_ui_runMessages (ms : List TuiMessage) (i : Nat) :
    (runMessages ms).ui.items[i]? = catalogItem i (lastCarrying ms i) (i == lastStarted ms) := by
  rw [TuiApp.ui, List.getElem?_mapIdx, getElem?_runMessages, Option.map_map, currentStep_runMessages]
  exact congrArg (stepCatalog[i]?.map ·) (funext fun s => item_setFlags s _ _)

/-- The gauge after a run: `⌊100 k / 39⌋` for the count `k` of completed
records at the last recomputation. -/
theorem gaugePercent_runMessages (ms : List TuiMessage) :
    (runMessages ms).gaugePercent = 100 * (runMessages (upToLastRecompute ms)).progress.completedCount / 39 := by
  rw [TuiApp.gaugePercent, overallProgress_runMessages,
    (progressPercent_shown _ (InstallProgress.completedCount_le _)).1]

/-- The gauge and its label after a run, from the count of completed records at
the last recomputation. -/
theorem gauge_ui_runMessages (ms : List TuiMessage) :
    (runMessages ms).ui.gaugePercent =
      100 * (runMessages (upToLastRecompute ms)).progress.completedCount / 39 ∧
    (runMessages ms).ui.gaugeLabel =
      formatTenths (roundHalfEven (1000 * (runMessages (upToLastRecompute ms)).progress.completedCount) 39)
        ++ "%" := by
  refine ⟨gaugePercent_runMessages ms, ?_⟩
  rw [TuiApp.ui, F64.formatFixed1, overallProgress_runMessages,
    (progressPercent_shown _ (InstallProgress.completedCount_le _)).2]

/-- **What the dashboard shows after any sequence of messages.**  The list has
39 items; item `i` shows record `i` of `InstallProgress::new` in the symbol and
colour of the last message carrying `i`, and exactly the item of the last
in-range `StartStep` (the first before any) has the current step's background.
For the count `k` of completed records at the last recomputation, the gauge
shows `⌊100 k / 39⌋` and its label `100 k / 39` rounded to one decimal; the
status line is the text of the last message other than `Exit`. -/
theorem runMessages_ui (ms : List TuiMessage) :
    (runMessages ms).ui.items.length = 39 ∧
    (∀ i, (runMessages ms).ui.items[i]? = catalogItem i (lastCarrying ms i) (i == lastStarted ms)) ∧
    lastStarted ms < 39 ∧
    (runMessages ms).ui.gaugePercent =
      100 * (runMessages (upToLastRecompute ms)).progress.completedCount / 39 ∧
    (runMessages ms).ui.gaugeLabel =
      formatTenths (roundHalfEven (1000 * (runMessages (upToLastRecompute ms)).progress.completedCount) 39)
        ++ "%" ∧
    (runMessages ms).ui.status = statusLine ms :=
  ⟨by simp [TuiApp.ui, (runMessages ms).progress.steps_length], items_ui_runMessages ms,
    lastStarted_lt ms, (gauge_ui_runMessages ms).1, (gauge_ui_runMessages ms).2,
    statusMessage_runMessages ms⟩

/-! ## Records that stay completed

`handle_message` un-completes a record when a `StartStep` or `FailStep` carries
its index, so whether the gauge can go back depends on what is sent.  For a
sequence in which no record is started or failed again once completed, every
`✓` stays, and the gauge never goes back. -/

/-- The record a `CompleteStep` completes. -/
def TuiMessage.completedIndex? : TuiMessage → Option Nat
  | .completeStep i => some i
  | _ => none

/-- No record is started or failed again once completed: a message after a
`CompleteStep` that carries its index is that `CompleteStep` again. -/
def KeepsCompleted (ms : List TuiMessage) : Prop :=
  ms.Pairwise fun m m' => m.completedIndex?.isSome → m'.index? = m.completedIndex? → m' = m

instance : DecidablePred KeepsCompleted := fun ms => inferInstanceAs (Decidable (ms.Pairwise _))

/-- A record shows completed after a run only when the last message carrying its
index completed it. -/
theorem lastCarrying_eq_completeStep {ms : List TuiMessage} {j : Nat}
    (h : (flagsOf (lastCarrying ms j)).2.1 = true) :
    lastCarrying ms j = some (.completeStep j) ∧ TuiMessage.completeStep j ∈ ms := by
  cases hl : lastCarrying ms j with
  | none => simp [hl, flagsOf] at h
  | some m =>
    obtain ⟨hmem, hidx⟩ := List.mem_filter.mp (List.mem_of_getLast?_eq_some hl)
    rw [hl] at h
    cases m <;> simp_all [flagsOf, TuiMessage.index?]

/-- One more message keeps every completed record completed. -/
theorem completedAt_runMessages_append {ms : List TuiMessage} {m : TuiMessage}
    (hk : KeepsCompleted (ms ++ [m])) {j : Nat} (h : (runMessages ms).progress.completedAt j = true) :
    (runMessages (ms ++ [m])).progress.completedAt j = true := by
  have hj : j < 39 := Nat.lt_of_not_le fun hle => by
    simp [InstallProgress.completedAt_of_le _ hle] at h
  rw [completedAt_runMessages hj] at h ⊢
  obtain ⟨hl, hmem⟩ := lastCarrying_eq_completeStep h
  rw [lastCarrying_append_singleton]
  split
  · obtain rfl := (List.pairwise_append.mp hk).2.2 _ hmem m (List.mem_singleton_self m) rfl ‹_›
    rfl
  · exact h

theorem completedAt_runMessages_of_isPrefix {j : Nat} :
    ∀ {ms ms' : List TuiMessage}, ms <+: ms' → KeepsCompleted ms' →
      (runMessages ms).progress.completedAt j = true → (runMessages ms').progress.completedAt j = true := by
  intro ms ms'
  induction ms' using List.reverseRecOn with
  | nil => intro h _; rw [List.prefix_nil.mp h]; exact id
  | append_singleton l m ih =>
    intro h hk hc
    rcases List.prefix_concat_iff.mp h with rfl | h
    · exact hc
    · exact completedAt_runMessages_append hk (ih h (hk.sublist (List.sublist_append_left l [m])) hc)

theorem completedCount_runMessages_le {ms ms' : List TuiMessage} (h : ms <+: ms')
    (hk : KeepsCompleted ms') :
    (runMessages ms).progress.completedCount ≤ (runMessages ms').progress.completedCount := by
  rw [InstallProgress.completedCount_eq, InstallProgress.completedCount_eq]
  exact List.countP_mono_left fun j _ hj => completedAt_runMessages_of_isPrefix h hk hj

theorem upToLastRecompute_isPrefix (ms : List TuiMessage) : upToLastRecompute ms <+: ms :=
  ⟨_, upToLastRecompute_append_afterLastRecompute ms⟩

theorem upToLastRecompute_isPrefix_of_isPrefix :
    ∀ {ms ms' : List TuiMessage}, ms <+: ms' → upToLastRecompute ms <+: upToLastRecompute ms' := by
  intro ms ms'
  induction ms' using List.reverseRecOn with
  | nil => intro h; exact List.prefix_nil.mp h ▸ List.prefix_refl _
  | append_singleton l m ih =>
    intro h
    rcases List.prefix_concat_iff.mp h with rfl | h
    · exact List.prefix_refl _
    · rw [upToLastRecompute_append_singleton]
      split
      · exact (ih h).trans ((upToLastRecompute_isPrefix l).trans (List.prefix_append l [m]))
      · exact ih h

/-- Along a sequence that keeps completed records completed, the gauge never
goes back. -/
theorem gaugePercent_runMessages_le {ms ms' : List TuiMessage} (h : ms <+: ms')
    (hk : KeepsCompleted ms') : (runMessages ms).gaugePercent ≤ (runMessages ms').gaugePercent := by
  rw [gaugePercent_runMessages, gaugePercent_runMessages]
  exact Nat.div_le_div_right (Nat.mul_le_mul_left 100 (completedCount_runMessages_le
    (upToLastRecompute_isPrefix_of_isPrefix h) (hk.sublist (upToLastRecompute_isPrefix ms').sublist)))

/-! ## The design's record states

The design gives a record four states, `Pending`, `InProgress`, `Completed` and
`Failed`, with `start_step` from any state but `InProgress`, and
`complete_step` and `fail_step` from `InProgress` only.  The code keeps three
flags and moves on every message carrying the record's index.  Read through
its flags, a record is always in exactly one of the four states, and wherever
the messages follow the design, in the state the design reaches.  The code
also moves where the design does not: a `CompleteStep` completes a pending
record. -/

/-- The four states of a progress record, in the design's words. -/
inductive RecordState where
  | pending
  | inProgress
  | completed
  | failed
deriving DecidableEq, Repr

namespace RecordState

/-- The design's transitions. -/
def next : RecordState → TuiMessage → Option RecordState
  | .inProgress, .startStep _ => none
  | _, .startStep _ => some .inProgress
  | .inProgress, .completeStep _ => some .completed
  | .inProgress, .failStep _ => some .failed
  | _, _ => none

/-- The state a record's flags `(in_progress, completed, failed)` stand for:
one flag set, or none. -/
def ofFlags : Bool × Bool × Bool → Option RecordState
  | (false, false, false) => some .pending
  | (true, false, false) => some .inProgress
  | (false, true, false) => some .completed
  | (false, false, true) => some .failed
  | _ => none

/-- The state the last message carrying a record's index leaves it in. -/
def ofMessage : Option TuiMessage → RecordState
  | some (.startStep _) => .inProgress
  | some (.completeStep _) => .completed
  | some (.failStep _) => .failed
  | _ => .pending

theorem ofFlags_flagsOf (o : Option TuiMessage) : ofFlags (flagsOf o) = some (ofMessage o) := by
  rcases o with _ | ⟨_ | _ | _ | _ | _⟩ <;> rfl

/-- A transition of the design ends where the message's kind says. -/
theorem ofMessage_of_next {st st' : RecordState} {m : TuiMessage} (h : st.next m = some st') :
    ofMessage (some m) = st' := by
  cases st <;> cases m <;> cases h <;> rfl

end RecordState

/-- The state the design's machine reaches for record `i` over `ms`, from
`Pending`; `none` once a message carrying `i` is none of its transitions. -/
def designState (ms : List TuiMessage) (i : Nat) : Option RecordState :=
  (ms.filter (·.index? == some i)).foldl (fun st m => st.bind (·.next m)) (some .pending)

theorem designState_append_singleton (ms : List TuiMessage) (m : TuiMessage) (i : Nat) :
    designState (ms ++ [m]) i =
      if m.index? = some i then (designState ms i).bind (·.next m) else designState ms i := by
  by_cases h : m.index? = some i <;> simp [designState, List.filter_append, h]

theorem ofMessage_of_designState {i : Nat} {st : RecordState} :
    ∀ {ms : List TuiMessage}, designState ms i = some st → RecordState.ofMessage (lastCarrying ms i) = st := by
  intro ms
  induction ms using List.reverseRecOn generalizing st with
  | nil => intro h; cases h; rfl
  | append_singleton ms m ih =>
    rw [designState_append_singleton, lastCarrying_append_singleton]
    split
    · intro h
      obtain ⟨_, -, hnext⟩ := Option.bind_eq_some.mp h
      exact RecordState.ofMessage_of_next hnext
    · exact ih

/-- **The records refine the design's state machine.**  After any sequence of
messages, every record is in exactly one of the design's four states, the state
of the last message carrying its index; and whenever the messages carrying its
index are transitions of the design from `Pending`, that is the state the
design reaches. -/
theorem records_follow_design (ms : List TuiMessage) (i : Nat) (hi : i < 39) :
    (runMessages ms).progress.steps[i]?.bind (RecordState.ofFlags ·.flags) =
        some (RecordState.ofMessage (lastCarrying ms i)) ∧
      ∀ st, designState ms i = some st → RecordState.ofMessage (lastCarrying ms i) = st := by
  refine ⟨?_, fun _ => ofMessage_of_designState⟩
  have h := flags_runMessages ms i hi
  cases hs : (runMessages ms).progress.steps[i]? with
  | none => rw [hs] at h; cases h
  | some s =>
    rw [hs, Option.map_some'] at h
    rw [Option.some_bind, Option.some.inj h, RecordState.ofFlags_flagsOf]

theorem records_follow_design_startComplete :
    0 < 39 ∧
    ((runMessages [.startStep 0, .completeStep 0]).progress.steps[0]?.bind (RecordState.ofFlags ·.flags) =
        some (RecordState.ofMessage (lastCarrying [.startStep 0, .completeStep 0] 0)) ∧
      ∀ st, designState [.startStep 0, .completeStep 0] 0 = some st →
        RecordState.ofMessage (lastCarrying [.startStep 0, .completeStep 0] 0) = st) :=
  ⟨by decide, records_follow_design [.startStep 0, .completeStep 0] 0 (by decide)⟩

end OpenVair
