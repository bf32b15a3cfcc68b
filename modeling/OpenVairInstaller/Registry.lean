/-
# `OpenVairInstaller.Registry` — `StepRegistry` and fail-fast sequencing

`StepRegistry` holds `Vec<Box<dyn InstallerStep>>`; `add_step` pushes, and
`execute_all` walks the vector:

    for step in &self.steps {
        info_cyan("[{position}/{len}] {name}: {description}");
        step.run(ctx).await?;
        info_green("✅ {name} completed");
    }

A step's `run` is an `EStateM` computation over the context: it mutates it in
place and may fail, and a failure keeps what was already mutated — `&mut` and
`?` exactly.  `?` on an `anyhow::Result` hands the error on as it is.

`execute_all` is modelled with its log (the two lines around each step) and,
as a ghost, the invocations it made: which step, by its index in the vector,
and the context handed to it.  Nothing reads the ghost; it is what lets the
fail-fast law be stated (`executeFrom_allOk`, `executeFrom_firstError`).

The position in the header comes from `get_current_step_number`, which looks
the running step up by `std::ptr::eq` on `*const dyn InstallerStep` — the data
address and the vtable.  Every step of this repository is a unit struct, and
`Box::new` of a zero-sized value allocates nothing: all boxes share the
dangling address, so the lookup finds the first step of the same type.
`headerPositions_executeFrom` says what the headers then read.

Forgetting the log, the loop is plain sequencing: `seqRuns` chains the steps'
`run`s with `?`, and `toResult_executeFrom` says `execute_all` computes the
same result and context.  Properties of a whole installation are proved on
`seqRuns`, one step at a time (`leftCtx_seqRuns`).
-/
import Mathlib.Data.List.Range

namespace OpenVair

variable {ε σ : Type}

/-- A `*const dyn InstallerStep`: its data address and its vtable. -/
structure DynPtr where
  addr : Nat
  vtable : Nat
deriving DecidableEq, Repr

/-- The address `Box::new` gives a zero-sized value: `NonNull::dangling()`, the
type's alignment, which is 1 for the unit structs of this repository. -/
def danglingAddr : Nat := 1

/-- A step type of this repository: a unit struct implementing `InstallerStep`.
`vtable` identifies the type's `InstallerStep` vtable. -/
structure InstallerStep (ε σ : Type) where
  vtable : Nat
  name : String
  description : String
  run : EStateM ε σ Unit

/-- The box `add_step` pushes for a step: no allocation, the dangling address. -/
def InstallerStep.boxed (s : InstallerStep ε σ) : DynPtr := ⟨danglingAddr, s.vtable⟩

/-- The context an invocation leaves, also when it fails. -/
def leftCtx {α : Type} : EStateM.Result ε σ α → σ
  | .ok _ s => s
  | .error _ s => s

@[simp] theorem leftCtx_ok {α : Type} (a : α) (s : σ) :
    leftCtx (EStateM.Result.ok (ε := ε) a s) = s := rfl

@[simp] theorem leftCtx_error {α : Type} (e : ε) (s : σ) :
    leftCtx (EStateM.Result.error (α := α) e s) = s := rfl

/-- A bind succeeds exactly when its first computation succeeds and the
continuation succeeds from there. -/
theorem bind_apply_eq_ok {α β : Type} {x : EStateM ε σ α} {f : α → EStateM ε σ β} {s s' : σ}
    {b : β} : (x >>= f) s = .ok b s' ↔ ∃ a s₁, x s = .ok a s₁ ∧ f a s₁ = .ok b s' := by
  simp only [bind, EStateM.bind]
  cases x s <;> simp [and_assoc]

/-- `StepRegistry`. -/
structure StepRegistry (ε σ : Type) where
  steps : List (InstallerStep ε σ)

namespace StepRegistry

/-- `StepRegistry::new`. -/
def new : StepRegistry ε σ := ⟨[]⟩

/-- `StepRegistry::add_step`: `self.steps.push(Box::new(step))`. -/
def addStep (r : StepRegistry ε σ) (step : InstallerStep ε σ) : StepRegistry ε σ :=
  ⟨r.steps ++ [step]⟩

/-- `get_current_step_number`: the first position whose box is `ptr::eq` to the
running one, `unwrap_or(0)`, plus one. -/
def getCurrentStepNumber (r : StepRegistry ε σ) (current : DynPtr) : Nat :=
  (r.steps.findIdx? (fun step => step.boxed == current)).getD 0 + 1

/-- The two lines `execute_all` logs around a step. -/
inductive Report where
  | header (position total : Nat) (name description : String)
  | completed (name : String)
deriving DecidableEq, Repr

deriving instance DecidableEq for Except

/-- What `execute_all` leaves: the context, its result, its log, and (ghost) the
invocations it made, each as the step's index and the context handed to it. -/
structure Execution (ε σ : Type) where
  ctx : σ
  result : Except ε Unit
  log : List Report
  calls : List (Nat × σ)

/-- The loop of `execute_all` from the step at index `i` on. -/
def executeFrom (r : StepRegistry ε σ) : Nat → List (InstallerStep ε σ) → σ → Execution ε σ
  | _, [], ctx => ⟨ctx, .ok (), [], []⟩
  | i, step :: rest, ctx =>
      let header := Report.header (r.getCurrentStepNumber step.boxed) r.steps.length
        step.name step.description
      match step.run ctx with
      | .error e ctx' => ⟨ctx', .error e, [header], [(i, ctx)]⟩
      | .ok () ctx' =>
          let ex := r.executeFrom (i + 1) rest ctx'
          ⟨ex.ctx, ex.result, header :: .completed step.name :: ex.log, (i, ctx) :: ex.calls⟩

/-- `StepRegistry::execute_all`. -/
def executeAll (r : StepRegistry ε σ) (ctx : σ) : Execution ε σ := r.executeFrom 0 r.steps ctx

/-- A registry built by `add_step` holds its steps in build order. -/
@[simp] theorem steps_foldl_addStep (l : List (InstallerStep ε σ)) (r : StepRegistry ε σ) :
    (l.foldl addStep r).steps = r.steps ++ l := by
  induction l generalizing r with
  | nil => simp
  | cons s l ih => simp [ih, addStep]

/-! ## Fail-fast sequencing -/

/-- The context after running `l` one step after another from `ctx`. -/
def threadCtx (l : List (InstallerStep ε σ)) (ctx : σ) : σ :=
  l.foldl (fun c s => leftCtx (s.run c)) ctx

/-- The invocations of the first `m` steps of `l` when each is handed what its
predecessor left, numbered from `i`. -/
def threadedCalls (i : Nat) (l : List (InstallerStep ε σ)) (ctx : σ) (m : Nat) : List (Nat × σ) :=
  (List.range m).map fun k => (i + k, threadCtx (l.take k) ctx)

@[simp] theorem threadCtx_nil (ctx : σ) : threadCtx ([] : List (InstallerStep ε σ)) ctx = ctx := rfl

@[simp] theorem threadCtx_cons (s : InstallerStep ε σ) (l : List (InstallerStep ε σ)) (ctx : σ) :
    threadCtx (s :: l) ctx = threadCtx l (leftCtx (s.run ctx)) := rfl

@[simp] theorem threadedCalls_zero (i : Nat) (l : List (InstallerStep ε σ)) (ctx : σ) :
    threadedCalls i l ctx 0 = [] := rfl

theorem threadedCalls_cons (i : Nat) (s : InstallerStep ε σ) (l : List (InstallerStep ε σ))
    (ctx : σ) (m : Nat) :
    threadedCalls i (s :: l) ctx (m + 1) =
      (i, ctx) :: threadedCalls (i + 1) l (leftCtx (s.run ctx)) m := by
  simp [threadedCalls, List.range_succ_eq_map, Nat.add_assoc, Nat.add_comm 1]

/-- One invocation of the loop, when the step succeeds. -/
theorem executeFrom_cons_ok {r : StepRegistry ε σ} {i : Nat} {s : InstallerStep ε σ}
    {rest : List (InstallerStep ε σ)} {ctx ctx' : σ} (h : s.run ctx = .ok () ctx') :
    r.executeFrom i (s :: rest) ctx =
      let ex := r.executeFrom (i + 1) rest ctx'
      ⟨ex.ctx, ex.result,
        .header (r.getCurrentStepNumber s.boxed) r.steps.length s.name s.description ::
          .completed s.name :: ex.log, (i, ctx) :: ex.calls⟩ := by
  simp [executeFrom, h]

/-- One invocation of the loop, when the step fails: the loop stops there. -/
theorem executeFrom_cons_error {r : StepRegistry ε σ} {i : Nat} {s : InstallerStep ε σ}
    {rest : List (InstallerStep ε σ)} {ctx ctx' : σ} {e : ε} (h : s.run ctx = .error e ctx') :
    r.executeFrom i (s :: rest) ctx =
      ⟨ctx', .error e,
        [.header (r.getCurrentStepNumber s.boxed) r.steps.length s.name s.description],
        [(i, ctx)]⟩ := by
  simp [executeFrom, h]

/-- When every invocation succeeds, every step runs once, in order, on what its
predecessor left, and the loop returns `Ok` with the fully threaded context. -/
theorem executeFrom_allOk (r : StepRegistry ε σ) :
    ∀ (l : List (InstallerStep ε σ)) (i : Nat) (ctx : σ),
      (∀ k (hk : k < l.length), ∃ c, l[k].run (threadCtx (l.take k) ctx) = .ok () c) →
      let ex := r.executeFrom i l ctx
      ex.calls = threadedCalls i l ctx l.length ∧ ex.result = .ok () ∧ ex.ctx = threadCtx l ctx
  | [], _, _, _ => by simp [executeFrom]
  | s :: rest, i, ctx, hok => by
      obtain ⟨c, hc⟩ := hok 0 (by simp)
      simp only [List.getElem_cons_zero, List.take_zero, threadCtx_nil] at hc
      have ih := executeFrom_allOk r rest (i + 1) c fun k hk => by
        simpa [hc] using hok (k + 1) (by simpa using hk)
      rw [executeFrom_cons_ok hc]
      simpa [threadedCalls_cons, hc] using ih

/-- When the invocation of step `k` is the first to fail, exactly the steps up to
`k` run, once each and in order, and the loop returns that step's error with the
context it left. -/
theorem executeFrom_firstError (r : StepRegistry ε σ) :
    ∀ (l : List (InstallerStep ε σ)) (i : Nat) (ctx : σ) (k : Nat) (hk : k < l.length)
      (e : ε) (c : σ),
      (∀ j (hj : j < k), ∃ c, l[j].run (threadCtx (l.take j) ctx) = .ok () c) →
      l[k].run (threadCtx (l.take k) ctx) = .error e c →
      let ex := r.executeFrom i l ctx
      ex.calls = threadedCalls i l ctx (k + 1) ∧ ex.result = .error e ∧ ex.ctx = c
  | s :: rest, i, ctx, 0, _, e, c, _, herr => by
      simp only [List.getElem_cons_zero, List.take_zero, threadCtx_nil] at herr
      simp [executeFrom_cons_error herr, threadedCalls_cons]
  | s :: rest, i, ctx, k + 1, hk, e, c, hok, herr => by
      obtain ⟨c₀, hc₀⟩ := hok 0 (by omega)
      simp only [List.getElem_cons_zero, List.take_zero, threadCtx_nil] at hc₀
      have ih := executeFrom_firstError r rest (i + 1) c₀ k (by simpa using hk) e c
        (fun j hj => by simpa [hc₀] using hok (j + 1) (by omega))
        (by simpa [hc₀] using herr)
      rw [executeFrom_cons_ok hc₀]
      simpa [threadedCalls_cons, hc₀] using ih

/-- **Fail-fast, over every registry `add_step` builds.**  While every invocation
succeeds, `execute_all` invokes each step once, in build order, each on the
context its predecessor left, and returns `Ok` with the fully threaded context;
when the invocation of step `k` is the first to fail, it has invoked exactly the
steps up to `k` and returns that step's error, unwrapped, with the context as
the step left it. -/
theorem executeAll_failFast (l : List (InstallerStep ε σ)) (ctx₀ : σ) :
    let ex := (l.foldl addStep new).executeAll ctx₀
    ((∀ k (hk : k < l.length), ∃ c, l[k].run (threadCtx (l.take k) ctx₀) = .ok () c) →
        ex.calls = threadedCalls 0 l ctx₀ l.length ∧ ex.result = .ok () ∧
          ex.ctx = threadCtx l ctx₀) ∧
    (∀ k (hk : k < l.length) e c,
        (∀ j (hj : j < k), ∃ c, l[j].run (threadCtx (l.take j) ctx₀) = .ok () c) →
        l[k].run (threadCtx (l.take k) ctx₀) = .error e c →
        ex.calls = threadedCalls 0 l ctx₀ (k + 1) ∧ ex.result = .error e ∧ ex.ctx = c) := by
  have hsteps : (l.foldl addStep new).steps = l := by simp [new]
  simp only [executeAll, hsteps]
  exact ⟨executeFrom_allOk _ l 0 ctx₀, executeFrom_firstError _ l 0 ctx₀⟩

/-- A step of vtable `v` that adds one to the context. -/
def countStep (v : Nat) : InstallerStep String Nat := ⟨v, "Count", "adds one", fun c => .ok () (c + 1)⟩

/-- A step that always fails with the context it is given, incremented. -/
def failingStep : InstallerStep String Nat :=
  ⟨1, "Failing", "always fails", fun c => .error "boom" (c + 1)⟩

/-- Three steps, the second failing: the third is never invoked.  Three steps
that all succeed: each is invoked once, on what its predecessor left. -/
theorem executeAll_failFast_threeSteps :
    let ex := ([countStep 0, failingStep, countStep 2].foldl addStep new).executeAll 41
    let ex' := ([countStep 0, countStep 1, countStep 2].foldl addStep new).executeAll 41
    (ex.calls = [(0, 41), (1, 42)] ∧ ex.result = .error "boom" ∧ ex.ctx = 43) ∧
      (ex'.calls = [(0, 41), (1, 42), (2, 43)] ∧ ex'.result = .ok () ∧ ex'.ctx = 44) :=
  have h := (executeAll_failFast [countStep 0, failingStep, countStep 2] 41).2 1 (by decide) "boom" 43
    (fun j hj => ⟨42, by obtain rfl : j = 0 := by omega
                         rfl⟩) rfl
  have h' := (executeAll_failFast [countStep 0, countStep 1, countStep 2] 41).1
    (fun k hk => ⟨41 + k + 1, by
      obtain rfl | rfl | rfl : k = 0 ∨ k = 1 ∨ k = 2 := by simp at hk; omega
      all_goals rfl⟩)
  ⟨⟨h.1.trans rfl, h.2⟩, ⟨h'.1.trans rfl, h'.2⟩⟩

/-! ## The position in the header -/

/-- The positions the headers of a log read. -/
def headerPositions : List Report → List Nat
  | [] => []
  | .header p _ _ _ :: log => p :: headerPositions log
  | .completed _ :: log => headerPositions log

/-- The headers of the loop read, for each step it invoked, the step number
`get_current_step_number` finds for that step's box. -/
theorem headerPositions_executeFrom (r : StepRegistry ε σ) :
    ∀ (l : List (InstallerStep ε σ)) (i : Nat) (ctx : σ),
      headerPositions (r.executeFrom i l ctx).log =
        (l.take (r.executeFrom i l ctx).calls.length).map (fun s => r.getCurrentStepNumber s.boxed)
  | [], _, _ => rfl
  | s :: rest, i, ctx => by
      cases h : s.run ctx with
      | ok _ c =>
          rw [executeFrom_cons_ok h]
          simp [headerPositions, headerPositions_executeFrom r rest]
      | error e c =>
          rw [executeFrom_cons_error h]
          simp [headerPositions]

/-- The loop invokes at most the steps it is given. -/
theorem length_calls_executeFrom_le (r : StepRegistry ε σ) :
    ∀ (l : List (InstallerStep ε σ)) (i : Nat) (ctx : σ),
      (r.executeFrom i l ctx).calls.length ≤ l.length
  | [], _, _ => le_refl _
  | s :: rest, i, ctx => by
      cases h : s.run ctx with
      | ok _ c =>
          rw [executeFrom_cons_ok h]
          simpa using length_calls_executeFrom_le r rest (i + 1) c
      | error e c =>
          rw [executeFrom_cons_error h]
          simp

/-- The step number found for the step at index `k` is `k + 1` exactly when no
earlier step is of the same type: all boxes share the dangling address, so
`ptr::eq` compares vtables. -/
theorem getCurrentStepNumber_boxed {r : StepRegistry ε σ} {k : Nat} (hk : k < r.steps.length) :
    r.getCurrentStepNumber r.steps[k].boxed = k + 1 ↔
      ∀ j (hj : j < k), r.steps[j].vtable ≠ r.steps[k].vtable := by
  have hbeq : ∀ s t : InstallerStep ε σ, (s.boxed == t.boxed) = decide (s.vtable = t.vtable) := by
    intro s t
    rw [Bool.eq_iff_iff, beq_iff_eq, decide_eq_true_iff]
    simp [InstallerStep.boxed]
  have hfind : ∀ m, r.steps.findIdx? (fun s => s.boxed == r.steps[k].boxed) = some m ↔
      ∃ hm : m < r.steps.length, r.steps[m].vtable = r.steps[k].vtable ∧
        ∀ j (hj : j < m), r.steps[j].vtable ≠ r.steps[k].vtable := by
    intro m; simp [List.findIdx?_eq_some_iff_getElem, hbeq]
  unfold getCurrentStepNumber
  constructor
  · intro h
    have hsome : (r.steps.findIdx? (fun s => s.boxed == r.steps[k].boxed)).isSome := by
      rw [List.findIdx?_isSome]
      exact List.any_eq_true.mpr ⟨_, List.getElem_mem hk, by simp [hbeq]⟩
    obtain ⟨m, hm⟩ := Option.isSome_iff_exists.mp hsome
    obtain ⟨_, _, hmin⟩ := (hfind m).mp hm
    rw [hm, Option.getD_some] at h
    exact fun j hj => hmin j (by omega)
  · intro h
    rw [(hfind k).mpr ⟨hk, rfl, h⟩, Option.getD_some]

/-- **Headers of a registry of distinct step types.**  When no step type occurs
twice in the registry, every header `execute_all` logs reads the position of
the step it announces: `[1/n]`, `[2/n]`, ... up to the last step invoked. -/
theorem headerPositions_of_nodup {l : List (InstallerStep ε σ)} (hv : (l.map (·.vtable)).Nodup)
    (ctx : σ) :
    let ex := (l.foldl addStep new).executeAll ctx
    headerPositions ex.log = (List.range ex.calls.length).map (· + 1) := by
  have hsteps : (l.foldl addStep new).steps = l := by simp [new]
  simp only [executeAll, headerPositions_executeFrom, hsteps]
  have hm := length_calls_executeFrom_le (l.foldl addStep new) l 0 ctx
  refine List.ext_getElem (by simp; omega) fun k h₁ h₂ => ?_
  simp only [List.getElem_map, List.getElem_take, List.getElem_range]
  have hk : k < (l.foldl addStep new).steps.length := by simp [hsteps] at h₁ ⊢; omega
  have hv' : ((l.foldl addStep new).steps.map (·.vtable)).Nodup := by rw [hsteps]; exact hv
  have := (getCurrentStepNumber_boxed hk).mpr fun j hj hjk =>
    List.pairwise_iff_getElem.mp hv' j k (by simp only [List.length_map]; omega)
      (by simpa using hk) hj (by simp only [List.getElem_map]; exact hjk)
  simpa [hsteps] using this

/-! ## The loop without its log -/

/-- The steps' `run`s one after another, each on what its predecessor left,
stopping at the first error: `for step in steps { step.run(ctx).await?; }`. -/
def seqRuns : List (InstallerStep ε σ) → EStateM ε σ Unit
  | [] => pure ()
  | s :: rest => do s.run; seqRuns rest

/-- An execution's result and context as one `EStateM` result. -/
def Execution.toResult (ex : Execution ε σ) : EStateM.Result ε σ Unit :=
  match ex.result with
  | .ok () => .ok () ex.ctx
  | .error e => .error e ex.ctx

/-- **`execute_all` refines sequencing.**  Its log and the header lookups aside,
the loop is the steps' `run`s chained by `?`: the same result and the same
context. -/
theorem toResult_executeFrom (r : StepRegistry ε σ) :
    ∀ (l : List (InstallerStep ε σ)) (i : Nat) (ctx : σ),
      (r.executeFrom i l ctx).toResult = seqRuns l ctx
  | [], _, _ => rfl
  | s :: rest, i, ctx => by
      cases h : s.run ctx with
      | ok _ c =>
          rw [executeFrom_cons_ok h]
          simpa [seqRuns, bind, EStateM.bind, h] using toResult_executeFrom r rest (i + 1) c
      | error e c =>
          rw [executeFrom_cons_error h]
          simp [seqRuns, bind, EStateM.bind, h, Execution.toResult]

/-- A registry built by `add_step` runs its steps in build order. -/
theorem toResult_executeAll_foldl (l : List (InstallerStep ε σ)) (ctx : σ) :
    ((l.foldl addStep new).executeAll ctx).toResult = seqRuns l ctx := by
  rw [executeAll, toResult_executeFrom, steps_foldl_addStep]
  rfl

theorem result_eq_ok_iff (ex : Execution ε σ) :
    ex.result = .ok () ↔ ex.toResult = .ok () ex.ctx := by
  unfold Execution.toResult
  split <;> simp_all

theorem seqRuns_append (l₁ l₂ : List (InstallerStep ε σ)) :
    seqRuns (l₁ ++ l₂) = (do seqRuns l₁; seqRuns l₂) := by
  induction l₁ with
  | nil => simp [seqRuns]
  | cons s l₁ ih => simp [seqRuns, ih]

/-! ## Two registries that share their first steps -/

/-- Which steps the loop invokes, and on what, does not depend on the registry
it reads positions from: only the log does. -/
theorem calls_executeFrom_registry (r r' : StepRegistry ε σ) :
    ∀ (l : List (InstallerStep ε σ)) (i : Nat) (ctx : σ),
      (r.executeFrom i l ctx).calls = (r'.executeFrom i l ctx).calls
  | [], _, _ => rfl
  | s :: rest, i, ctx => by
      cases h : s.run ctx with
      | ok _ c =>
          rw [executeFrom_cons_ok h, executeFrom_cons_ok h]
          exact congrArg ((i, ctx) :: ·) (calls_executeFrom_registry r r' rest (i + 1) c)
      | error e c => rw [executeFrom_cons_error h, executeFrom_cons_error h]

/-- The loop over `l₁ ++ l₂` invokes the steps of `l₁` as the loop over `l₁`
does, then, when they all succeed, those of `l₂` from where they left off. -/
theorem calls_executeFrom_append (r : StepRegistry ε σ) (l₂ : List (InstallerStep ε σ)) :
    ∀ (l₁ : List (InstallerStep ε σ)) (i : Nat) (ctx : σ),
      (r.executeFrom i (l₁ ++ l₂) ctx).calls =
        (r.executeFrom i l₁ ctx).calls ++
          match seqRuns l₁ ctx with
          | .ok () c => (r.executeFrom (i + l₁.length) l₂ c).calls
          | .error _ _ => []
  | [], _, _ => rfl
  | s :: rest, i, ctx => by
      cases h : s.run ctx with
      | ok _ c =>
          rw [List.cons_append, executeFrom_cons_ok h, executeFrom_cons_ok h]
          dsimp only
          rw [calls_executeFrom_append r l₂ rest (i + 1) c]
          simp [seqRuns, bind, EStateM.bind, h, Nat.add_assoc, Nat.add_comm 1]
      | error e c =>
          rw [List.cons_append, executeFrom_cons_error h, executeFrom_cons_error h]
          simp [seqRuns, bind, EStateM.bind, h]

end StepRegistry

end OpenVair
