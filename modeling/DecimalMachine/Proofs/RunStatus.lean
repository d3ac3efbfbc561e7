import Mathlib
import DecimalMachine.Proofs.MemorySafety
import DecimalMachine.Proofs.Stepping

/-!
# The run status is a state machine over steps

A machine waits (`ready`), runs, or has halted; when a step fails it records the fault and
halts. This module follows the status, the recorded fault and the fetch count through every
history of a client: resets, loads, changes of device, steps and runs.

A run is no new kind of move: it sets the machine running and steps it until it halts or the
budget is spent. So histories are written at the level of single steps (`Move`), and a run of
budget `b` is a start followed by `b` steps (`Request.moves`); the steps after a halt change
nothing. That needs the failures of steps to halt the machine, which holds as long as no fatal
access occurs (`Machine.Guarded`).

* **the frame** — an instruction keeps the recorded fault and the fetch count, and keeps the
  status or halts (`Machine.KeepsStatus`), one lemma per operation.
* **a step** — fails exactly when it records a fault, at the address it fetched from and
  naming the word there, and halts; counts a fetch exactly when it fetches; never moves the
  status back.
* **histories** — a recorded fault names the step that made it (`Machine.FaultMadeBy`), and
  the fetch count is the number of fetching steps since the last reset (`fetchesSinceReset`).
* **`run_status_state_machine`** — all of it for every history of a fresh machine.
-/

namespace DecimalMachine

/-- One move of a client's history, at the level of single steps: a reset, a load, a change of
device, the start of a run, or a step. -/
inductive Move where
  | reset
  | load (program : Array Int)
  | attach (device : Device)
  | start
  | step

/-- Whether a request is one a client makes between steps: anything but executing a word or an
operation from outside. -/
def Request.Drives : Request → Prop
  | .reset => True
  | .load _ => True
  | .attach _ => True
  | .step => True
  | .run _ => True
  | .execute _ => False
  | .executeOp _ _ => False

instance : DecidablePred Request.Drives
  | .reset => isTrue trivial
  | .load _ => isTrue trivial
  | .attach _ => isTrue trivial
  | .step => isTrue trivial
  | .run _ => isTrue trivial
  | .execute _ => isFalse id
  | .executeOp _ _ => isFalse id

/-- The moves a request makes: a run is a start followed by as many steps as its budget. -/
def Request.moves : Request → List Move
  | .reset => [.reset]
  | .load program => [.load program]
  | .attach device => [.attach device]
  | .step => [.step]
  | .run budget => .start :: List.replicate budget.toNat .step
  | .execute _ => []
  | .executeOp _ _ => []

namespace Machine

/-- The machine after a move. A start sets a machine that has not halted running. -/
def move (m : Machine) : Move → Machine
  | .reset => m.reset
  | .load program => m.serve (.load program)
  | .attach device => { m with device }
  | .start => if m.status = .halted then m else { m with status := .running }
  | .step => m.step.1

/-- The machine after a sequence of moves. -/
def after (m : Machine) (ms : List Move) : Machine :=
  ms.foldl move m

/-- Whether a step of the machine fetches a word: it has not halted and its program counter
lies inside memory. -/
def fetches (m : Machine) : Bool :=
  m.status != .halted && (m.read? m.pc).isSome

/-- The fault a step of `m` records when it fails with cause `c`: at the program counter the
step starts from, naming the word there, or zero outside memory. -/
def faultAt (m : Machine) (c : Error) : Error :=
  .fault m.pc (m.read m.pc) c

/-- The fault `e` was recorded by a step of the moves `ms` from `m` with no reset after it: the
step that failed with `e` started from the machine the moves before it lead to, and `e` is the
fault at its program counter. -/
def FaultMadeBy (m : Machine) (ms : List Move) (e : Error) : Prop :=
  ∃ h₁ h₂ c, ms = h₁ ++ .step :: h₂ ∧ Move.reset ∉ h₂ ∧
    (m.after h₁).step.2 = some e ∧ e = (m.after h₁).faultAt c

end Machine

/-- The number of steps since the last reset that fetched a word, along the moves from `m`,
counting on from `k`. -/
def fetchesSinceReset : Machine → List Move → Nat → Nat
  | _, [], k => k
  | m, .reset :: ms, _ => fetchesSinceReset m.reset ms 0
  | m, .load program :: ms, k => fetchesSinceReset (m.move (.load program)) ms k
  | m, .attach device :: ms, k => fetchesSinceReset (m.move (.attach device)) ms k
  | m, .start :: ms, k => fetchesSinceReset (m.move .start) ms k
  | m, .step :: ms, k => fetchesSinceReset m.step.1 ms (if m.fetches then k + 1 else k)

namespace Machine

variable {m m' : Machine}

/-! ## The frame of an instruction -/

/-- What an instruction leaves of the run status: the recorded fault and the fetch count stay,
and the status stays or becomes halted. -/
structure KeepsStatus (m m' : Machine) : Prop where
  err : m'.err = m.err
  ticks : m'.ticks = m.ticks
  status : m'.status = m.status ∨ m'.status = .halted

theorem keepsStatus_of_eq (he : m'.err = m.err) (ht : m'.ticks = m.ticks)
    (hs : m'.status = m.status) : KeepsStatus m m' :=
  ⟨he, ht, .inl hs⟩

theorem KeepsStatus.trans {m'' : Machine} (h : KeepsStatus m m') (h' : KeepsStatus m' m'') :
    KeepsStatus m m'' := by
  refine ⟨h'.err.trans h.err, h'.ticks.trans h.ticks, ?_⟩
  rcases h'.status with hs | hs
  · exact hs ▸ h.status
  · exact .inr hs

theorem KeepsStatus.of_setAcc {a : Int} (h : KeepsStatus ({ m with acc := a } : Machine) m') :
    KeepsStatus m m' :=
  ⟨h.err, h.ticks, h.status⟩

theorem KeepsStatus.andThen {o : Outcome} {f : Machine → Outcome} (ho : KeepsStatus m o.1)
    (hf : ∀ m', KeepsStatus m' (f m').1) : KeepsStatus m (o.andThen f).1 := by
  obtain ⟨m', _ | e⟩ := o
  · exact ho.trans (hf m')
  · exact ho

theorem keepsStatus_write (m : Machine) (a v : Int) : KeepsStatus m (m.write a v).1 := by
  unfold Machine.write
  split <;> exact keepsStatus_of_eq rfl rfl rfl

theorem keepsStatus_push (m : Machine) : KeepsStatus m m.push.1 := by
  unfold Machine.push
  split
  · exact keepsStatus_of_eq rfl rfl rfl
  · exact (keepsStatus_write _ _ _).andThen fun _ => keepsStatus_of_eq rfl rfl rfl

theorem keepsStatus_pop (m : Machine) : KeepsStatus m m.pop.1 := by
  unfold Machine.pop
  split <;> exact keepsStatus_of_eq rfl rfl rfl

theorem keepsStatus_pushReturn (m : Machine) (ip : Int) : KeepsStatus m (m.pushReturn ip).1 := by
  unfold Machine.pushReturn
  split
  · exact keepsStatus_of_eq rfl rfl rfl
  · exact (keepsStatus_write _ _ _).andThen fun _ => keepsStatus_of_eq rfl rfl rfl

theorem keepsStatus_popReturn (m : Machine) : KeepsStatus m m.popReturn.1 := by
  unfold Machine.popReturn
  split <;> exact keepsStatus_of_eq rfl rfl rfl

theorem KeepsStatus.scratch {f : Machine → Outcome} (hf : KeepsStatus m (f m).1) :
    KeepsStatus m (m.scratch f).1 :=
  hf.trans (keepsStatus_of_eq rfl rfl rfl)

theorem keepsStatus_combine (m : Machine) (f : Int → Int → Except Error Int) :
    KeepsStatus m (m.combine f).1 := by
  refine KeepsStatus.scratch ((keepsStatus_pop m).andThen fun m1 => ?_)
  refine (keepsStatus_pop m1).andThen fun m2 => ?_
  dsimp only
  split
  · exact keepsStatus_of_eq rfl rfl rfl
  · exact KeepsStatus.of_setAcc (keepsStatus_push _)

theorem keepsStatus_call (m : Machine) : KeepsStatus m m.call.1 := by
  refine KeepsStatus.scratch ((keepsStatus_pop m).andThen fun m1 => ?_)
  have h2 := keepsStatus_pushReturn m1 m1.pc
  dsimp only
  -- whether the return address goes on the stack or not, only `sp` or `pc` changes after it
  split
  · rename_i m2 e hres
    rw [hres] at h2
    exact h2.trans (keepsStatus_of_eq rfl rfl rfl)
  · rename_i m2 hres
    rw [hres] at h2
    exact h2.trans (keepsStatus_of_eq rfl rfl rfl)

theorem keepsStatus_readInput (m : Machine) : KeepsStatus m m.readInput.1 := by
  unfold Machine.readInput
  split
  · exact keepsStatus_of_eq rfl rfl rfl
  · split <;> exact keepsStatus_of_eq rfl rfl rfl

/-- Only `HLT` changes the status, to halted; no instruction touches the recorded fault or the
fetch count. -/
theorem keepsStatus_executeOp (m : Machine) (op : Op) (arg : Int) :
    KeepsStatus m (m.executeOp op arg).1 := by
  cases op with
  | halt => exact ⟨Eq.refl _, Eq.refl _, .inr (Eq.refl _)⟩
  | add | sub | loadImmediate | load | branch | output => exact keepsStatus_of_eq rfl rfl rfl
  | branchZero | branchPositive =>
    dsimp only [Machine.executeOp]
    split <;> exact keepsStatus_of_eq rfl rfl rfl
  | store => exact keepsStatus_write _ _ _
  | input => exact keepsStatus_readInput m
  | call => exact keepsStatus_call m
  | ret => exact keepsStatus_popReturn m
  | push => exact keepsStatus_push m
  | pop => exact keepsStatus_pop m
  | dup =>
    exact KeepsStatus.scratch ((keepsStatus_pop m).andThen fun _ =>
      (keepsStatus_push _).andThen fun _ => keepsStatus_push _)
  | drop => exact KeepsStatus.scratch (keepsStatus_pop m)
  | swap =>
    exact KeepsStatus.scratch ((keepsStatus_pop m).andThen fun _ => (keepsStatus_pop _).andThen
      fun _ => (KeepsStatus.of_setAcc (keepsStatus_push _)).andThen fun _ =>
        KeepsStatus.of_setAcc (keepsStatus_push _))
  | stackAdd | stackSub | stackMul | stackDiv | stackMax | stackMin => exact keepsStatus_combine m _

theorem keepsStatus_note (m : Machine) (line : String) : KeepsStatus m (m.note line) := by
  obtain ⟨j, hj⟩ := exists_note_eq m line
  rw [hj]
  exact keepsStatus_of_eq rfl rfl rfl

theorem keepsStatus_execute (m : Machine) (w : Int) : KeepsStatus m (m.execute w).1 := by
  unfold Machine.execute
  split
  · exact keepsStatus_of_eq rfl rfl rfl
  · exact (keepsStatus_note m _).trans (keepsStatus_executeOp _ _ _)

theorem keepsStatus_of_execute_eq {w : Int} {x : Option Error} (hx : m.execute w = (m', x)) :
    KeepsStatus m m' := by
  have hk := keepsStatus_execute m w
  rw [hx] at hk
  exact hk

/-! ## A step -/

theorem Status.index_le_one {s : Status} (h : s ≠ .halted) : s.index ≤ 1 := by
  cases s with
  | ready | running => simp [Status.index]
  | halted => exact absurd rfl h

theorem fault_ticks (ip w : Int) (e : Error) : (m.fault ip w e).1.ticks = m.ticks := by
  obtain ⟨x, st, j, hf⟩ := exists_fault_eq m ip w e
  rw [hf]

theorem fault_fails (ip w : Int) (e : Error) : (m.fault ip w e).2 ≠ none := by
  cases he : e.isFatal
  · obtain ⟨j, hj⟩ := fault_of_not_fatal m ip w he
    simp [hj]
  · simp [fault_of_fatal he]

theorem index_le_fault (ip w : Int) (e : Error) : m.status.index ≤ (m.fault ip w e).1.status.index := by
  cases he : e.isFatal
  · obtain ⟨j, hj⟩ := fault_of_not_fatal m ip w he
    rw [hj]
    cases m.status <;> simp [Status.index]
  · rw [fault_of_fatal he]

/-- A fetched word that runs counts the fetch and keeps the recorded fault. -/
theorem keepsStatus_fetched {w : Int} {x : Option Error} (hx : (m.fetched w).execute w = (m', x)) :
    m'.ticks = m.ticks + 1 ∧ m'.err = m.err :=
  ⟨(keepsStatus_of_execute_eq hx).ticks, (keepsStatus_of_execute_eq hx).err⟩

/-- The machine a fetched word leaves is running, or halted by `HLT`. -/
theorem one_le_index_fetched {w : Int} {x : Option Error} (hx : (m.fetched w).execute w = (m', x)) :
    1 ≤ m'.status.index := by
  rcases (keepsStatus_of_execute_eq hx).status with h | h
  · rw [h]
    exact Nat.le_refl 1
  · rw [h]
    decide

/-- No step moves the status back. -/
theorem index_le_step (m : Machine) : m.status.index ≤ m.step.1.status.index := by
  rcases step_cases m with ⟨-, h⟩ | ⟨hs, -, h⟩ | ⟨w, m', hs, -, hx, h⟩ | ⟨w, m', c, hs, -, hx, h⟩
  · rw [h]
  · rw [h]
    exact (Status.index_le_one hs).trans (index_le_fault (m := { m with status := .running }) _ _ _)
  · -- the word leaves the machine running, or halted by `HLT`
    have hrun := one_le_index_fetched hx
    rw [h]
    exact (Status.index_le_one hs).trans hrun
  · -- and a fault after it can only halt it
    have hrun := one_le_index_fetched hx
    rw [h]
    exact ((Status.index_le_one hs).trans hrun).trans
      (index_le_fault (m := { m' with acc := clamp m'.acc }) _ _ _)

/-- A step counts a fetch exactly when it fetches a word. -/
theorem step_ticks (m : Machine) : m.step.1.ticks = m.ticks + if m.fetches then 1 else 0 := by
  rcases step_cases m with ⟨hs, h⟩ | ⟨hs, hw, h⟩ | ⟨w, m', hs, hw, hx, h⟩ | ⟨w, m', c, hs, hw, hx, h⟩
  · simp [h, fetches, hs]
  · rw [h, fault_ticks]
    simp [fetches, hw]
  · have hf : m.fetches = true := by simp [fetches, hs, hw]
    rw [h, hf, if_pos rfl]
    exact (keepsStatus_fetched hx).1
  · have hf : m.fetches = true := by simp [fetches, hs, hw]
    rw [h, fault_ticks, hf, if_pos rfl]
    exact (keepsStatus_fetched hx).1

/-- A step that completes leaves the recorded fault alone: every failure goes through `fault`. -/
theorem step_err_of_none (h : m.step.2 = none) : m.step.1.err = m.err := by
  rcases step_cases m with ⟨-, hst⟩ | ⟨-, -, hst⟩ | ⟨w, m', -, -, hx, hst⟩ | ⟨w, m', c, -, -, -, hst⟩
  · rw [hst]
  · rw [hst] at h
    exact absurd h (fault_fails _ _ _)
  · rw [hst]
    exact (keepsStatus_fetched hx).2
  · rw [hst] at h
    exact absurd h (fault_fails _ _ _)

/-- A step that fails records the failure as the fault at the address it fetched from, naming
the word there, and halts. A guarded machine makes no fatal access, the one failure that would
pass through unrecorded. -/
theorem Guarded.step_fails (hg : m.Guarded) {e : Error} (h : m.step.2 = some e) :
    m.step.1.err = some e ∧ m.step.1.status = .halted ∧ ∃ c, e = m.faultAt c := by
  have hsafe := hg.step
  rcases step_cases m with ⟨-, hst⟩ | ⟨-, hw, hst⟩ | ⟨w, m', -, -, -, hst⟩ | ⟨w, m', c, -, hw, -, hst⟩
  · rw [hst] at h
    cases h
  · obtain ⟨j, hj⟩ := fault_of_not_fatal ({ m with status := .running } : Machine) m.pc 0
      (e := .badAddress) rfl
    rw [hst, hj] at h ⊢
    cases h
    exact ⟨rfl, rfl, .badAddress, by rw [faultAt, read_of_read?_none hw]⟩
  · rw [hst] at h
    cases h
  · rw [hst] at h hsafe ⊢
    cases hc : c.isFatal
    · obtain ⟨j, hj⟩ := fault_of_not_fatal ({ m' with acc := clamp m'.acc } : Machine) m.pc w hc
      rw [hj] at h ⊢
      cases h
      exact ⟨rfl, rfl, c, by rw [faultAt, read_of_read?_some hw]⟩
    · -- a fatal access would come back from the step as it is
      rw [fault_of_fatal hc] at hsafe
      exact absurd (hsafe.not_fatal c rfl) (by simp [hc])

/-! ## Moves

A run is a start and as many steps as its budget: the steps after the one that halts change
nothing, and on a guarded machine every failing step halts. -/

@[simp] theorem after_nil (m : Machine) : m.after [] = m := rfl

@[simp] theorem after_cons (m : Machine) (mv : Move) (ms : List Move) :
    m.after (mv :: ms) = (m.move mv).after ms := rfl

theorem after_append (m : Machine) (h₁ h₂ : List Move) :
    m.after (h₁ ++ h₂) = (m.after h₁).after h₂ :=
  List.foldl_append

theorem after_concat (m : Machine) (ms : List Move) (mv : Move) :
    m.after (ms ++ [mv]) = (m.after ms).move mv := by
  rw [after_append]
  rfl

/-- A load changes memory, keeping its size, and nothing else. -/
theorem exists_serve_load_eq (m : Machine) (program : Array Int) :
    ∃ mem : Array Int, mem.size = m.size ∧ m.serve (.load program) = { m with memory := mem } := by
  simp only [Machine.serve]
  split
  · rename_i m' hload
    obtain ⟨rfl, hsize⟩ := load_eq_ok hload
    exact ⟨_, hsize, rfl⟩
  · -- a refused load leaves the machine as it was
    exact ⟨m.memory, rfl, rfl⟩

/-- A start sets the status and nothing else. -/
theorem exists_move_start_eq (m : Machine) : ∃ st, m.move .start = { m with status := st } := by
  dsimp only [Machine.move]
  split
  · exact ⟨m.status, rfl⟩
  · exact ⟨.running, rfl⟩

/-- Loads, changes of device and starts keep the recorded fault and the fetch count. -/
theorem move_keeps {mv : Move} (hmv : mv ≠ .reset) (hst : mv ≠ .step) :
    (m.move mv).err = m.err ∧ (m.move mv).ticks = m.ticks := by
  cases mv with
  | reset => exact absurd rfl hmv
  | load program =>
    obtain ⟨mem, -, hl⟩ := exists_serve_load_eq m program
    show (m.serve (.load program)).err = m.err ∧ (m.serve (.load program)).ticks = m.ticks
    rw [hl]
    exact ⟨rfl, rfl⟩
  | attach device => exact ⟨rfl, rfl⟩
  | start =>
    obtain ⟨st, hs⟩ := exists_move_start_eq m
    rw [hs]
    exact ⟨rfl, rfl⟩
  | step => exact absurd rfl hst

theorem Guarded.reset (hg : m.Guarded) : m.reset.Guarded := by
  obtain ⟨j, hj⟩ := exists_note_eq m "cpu: reset"
  have hb := hg.bounds
  -- memory keeps its size, the return pointer goes to its base, and the record is cleared
  refine ⟨?_, ?_, ?_⟩ <;>
    simp only [Machine.reset, hj, size, returnBase, returnOffset, minMemory, Array.size_replicate]
      at hb ⊢
  · omega
  · omega
  · simp

theorem Guarded.load (hg : m.Guarded) (program : Array Int) : (m.serve (.load program)).Guarded := by
  obtain ⟨mem, hsize, hl⟩ := exists_serve_load_eq m program
  rw [hl]
  exact hg.congr hsize rfl rfl

theorem Guarded.move (hg : m.Guarded) : ∀ mv, (m.move mv).Guarded
  | .reset => hg.reset
  | .load program => hg.load program
  | .attach _ => hg.congr rfl rfl rfl
  | .start => by
    dsimp only [Machine.move]
    split
    · exact hg
    · exact hg.congr rfl rfl rfl
  | .step => hg.step.guarded

theorem Guarded.after (hg : m.Guarded) (ms : List Move) : (m.after ms).Guarded := by
  induction ms generalizing m with
  | nil => exact hg
  | cons mv ms ih => exact ih (hg.move mv)

theorem after_steps_of_halted (hs : m.status = .halted) (k : Nat) :
    m.after (List.replicate k .step) = m := by
  induction k with
  | zero => rfl
  | succ k ih =>
    rw [List.replicate_succ, after_cons]
    simp only [Machine.move, step_of_halted hs]
    exact ih

/-- The steps of a run are single steps, those after a halt changing nothing. -/
theorem Guarded.runSteps_eq_after (hg : m.Guarded) (fuel taken : Nat) :
    (Machine.runSteps fuel taken m).1.1 = m.after (List.replicate fuel .step) := by
  induction fuel generalizing taken m with
  | zero =>
    unfold Machine.runSteps
    split <;> rfl
  | succ fuel ih =>
    rw [List.replicate_succ, after_cons]
    unfold Machine.runSteps
    split
    · rename_i hs
      have hs' : m.status = .halted := by simpa using hs
      simp only [Machine.move, step_of_halted hs', after_steps_of_halted hs']
    · dsimp only
      rcases hstep : m.step with ⟨m', _ | e⟩
      · have hg' : m'.Guarded := by
          have := hg.step.guarded
          rwa [hstep] at this
        simp only [Machine.move, hstep]
        exact ih hg' _
      · -- the failure halted the machine
        have hhalt := (hg.step_fails (e := e) (by rw [hstep])).2.1
        rw [hstep] at hhalt
        simp only [Machine.move, hstep]
        exact (after_steps_of_halted hhalt fuel).symm

theorem run_fst_of_not_halted (hs : m.status ≠ .halted) (b : Int) :
    (m.run b).1.1 = (Machine.runSteps b.toNat 0 { m with status := .running }).1.1 := by
  unfold Machine.run
  simp only [beq_iff_eq, hs, if_false]
  split <;> rfl

/-- A request is its moves. -/
theorem Guarded.serve_eq_after (hg : m.Guarded) {r : Request} (hr : r.Drives) :
    m.serve r = m.after r.moves := by
  cases r with
  | reset | load | attach | step => rfl
  | run b =>
    simp only [Request.moves, after_cons, Machine.serve]
    by_cases hs : m.status = .halted
    · -- a run of a halted machine does nothing, and neither do its start and steps
      have hstart : m.move .start = m := by simp [Machine.move, hs]
      rw [hstart, after_steps_of_halted hs]
      simp [Machine.run, hs]
    · have hstart : m.move .start = { m with status := .running } := by simp [Machine.move, hs]
      have hg' : ({ m with status := .running } : Machine).Guarded := hg.congr rfl rfl rfl
      rw [run_fst_of_not_halted hs, hg'.runSteps_eq_after, hstart]
  | execute | executeOp => exact hr.elim

theorem Guarded.serve (hg : m.Guarded) {r : Request} (hr : r.Drives) : (m.serve r).Guarded := by
  rw [hg.serve_eq_after hr]
  exact hg.after _

/-- A history of requests is the history of their moves. -/
theorem Guarded.foldl_serve_eq_after (hg : m.Guarded) {rs : List Request}
    (hrs : ∀ r ∈ rs, r.Drives) : rs.foldl Machine.serve m = m.after (rs.flatMap Request.moves) := by
  induction rs generalizing m with
  | nil => rfl
  | cons r rs ih =>
    have hr := hrs r List.mem_cons_self
    rw [List.foldl_cons, List.flatMap_cons, after_append, ← hg.serve_eq_after hr]
    exact ih (hg.serve hr) fun r' h' => hrs r' (List.mem_cons_of_mem _ h')

/-! ## The status never goes back -/

theorem Status.eq_halted_of_index {s : Status} (h : 2 ≤ s.index) : s = .halted := by
  cases s with
  | ready | running => simp [Status.index] at h
  | halted => rfl

theorem index_le_move (mv : Move) (hmv : mv ≠ .reset) : m.status.index ≤ (m.move mv).status.index := by
  cases mv with
  | reset => exact absurd rfl hmv
  | load program =>
    obtain ⟨mem, -, hl⟩ := exists_serve_load_eq m program
    simp only [Machine.move, hl, le_refl]
  | attach device => exact le_rfl
  | start =>
    dsimp only [Machine.move]
    split
    · exact le_rfl
    · exact Status.index_le_one ‹_›
  | step => exact index_le_step m

/-- Once halted, a machine stays halted until a reset. -/
theorem move_halted {mv : Move} (hs : m.status = .halted) (hmv : mv ≠ .reset) :
    (m.move mv).status = .halted := by
  apply Status.eq_halted_of_index
  have := index_le_move (m := m) mv hmv
  rwa [hs] at this

theorem index_le_run (m : Machine) (b : Int) : m.status.index ≤ (m.run b).1.1.status.index := by
  by_cases hs : m.status = .halted
  · simp [Machine.run, hs]
  · rw [run_fst_of_not_halted hs]
    exact runSteps_induction (P := fun m' => m.status.index ≤ m'.status.index)
      (m := { m with status := .running }) (fun m' hm' => hm'.trans (index_le_step m'))
      (Status.index_le_one hs) _ _

theorem index_le_serve {r : Request} (hr : r.Drives) (hne : r ≠ .reset) :
    m.status.index ≤ (m.serve r).status.index := by
  cases r with
  | reset => exact absurd rfl hne
  | load program => exact index_le_move (.load program) Move.noConfusion
  | attach device => exact le_rfl
  | step => exact index_le_step m
  | run b => exact index_le_run m b
  | execute | executeOp => exact hr.elim

/-- What the run status of a machine promises its next request. A step fails exactly when it
records a fault, at the program counter it starts from and naming the word there, and halts; a
step that completes leaves the recorded fault alone. No request but a reset moves the status
back in the order ready, running, halted. A halted machine is left as it is by a step and by a
run, which reports the recorded fault. -/
structure StatusKept (m : Machine) : Prop where
  step_fails : ∀ e, m.step.2 = some e →
    m.step.1.err = some e ∧ m.step.1.status = .halted ∧ ∃ c, e = m.faultAt c
  step_completes : m.step.2 = none → m.step.1.err = m.err
  monotone : ∀ r : Request, r.Drives → r ≠ .reset → m.status.index ≤ (m.serve r).status.index
  halted : m.status = .halted → m.step = (m, none) ∧ ∀ b, (m.run b).1 = (m, m.err)

theorem Guarded.statusKept (hg : m.Guarded) : m.StatusKept where
  step_fails _ h := hg.step_fails h
  step_completes := step_err_of_none
  monotone _ hr hne := index_le_serve hr hne
  halted hs := ⟨step_of_halted hs, fun b => by simp [Machine.run, hs]⟩

/-! ## Histories -/

theorem FaultMadeBy.snoc {ms : List Move} {e : Error} (h : m.FaultMadeBy ms e) {mv : Move}
    (hmv : mv ≠ .reset) : m.FaultMadeBy (ms ++ [mv]) e := by
  obtain ⟨h₁, h₂, c, rfl, hres, hstep, he⟩ := h
  refine ⟨h₁, h₂ ++ [mv], c, by simp, ?_, hstep, he⟩
  simp only [List.mem_append, List.mem_singleton, not_or]
  exact ⟨hres, fun h => hmv h.symm⟩

/-- The run lemma for recorded faults: along any history from a guarded machine with no fault on
record, a recorded fault halted the machine and was made by a step since the last reset. A
reset clears the record; a step that fails makes it; every other move keeps it, and keeps a
halted machine halted. -/
theorem Guarded.fault_made_by (hg : m.Guarded) (h0 : m.err = none) (ms : List Move) :
    ∀ e, (m.after ms).err = some e → (m.after ms).status = .halted ∧ m.FaultMadeBy ms e := by
  induction ms using List.reverseRecOn with
  | nil =>
    intro e he
    rw [after_nil, h0] at he
    cases he
  | append_singleton ms mv ih =>
    intro e he
    rw [after_concat] at he ⊢
    cases mv with
    | reset =>
      obtain ⟨j, hj⟩ := exists_note_eq (m.after ms) "cpu: reset"
      simp [Machine.move, Machine.reset, hj] at he
    | step =>
      rcases hs : (m.after ms).step with ⟨s', _ | e'⟩
      · -- a step that completes keeps the record, and a halted machine does not step
        have herr := step_err_of_none (m := m.after ms) (by rw [hs])
        simp only [Machine.move, hs] at he herr ⊢
        rw [herr] at he
        obtain ⟨hh, hf⟩ := ih e he
        have hsame := step_of_halted hh
        rw [hs] at hsame
        cases hsame
        exact ⟨hh, hf.snoc Move.noConfusion⟩
      · -- the failing step makes the record
        obtain ⟨herr, hh, c, hc⟩ := (hg.after ms).step_fails (e := e') (by rw [hs])
        simp only [hs] at herr hh
        simp only [Machine.move, hs] at he ⊢
        rw [herr] at he
        cases he
        exact ⟨hh, ms, [], c, rfl, by simp, by rw [hs], hc⟩
    | load _ | attach _ | start =>
      -- every other move keeps the record, and keeps a halted machine halted
      rw [(move_keeps (by simp) (by simp)).1] at he
      obtain ⟨hh, hf⟩ := ih e he
      exact ⟨move_halted hh (by simp), hf.snoc (by simp)⟩

/-- The run lemma for the fetch count: after any history it is the number of steps since the
last reset that fetched a word, counted on from the count the history started with. -/
theorem ticks_after (m : Machine) (ms : List Move) :
    (m.after ms).ticks = fetchesSinceReset m ms m.ticks := by
  induction ms generalizing m with
  | nil => rfl
  | cons mv ms ih =>
    rw [after_cons, ih]
    cases mv with
    | reset => rfl
    | step =>
      -- a step counts one exactly when it fetches, as the count does
      simp only [fetchesSinceReset, Machine.move, step_ticks]
      split <;> rfl
    | load _ | attach _ | start =>
      rw [(move_keeps (by simp) (by simp)).2]
      rfl

theorem fresh_of_create {n : Nat} (hm : create (n : Int) = .ok m) :
    m.Guarded ∧ m.err = none ∧ m.ticks = 0 := by
  unfold Machine.create at hm
  split at hm
  · cases hm
  · rename_i hk
    cases hm
    refine ⟨⟨?_, ?_, by simp⟩, rfl, rfl⟩ <;>
      simp only [size, Array.size_replicate, minMemory, returnOffset, Int.toNat_natCast] at hk ⊢ <;>
      omega

end Machine

/-- The run status is a state machine over the steps of a history. Take any history of resets,
loads, changes of device, steps and runs of a fresh machine, and write it as moves, a run being
a start followed by its budget of steps: the moves lead to the same machine. A fault on record
halted the machine and was made by a step since the last reset, at the program counter that
step started from and naming the word it fetched there, or zero outside memory. The next step
fails exactly when it records a fault; no request but a reset moves the status back; and a
halted machine stays as it is under steps and runs. The fetch count is the number of steps
since the last reset that fetched a word. -/
theorem run_status_state_machine {n : Nat} {m : Machine} (hm : Machine.create n = .ok m)
    (rs : List Request) (hrs : ∀ r ∈ rs, r.Drives) :
    rs.foldl Machine.serve m = m.after (rs.flatMap Request.moves) ∧
      (∀ e, (rs.foldl Machine.serve m).err = some e →
        (rs.foldl Machine.serve m).status = .halted ∧ m.FaultMadeBy (rs.flatMap Request.moves) e) ∧
      (rs.foldl Machine.serve m).StatusKept ∧
      (rs.foldl Machine.serve m).ticks = fetchesSinceReset m (rs.flatMap Request.moves) 0 := by
  obtain ⟨hg, herr, hticks⟩ := Machine.fresh_of_create hm
  have heq := hg.foldl_serve_eq_after hrs
  refine ⟨heq, ?_, ?_, ?_⟩
  · rw [heq]
    exact hg.fault_made_by herr _
  · rw [heq]
    exact (hg.after _).statusKept
  · rw [heq, Machine.ticks_after, hticks]

/-- A fresh machine of 200 words loads a lone `SSWAP` and runs it; the step fails on the empty
stack. -/
theorem swap_run_records_fault :
    Machine.create (200 : Nat) = .ok { memory := Array.replicate 200 0, sp := 200, rap := 99 } ∧
      (∀ r ∈ [Request.load #[924], .run 5], r.Drives) ∧
      ([Request.load #[924], .run 5].foldl Machine.serve
          { memory := Array.replicate 200 0, sp := 200, rap := 99 } =
        Machine.after { memory := Array.replicate 200 0, sp := 200, rap := 99 }
          ([Request.load #[924], .run 5].flatMap Request.moves) ∧
      (∀ e, ([Request.load #[924], .run 5].foldl Machine.serve
          { memory := Array.replicate 200 0, sp := 200, rap := 99 }).err = some e →
        ([Request.load #[924], .run 5].foldl Machine.serve
          { memory := Array.replicate 200 0, sp := 200, rap := 99 }).status = .halted ∧
        Machine.FaultMadeBy { memory := Array.replicate 200 0, sp := 200, rap := 99 }
          ([Request.load #[924], .run 5].flatMap Request.moves) e) ∧
      ([Request.load #[924], .run 5].foldl Machine.serve
          { memory := Array.replicate 200 0, sp := 200, rap := 99 }).StatusKept ∧
      ([Request.load #[924], .run 5].foldl Machine.serve
          { memory := Array.replicate 200 0, sp := 200, rap := 99 }).ticks =
        fetchesSinceReset { memory := Array.replicate 200 0, sp := 200, rap := 99 }
          ([Request.load #[924], .run 5].flatMap Request.moves) 0) :=
  ⟨rfl, by decide, run_status_state_machine (n := 200) rfl _ (by decide)⟩

end DecimalMachine
