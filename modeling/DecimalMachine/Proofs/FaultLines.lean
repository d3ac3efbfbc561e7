import Mathlib
import DecimalMachine.Proofs.StatementLookup
import DecimalMachine.Proofs.EmulatorProgram
import DecimalMachine.Proofs.RunAgreement
import DecimalMachine.Proofs.RunStatus
import DecimalMachine.Proofs.CallConvention

/-!
# The source line of a runtime fault

An emulator reports a failure of its machine together with a source line: the line of the
statement covering the program counter, looked up at the start of the tick. On the tick whose
step faults, that counter is the address the step fetched from, which is the address the fault
records, so the line is the fault's own. A machine the fault has halted does not step again,
and each later tick or run reports the recorded fault once more, with the line of the program
counter as the faulting step left it: past the faulting word, or at the address itself when
nothing could be fetched there. That is the line of the next statement, not the fault's.

* `Machine.FailsInPlace` — an instruction that fails leaves the program counter where it was
  and reports no bad address; one lemma per operation, so a step that faults after fetching
  leaves the counter just past the word (`fetched_execute_fails`).
* `Machine.FaultParked` — the invariant: a recorded fault halted the machine and left the
  counter at `faultResume ip c`. Steps keep it, and so does every request of an emulator.
* `Emulator.tick_line_of_running`, `Emulator.tick_line_of_halted` and their run versions — the
  line a report carries, on a machine still running and on one already halted.
* `runtime_fault_lines` — for every emulator a client can reach.
-/

namespace DecimalMachine

/-- Where a fault at address `ip` with cause `c` leaves the program counter: at `ip` when nothing
could be fetched there, just past the fetched word otherwise. -/
def faultResume (ip : Int) (c : Error) : Int :=
  if c = .badAddress then ip else ip + 1

namespace Machine

variable {m m' : Machine}

/-! ## Failing in place

No instruction moves the program counter and then fails: `JAL` and `RET` move it only when they
complete, every other instruction never. And no instruction reports a bad address; only a fetch
outside memory does. -/

/-- A failure of an operation on `m` leaves the program counter where it was and is no bad
address. -/
def FailsInPlace (m : Machine) (o : Outcome) : Prop :=
  ∀ c, o.2 = some c → o.1.pc = m.pc ∧ c ≠ .badAddress

/-- An operation on `m` that leaves the program counter alone, whatever it does, and reports no
bad address. -/
def KeepsPc (m : Machine) (o : Outcome) : Prop :=
  o.1.pc = m.pc ∧ o.2 ≠ some .badAddress

theorem KeepsPc.failsInPlace {o : Outcome} (h : KeepsPc m o) : FailsInPlace m o := by
  intro c hc
  refine ⟨h.1, ?_⟩
  rintro rfl
  exact h.2 hc

theorem keepsPc_of {x : Option Error} (hpc : m'.pc = m.pc) (hx : x ≠ some .badAddress) :
    KeepsPc m (m', x) :=
  ⟨hpc, hx⟩

theorem failsInPlace_none (m m' : Machine) : FailsInPlace m (m', none) := by
  intro c hc
  cases hc

theorem KeepsPc.andThen {o : Outcome} {f : Machine → Outcome} (ho : KeepsPc m o)
    (hf : ∀ m', KeepsPc m' (f m')) : KeepsPc m (o.andThen f) := by
  obtain ⟨m1, _ | e⟩ := o
  · exact ⟨(hf m1).1.trans ho.1, (hf m1).2⟩
  · exact ho

theorem FailsInPlace.andThen {o : Outcome} {f : Machine → Outcome} (ho : KeepsPc m o)
    (hf : ∀ m', m'.pc = m.pc → FailsInPlace m' (f m')) : FailsInPlace m (o.andThen f) := by
  obtain ⟨m1, _ | e⟩ := o
  · intro c hc
    obtain ⟨hpc, hne⟩ := hf m1 ho.1 c hc
    exact ⟨hpc.trans ho.1, hne⟩
  · exact ho.failsInPlace

theorem keepsPc_write (m : Machine) (a v : Int) : KeepsPc m (m.write a v) := by
  unfold Machine.write
  split
  · exact keepsPc_of rfl (by simp)
  · exact keepsPc_of rfl (by simp)

theorem keepsPc_push (m : Machine) : KeepsPc m m.push := by
  unfold Machine.push
  split
  · exact keepsPc_of rfl (by simp)
  · exact (keepsPc_write _ _ _).andThen fun _ => keepsPc_of rfl (by simp)

theorem keepsPc_pop (m : Machine) : KeepsPc m m.pop := by
  unfold Machine.pop
  split <;> exact keepsPc_of rfl (by simp)

theorem keepsPc_pushReturn (m : Machine) (ip : Int) : KeepsPc m (m.pushReturn ip) := by
  unfold Machine.pushReturn
  split
  · exact keepsPc_of rfl (by simp)
  · exact (keepsPc_write _ _ _).andThen fun _ => keepsPc_of rfl (by simp)

theorem failsInPlace_popReturn (m : Machine) : FailsInPlace m m.popReturn := by
  unfold Machine.popReturn
  split
  · exact (keepsPc_of rfl (by simp)).failsInPlace
  · exact failsInPlace_none _ _

theorem KeepsPc.scratch {f : Machine → Outcome} (h : KeepsPc m (f m)) : KeepsPc m (m.scratch f) := by
  rw [scratch_eq]
  exact h

theorem keepsPc_dup (m : Machine) : KeepsPc m m.dup :=
  KeepsPc.scratch ((keepsPc_pop m).andThen fun _ => (keepsPc_push _).andThen fun _ => keepsPc_push _)

theorem keepsPc_swap (m : Machine) : KeepsPc m m.swap :=
  KeepsPc.scratch ((keepsPc_pop m).andThen fun _ => (keepsPc_pop _).andThen fun _ =>
    (keepsPc_push _).andThen fun _ => keepsPc_push _)

theorem keepsPc_combine (m : Machine) (f : Int → Int → Except Error Int)
    (hf : ∀ l r, f l r ≠ .error .badAddress) : KeepsPc m (m.combine f) := by
  refine KeepsPc.scratch ((keepsPc_pop m).andThen fun m1 => (keepsPc_pop m1).andThen fun m2 => ?_)
  dsimp only
  split
  · rename_i e he
    refine keepsPc_of rfl ?_
    rintro ⟨⟩
    exact hf _ _ he
  · exact keepsPc_push _

/-- `JAL` moves the program counter only once its return address is on the stack. -/
theorem failsInPlace_call (m : Machine) : FailsInPlace m m.call := by
  rw [Machine.call, scratch_eq]
  refine FailsInPlace.andThen (keepsPc_pop m) fun m1 hm1 => ?_
  have hret := keepsPc_pushReturn m1 m1.pc
  dsimp only
  split
  · rename_i m2 e hres
    rw [hres] at hret
    exact (keepsPc_of hret.1 hret.2).failsInPlace
  · exact failsInPlace_none _ _

theorem keepsPc_readInput (m : Machine) : KeepsPc m m.readInput := by
  unfold Machine.readInput
  split
  · exact keepsPc_of rfl (by simp)
  · split <;> exact keepsPc_of rfl (by simp)

/-- Output keeps the counter, and a broken writer's failure is no bad address. -/
theorem keepsPc_writeOutput (m : Machine) : KeepsPc m m.writeOutput := by
  obtain ⟨d, j, f, heq, hf⟩ := exists_writeOutput_eq m
  rw [heq]
  refine keepsPc_of rfl ?_
  rcases hf with rfl | ⟨msg, rfl⟩ <;> simp

theorem failsInPlace_executeOp (m : Machine) (op : Op) (arg : Int) :
    FailsInPlace m (m.executeOp op arg) := by
  cases op with
  | halt | add | sub | loadImmediate | load | branch => exact failsInPlace_none _ _
  | branchZero | branchPositive =>
    dsimp only [Machine.executeOp]
    exact failsInPlace_none _ _
  | store => exact (keepsPc_write _ _ _).failsInPlace
  | input => exact (keepsPc_readInput m).failsInPlace
  | output => exact (keepsPc_writeOutput m).failsInPlace
  | call => exact failsInPlace_call m
  | ret => exact failsInPlace_popReturn m
  | push => exact (keepsPc_push m).failsInPlace
  | pop => exact (keepsPc_pop m).failsInPlace
  | dup => exact (keepsPc_dup m).failsInPlace
  | drop => exact (KeepsPc.scratch (keepsPc_pop m)).failsInPlace
  | swap => exact (keepsPc_swap m).failsInPlace
  | stackAdd | stackSub | stackMul | stackMax | stackMin =>
    exact (keepsPc_combine m _ fun _ _ => by simp).failsInPlace
  | stackDiv =>
    refine (keepsPc_combine m _ fun l r => ?_).failsInPlace
    unfold stackQuotient
    split <;> simp

theorem failsInPlace_execute (m : Machine) (w : Int) : FailsInPlace m (m.execute w) := by
  unfold Machine.execute
  split
  · exact (keepsPc_of rfl (by simp)).failsInPlace
  · -- a trace record leaves the program counter alone
    obtain ⟨j, hj⟩ := exists_note_eq m _
    dsimp only
    rw [hj]
    exact failsInPlace_executeOp _ _ _

/-- A fetched word that fails leaves the program counter just past it, and its failure is no bad
address. -/
theorem fetched_execute_fails {w : Int} {c : Error} (hx : (m.fetched w).execute w = (m', some c)) :
    m'.pc = m.pc + 1 ∧ c ≠ .badAddress := by
  have h := failsInPlace_execute (m.fetched w) w c (by rw [hx])
  rw [hx] at h
  exact h

/-! ## A step, and the fault it records -/

/-- A step reports a fault only at the address it started from. -/
theorem step_fault_at {ip w : Int} {c : Error} (h : m.step.2 = some (.fault ip w c)) :
    ip = m.pc := by
  rcases step_cases m with ⟨-, hst⟩ | ⟨-, -, hst⟩ | ⟨w', m', -, -, -, hst⟩ |
    ⟨w', m', c', -, -, -, hst⟩
  · rw [hst] at h
    cases h
  · obtain ⟨j, hj⟩ := fault_of_not_fatal ({ m with status := .running } : Machine) m.pc 0
      (e := .badAddress) rfl
    rw [hst, hj] at h
    cases h
    rfl
  · rw [hst] at h
    cases h
  · rw [hst] at h
    cases hc : c'.isFatal
    · obtain ⟨j, hj⟩ := fault_of_not_fatal ({ m' with acc := clamp m'.acc } : Machine) m.pc w' hc
      rw [hj] at h
      cases h
      rfl
    · -- a fatal access passes as it is, and is no fault
      rw [fault_of_fatal hc] at h
      cases h
      simp [Error.isFatal] at hc

/-- A fault on record halted the machine and left the program counter where the faulting step
left it. -/
def FaultParked (m : Machine) : Prop :=
  ∀ ip w c, m.err = some (.fault ip w c) → m.status = .halted ∧ m.pc = faultResume ip c

theorem FaultParked.congr (h : m.FaultParked) (herr : m'.err = m.err)
    (hs : m'.status = m.status) (hpc : m'.pc = m.pc) : m'.FaultParked := by
  intro ip w c he
  rw [herr] at he
  rw [hs, hpc]
  exact h ip w c he

theorem FaultParked.of_alike (h : m.FaultParked) (ha : m.Alike m') : m'.FaultParked := by
  obtain ⟨v, j, rfl⟩ := ha.exists_relog
  exact h.congr rfl rfl rfl

theorem faultParked_of_err (herr : m.err = none) : m.FaultParked := by
  intro ip w c he
  rw [herr] at he
  cases he

/-- A machine that has not halted has no fault on record. -/
theorem FaultParked.no_fault (h : m.FaultParked) (hs : m.status ≠ .halted) {ip w : Int}
    {c : Error} : m.err ≠ some (.fault ip w c) :=
  fun he => hs (h ip w c he).1

/-- The step lemma: a fault a step records halts the machine and leaves its program counter past
the word fetched, or at the address when nothing was fetched. -/
theorem FaultParked.step (h : m.FaultParked) : m.step.1.FaultParked := by
  rcases step_cases m with ⟨-, hst⟩ | ⟨hs, -, hst⟩ | ⟨w, m', hs, -, hx, hst⟩ |
    ⟨w, m', c, hs, -, hx, hst⟩
  · rw [hst]
    exact h
  · -- nothing fetched: the fault stays at the program counter
    obtain ⟨j, hj⟩ := fault_of_not_fatal ({ m with status := .running } : Machine) m.pc 0
      (e := .badAddress) rfl
    rw [hst, hj]
    rintro ip w c he
    cases he
    exact ⟨rfl, by simp [faultResume]⟩
  · -- the word completes and keeps the record, which holds no fault of a running machine
    rw [hst]
    intro ip w' c he
    rw [show ({ m' with acc := clamp m'.acc } : Machine).err = m.err from
      (keepsStatus_fetched hx).2] at he
    exact absurd he (h.no_fault hs)
  · rw [hst]
    cases hc : c.isFatal
    · obtain ⟨j, hj⟩ := fault_of_not_fatal ({ m' with acc := clamp m'.acc } : Machine) m.pc w hc
      obtain ⟨hpc, hne⟩ := fetched_execute_fails hx
      rw [hj]
      rintro ip w' c' he
      cases he
      exact ⟨rfl, by simp [faultResume, hne, hpc]⟩
    · rw [fault_of_fatal hc]
      intro ip w' c' he
      rw [show ({ m' with acc := clamp m'.acc } : Machine).err = m.err from
        (keepsStatus_fetched hx).2] at he
      exact absurd he (h.no_fault hs)

end Machine

namespace Emulator

variable {e e' : Emulator}

/-! ## What a tick reports -/

/-- A report is the failure wrapped with a source line, unless it is a fatal access. -/
theorem runtime_of_report {l : Nat} {x y : Error} {L : Int}
    (h : (if x.isFatal then x else .runtime l x) = .runtime L y) : L = l ∧ x = y := by
  cases hx : x.isFatal
  · simp only [hx, Bool.false_eq_true, if_false, Error.runtime.injEq] at h
    exact ⟨h.1.symm, h.2⟩
  · simp only [hx, if_true] at h
    subst h
    simp [Error.isFatal] at hx

/-- A tick of a halted machine only switches its logging, and reports the recorded fault at the
source line of the program counter. -/
theorem tick_of_halted (hs : e.machine.status = .halted) :
    e.tick = ({ e with machine := { e.machine with verbose := e.verbose } }, true,
      e.machine.err.map fun x => if x.isFatal then x else .runtime e.lineNo x) := by
  simp [Emulator.tick, hs, Emulator.lineNo]

theorem collect_program (e : Emulator) : e.collect.program = e.program := by
  unfold collect
  dsimp only
  split <;> rfl

theorem tick_program (e : Emulator) : e.tick.1.program = e.program := by
  unfold tick
  dsimp only
  split
  · rfl
  · exact collect_program _

/-- On a machine still running, a fault reported by a tick carries the line of its own
address: the tick looks the line up at the address its step fetches from. -/
theorem tick_line_of_running (hs : e.machine.status ≠ .halted) {L : Int} {ip w : Int} {c : Error}
    (h : e.tick.2.2 = some (.runtime L (.fault ip w c))) : L = e.program.lineAt ip := by
  obtain ⟨-, -, hrep⟩ := tick_of_running (Machine.Alike.refl e.machine) hs
  rw [hrep] at h
  obtain ⟨x, hx, hwrap⟩ := Option.map_eq_some_iff.mp h
  obtain ⟨rfl, rfl⟩ := runtime_of_report hwrap
  rw [Machine.step_fault_at hx, lineNo_eq]

/-- On a halted machine, the fault a tick reports again carries the line of the address where
the faulting step left the program counter. -/
theorem tick_line_of_halted (hp : e.machine.FaultParked) (hs : e.machine.status = .halted)
    {L : Int} {ip w : Int} {c : Error} (h : e.tick.2.2 = some (.runtime L (.fault ip w c))) :
    L = e.program.lineAt (faultResume ip c) := by
  rw [tick_of_halted hs] at h
  obtain ⟨x, hx, hwrap⟩ := Option.map_eq_some_iff.mp h
  obtain ⟨rfl, rfl⟩ := runtime_of_report hwrap
  rw [lineNo_eq, (hp ip w c hx).2]

theorem faultParked_tick (hp : e.machine.FaultParked) : e.tick.1.machine.FaultParked := by
  by_cases hs : e.machine.status = .halted
  · rw [tick_of_halted hs]
    exact hp.congr rfl rfl rfl
  · obtain ⟨hm, -, -⟩ := tick_of_running (Machine.Alike.refl e.machine) hs
    exact hp.step.of_alike hm.symm

/-- A tick that is not done leaves the machine running. -/
theorem tick_running_of_not_done (hs : e.machine.status ≠ .halted) (hd : e.tick.2.1 = false) :
    e.tick.1.machine.status ≠ .halted := by
  obtain ⟨hm, hdone, -⟩ := tick_of_running (Machine.Alike.refl e.machine) hs
  rw [hdone, beq_eq_false_iff_ne] at hd
  rw [hm.status]
  exact hd

/-! ## What a run reports

A run ticks until a tick is done or fails. From a running machine every tick it makes starts
running, so the fault it reports is the one its last step made; from a halted machine its first
tick is done and reports the recorded fault. -/

theorem run_report (e : Emulator) (b : Int) : (e.run b).2.1 = (run.go b.toNat 0 e).2.1 := rfl

theorem go_line_of_running {L : Int} {ip w : Int} {c : Error} :
    ∀ (fuel polls : Nat) (e : Emulator), e.machine.status ≠ .halted →
      (run.go fuel polls e).2.1 = some (.runtime L (.fault ip w c)) → L = e.program.lineAt ip
  | 0, polls, e, _, h => by
    simp [run.go] at h
  | fuel + 1, polls, e, hs, h => by
    rcases ht : e.tick with ⟨e', done, err⟩
    simp only [run.go, ht] at h
    split at h
    · -- the run stops with what this tick reported
      have hrep : e.tick.2.2 = some (.runtime L (.fault ip w c)) := by rw [ht]; exact h
      exact tick_line_of_running hs hrep
    · -- the tick is not done and reports nothing: the run goes on with the same program
      rename_i hgo
      simp only [Bool.or_eq_true, not_or, Bool.not_eq_true, Option.isSome_eq_false_iff,
        Option.isNone_iff_eq_none] at hgo
      have hs' : e'.machine.status ≠ .halted := by
        have := tick_running_of_not_done hs (by rw [ht]; exact hgo.1)
        rwa [ht] at this
      have hprog : e'.program = e.program := by
        have := tick_program e
        rwa [ht] at this
      rw [← hprog]
      exact go_line_of_running fuel (polls + 1) e' hs' h

theorem run_line_of_running (hs : e.machine.status ≠ .halted) {b : Int} {L : Int} {ip w : Int}
    {c : Error} (h : (e.run b).2.1 = some (.runtime L (.fault ip w c))) : L = e.program.lineAt ip := by
  rw [run_report] at h
  exact go_line_of_running _ _ e hs h

theorem run_line_of_halted (hp : e.machine.FaultParked) (hs : e.machine.status = .halted)
    {b : Int} {L : Int} {ip w : Int} {c : Error}
    (h : (e.run b).2.1 = some (.runtime L (.fault ip w c))) :
    L = e.program.lineAt (faultResume ip c) := by
  rw [run_report] at h
  cases hb : b.toNat with
  | zero =>
    rw [hb] at h
    simp [run.go] at h
  | succ fuel =>
    -- the first tick is done, and the run stops with its report
    rw [hb] at h
    simp only [run.go, tick_of_halted hs, Bool.true_or, if_true] at h
    exact tick_line_of_halted hp hs (by rw [tick_of_halted hs]; exact h)

/-! ## Every request keeps the fault parked -/

theorem faultParked_runGo (hp : e.machine.FaultParked) (fuel polls : Nat) :
    (run.go fuel polls e).1.machine.FaultParked := by
  induction fuel generalizing polls e with
  | zero => exact hp
  | succ fuel ih =>
    have ht := faultParked_tick hp
    simp only [run.go]
    split
    · exact ht
    · exact ih ht _

/-- The machine a reset clears is ready at address 0, with no fault on record and an empty data
stack. -/
theorem cleared_fresh (e : Emulator) :
    e.cleared.status = .ready ∧ e.cleared.pc = 0 ∧ e.cleared.err = none ∧
      e.cleared.sp = e.machine.stackBase := by
  obtain ⟨j, hj⟩ := Machine.exists_note_eq ({ e.machine with verbose := false } : Machine)
    "cpu: reset"
  simp [cleared, Machine.reset, hj, Machine.stackBase, Machine.size]

/-- A reset starts the machine afresh whether its load goes through or not: ready, at address 0,
with no fault on record and an empty data stack; the program stays. -/
theorem reset_fresh (e : Emulator) :
    e.reset.1.machine.status = .ready ∧ e.reset.1.machine.pc = 0 ∧
      e.reset.1.machine.err = none ∧ e.reset.1.machine.sp = e.machine.stackBase ∧
      e.reset.1.program = e.program := by
  obtain ⟨m, t, hm, heq⟩ := exists_reset_eq e
  obtain ⟨hready, hpc, herr, hsp⟩ := cleared_fresh e
  rw [heq]
  -- a load changes memory only
  rcases hm with rfl | hload
  · exact ⟨hready, hpc, herr, hsp, rfl⟩
  · obtain ⟨rfl, -⟩ := Machine.load_eq_ok hload
    exact ⟨hready, hpc, herr, hsp, rfl⟩

/-- A reset clears the record. -/
theorem faultParked_of_reset (e : Emulator) : e.reset.1.machine.FaultParked :=
  Machine.faultParked_of_err (reset_fresh e).2.2.1

/-- An assembly that gives a program starts the machine afresh on it: ready at address 0, no fault
on record, an empty data stack, and memory the program's image. -/
theorem Fits.assemble_starts {n : Nat} (h : e.Fits n) {ev : Evaluator} {source : String}
    {p : Program} (hp : (assemble ev e.settings source).result = .ok p) :
    ∃ e', e.serve ev (.assemble source) = e' ∧ e'.Fits n ∧ e'.program = p ∧
      e'.machine.memory = p.binary ∧ e'.machine.status = .ready ∧ e'.machine.pc = 0 ∧
      e'.machine.err = none ∧ e'.machine.sp = n := by
  have htrace : ({ e with
      trace := e.trace ++ (assemble ev e.settings source).trace } : Emulator).Fits n :=
    h.congr h.layout rfl
  obtain ⟨e', hreset, hfits, hprog, hmem⟩ := (htrace.of_assemble rfl hp).reset
  obtain ⟨hready, hpc, herr, hsp, -⟩ := reset_fresh { e with
    trace := e.trace ++ (assemble ev e.settings source).trace, program := p }
  rw [hreset] at hready hpc herr hsp
  refine ⟨e', ?_, hfits, hprog, hmem, hready, hpc, herr, ?_⟩
  · simp only [Emulator.serve]
    rw [assembleSource_eq]
    simp only [hp, hreset]
  · rw [hsp, Machine.stackBase, h.layout.size_eq]

theorem faultParked_assembleSource (hp : e.machine.FaultParked) (ev : Evaluator)
    (source : String) : (e.assembleSource ev source).2.machine.FaultParked := by
  rw [assembleSource_snd]
  dsimp only
  split
  · exact hp
  · exact faultParked_of_reset _

theorem faultParked_serve (hp : e.machine.FaultParked) (ev : Evaluator) (r : Request) :
    (e.serve ev r).machine.FaultParked := by
  cases r with
  | define name value => exact hp
  | setStrict strict => exact hp
  | assemble source => exact faultParked_assembleSource hp ev source
  | reset => exact faultParked_of_reset e
  | tick => exact faultParked_tick hp
  | run budget => exact faultParked_runGo hp _ _

/-- The run lemma: after any sequence of requests a recorded fault has halted the machine and
parked its program counter. -/
theorem faultParked_foldl (hp : e.machine.FaultParked) (ev : Evaluator) (rs : List Request) :
    (rs.foldl (Emulator.serve ev) e).machine.FaultParked := by
  induction rs generalizing e with
  | nil => exact hp
  | cons r rs ih => exact ih (faultParked_serve hp ev r)

/-- A fresh emulator has no fault on record. -/
theorem faultParked_of_create {n : Nat} (he : Emulator.create n = .ok e) :
    e.machine.FaultParked := by
  unfold Emulator.create at he
  rcases hm : Machine.create n with err | m
  · rw [hm] at he
    cases he
  · rw [hm] at he
    cases he
    unfold Machine.create at hm
    split at hm
    · cases hm
    · cases hm
      exact Machine.faultParked_of_err rfl

end Emulator

/-- The source lines an emulator attaches to the faults it reports. On a machine still running,
the tick whose step faults, and any run that ends with that tick, report the line of the faulting
address. On a machine the fault has halted, every later tick and run reports it again with the
line of the address where the faulting step left the program counter: just past the faulting
word, or the faulting address itself when nothing could be fetched there. -/
structure Emulator.FaultLines (e : Emulator) : Prop where
  tick_running : e.machine.status ≠ .halted → ∀ (L ip w : Int) (c : Error),
    e.tick.2.2 = some (.runtime L (.fault ip w c)) → L = e.program.lineAt ip
  tick_halted : e.machine.status = .halted → ∀ (L ip w : Int) (c : Error),
    e.tick.2.2 = some (.runtime L (.fault ip w c)) → L = e.program.lineAt (faultResume ip c)
  run_running : e.machine.status ≠ .halted → ∀ (b L ip w : Int) (c : Error),
    (e.run b).2.1 = some (.runtime L (.fault ip w c)) → L = e.program.lineAt ip
  run_halted : e.machine.status = .halted → ∀ (b L ip w : Int) (c : Error),
    (e.run b).2.1 = some (.runtime L (.fault ip w c)) → L = e.program.lineAt (faultResume ip c)

/-- Where runtime faults are reported, for every emulator a client can reach from a fresh one. -/
theorem runtime_fault_lines (ev : Evaluator) {n : Nat} {e : Emulator}
    (he : Emulator.create n = .ok e) (rs : List Emulator.Request) :
    (rs.foldl (Emulator.serve ev) e).FaultLines := by
  have hp := Emulator.faultParked_foldl (Emulator.faultParked_of_create he) ev rs
  exact ⟨fun hs _ _ _ _ h => Emulator.tick_line_of_running hs h,
    fun hs _ _ _ _ h => Emulator.tick_line_of_halted hp hs h,
    fun hs _ _ _ _ _ h => Emulator.run_line_of_running hs h,
    fun hs _ _ _ _ _ h => Emulator.run_line_of_halted hp hs h⟩

/-- A fresh emulator of two hundred words that assembles a source and ticks reports its faults
where `runtime_fault_lines` says. -/
theorem fresh_emulator_fault_lines :
    let m : Machine := { memory := Array.replicate 200 0, sp := 200, rap := 99,
                         device := .tape { output := some (.buffer "") } }
    let e : Emulator := { machine := m, program := { statements := #[], size := 200 } }
    Emulator.create 200 = .ok e ∧
      ([Emulator.Request.assemble "SPOP", .tick].foldl (Emulator.serve Evaluator.inert) e).FaultLines :=
  ⟨rfl, runtime_fault_lines Evaluator.inert (n := 200) rfl _⟩

/-- A machine halted by a fault reports it again on the line after the faulting word. A fresh
emulator of two hundred words assembles `SPOP` on line 1 and `HLT` on line 2; its first tick pops
the empty data stack and faults at address 0, on line 1, halting the machine; the next tick
reports that fault on line 2. -/
theorem halted_fault_reported_on_next_line :
    let m : Machine := { memory := Array.replicate 200 0, sp := 200, rap := 99,
                         device := .tape { output := some (.buffer "") } }
    let e : Emulator := { machine := m, program := { statements := #[], size := 200 } }
    let e2 := [Emulator.Request.assemble "SPOP\nHLT", .tick].foldl (Emulator.serve Evaluator.inert) e
    Emulator.create 200 = .ok e ∧ e2.machine.status = .halted ∧
      e2.tick.2.2 = some (.runtime 2 (.fault 0 921 .badStack)) ∧ e2.program.lineAt 0 = 1 := by
  intro m e e2
  have hcreate : Emulator.create 200 = .ok e := rfl
  have hsize : e.machine.size = 200 := by simp [e, m, Machine.size]
  -- the source is the listing of the words 921 and 0
  have hsrc : String.intercalate "\n" (([921, 0] : List Int).map Word.render) = "SPOP\nHLT" := by
    decide
  obtain ⟨p, hasm, hlines⟩ := @listing_lines Evaluator.inert e.settings [921, 0]
    (by decide) (by simp [Emulator.settings, Settings.size, hsize])
  rw [hsrc] at hasm
  -- `SPOP` is the word at address 0, on line 1, and `HLT` the one at address 1, on line 2
  have hline0 : p.lineAt 0 = 1 := by simpa using (hlines 0 (by decide)).1
  have hline1 : p.lineAt 1 = 2 := by simpa using (hlines 1 (by decide)).1
  have hword0 : p.binary[0]? = some 921 := by simpa using (hlines 0 (by decide)).2
  -- assembling starts the machine afresh on the program
  obtain ⟨e1, hserve1, hfits1, hprog1, hmem1, hready, hpc0, herr0, hsp0⟩ :=
    (Emulator.Fits.create hcreate).assemble_starts hasm
  have hs1 : e1.machine.status ≠ .halted := by rw [hready]; decide
  have hread : e1.machine.read? e1.machine.pc = some 921 := by
    rw [hpc0]
    simpa [Machine.read?, hmem1] using hword0
  -- the first tick fetches `SPOP`, which finds the data stack empty and faults
  have hpop : (e1.machine.fetched 921).executeOp .pop 0 =
      (e1.machine.fetched 921, some .badStack) := by
    refine Machine.pop_empty ?_
    have hsz := hfits1.layout.size_eq
    simp only [Machine.stackBase, Machine.size, Machine.fetched] at hsz ⊢
    simp [hsz, hsp0]
  obtain ⟨u, j, hstep⟩ := Machine.step_of_executeOp_fails hs1 hread (by decide) hpop rfl
  rw [hpc0] at hstep
  have he2 : e2 = e1.tick.1 := by
    show (e.serve Evaluator.inert (.assemble "SPOP\nHLT")).serve Evaluator.inert .tick = e1.tick.1
    rw [hserve1]
    rfl
  obtain ⟨halike, -, -⟩ := Emulator.tick_of_running (Machine.Alike.refl e1.machine) hs1
  rw [hstep] at halike
  obtain ⟨v, j', hrelog⟩ := halike.symm.exists_relog
  have hhalt : e2.machine.status = .halted := by rw [he2, hrelog]
  have herr : e2.machine.err = some (.fault 0 921 .badStack) := by rw [he2, hrelog]
  -- the fault left the program counter past the word, at `HLT`
  have hpc2 : e2.machine.pc = 1 := by
    have hpark := Emulator.faultParked_tick (Machine.faultParked_of_err herr0)
    rw [← he2] at hpark
    simpa [faultResume] using (hpark 0 921 .badStack herr).2
  have hprog2 : e2.program = p := by rw [he2, Emulator.tick_program, hprog1]
  refine ⟨hcreate, hhalt, ?_, by rw [hprog2, hline0]⟩
  rw [Emulator.tick_of_halted hhalt, herr, Emulator.lineNo_eq, hpc2, hprog2, hline1]
  rfl

end DecimalMachine
