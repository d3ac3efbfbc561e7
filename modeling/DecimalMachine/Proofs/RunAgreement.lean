import Mathlib
import DecimalMachine.Emulator

/-!
# Running, ticking and plain stepping agree

A machine can be driven three ways: step by step, by `Machine.run`, which sets the machine
running and steps until it halts, fails or spends its budget, and by `Emulator.run`, which ticks
the emulator holding it, each tick switching the machine's logging to the emulator's and moving
its log records into the emulator's trace. This module shows the three agree.

* `Machine.Alike`: two machines alike but for their logging. Logging never changes what a
  machine computes: every operation takes alike machines to alike machines and the same failure
  (`Machine.Alike.step`).
* `Machine.stepWhile b`: the reference loop, stepping while the machine has not halted and fewer
  than `b` steps are taken; a failing step ends it.
* `Machine.runSteps_eq_stepWhile` and `Emulator.go_eq_stepWhile` relate the two loops to it, by
  induction on their budgets.
-/

namespace DecimalMachine

namespace Machine

/-- A machine with its logging switched off and its records dropped. -/
def quiet (m : Machine) : Machine := { m with verbose := false, journal := #[] }

/-- Two machines alike in everything but their logging: registers, memory, stacks, status,
fault, output, ticks and device. -/
def Alike (m m' : Machine) : Prop := m.quiet = m'.quiet

variable {m m' m'' : Machine}

theorem alike_relog (m : Machine) (v : Bool) (j : Array TraceLine) :
    m.Alike { m with verbose := v, journal := j } := rfl

theorem Alike.refl (m : Machine) : m.Alike m := rfl

theorem Alike.symm (h : m.Alike m') : m'.Alike m := Eq.symm h

theorem Alike.trans (h : m.Alike m') (h' : m'.Alike m'') : m.Alike m'' := Eq.trans h h'

/-- Alike machines differ only in their logging. -/
theorem Alike.exists_relog (h : m.Alike m') :
    ∃ v j, m' = { m with verbose := v, journal := j } := by
  cases m
  cases m'
  simp only [Alike, quiet, Machine.mk.injEq] at h
  obtain ⟨h1, h2, h3, h4, h5, h6, h7, h8, h9, h10, h11, -, -⟩ := h
  subst h1 h2 h3 h4 h5 h6 h7 h8 h9 h10 h11
  exact ⟨_, _, rfl⟩

theorem Alike.status (h : m.Alike m') : m.status = m'.status := by
  have hq := congrArg Machine.status h
  exact hq

end Machine

/-- Outcomes alike: alike machines and the same failure. -/
structure Outcome.Alike (o o' : Outcome) : Prop where
  machine : o.1.Alike o'.1
  error : o.2 = o'.2

namespace Outcome

theorem alike_of_relog (m : Machine) (e : Option Error) (v : Bool) (j : Array TraceLine) :
    Outcome.Alike (m, e) ({ m with verbose := v, journal := j }, e) :=
  ⟨Machine.alike_relog m v j, rfl⟩

theorem Alike.ite {c : Prop} [Decidable c] {a a' b b' : Outcome}
    (h1 : c → Outcome.Alike a a') (h2 : ¬c → Outcome.Alike b b') :
    Outcome.Alike (if c then a else b) (if c then a' else b') := by
  by_cases hc : c
  · simp only [hc, if_true]
    exact h1 hc
  · simp only [hc, if_false]
    exact h2 hc

theorem Alike.andThen {o o' : Outcome} {f f' : Machine → Outcome} (ho : o.Alike o')
    (hf : ∀ m m', m.Alike m' → (f m).Alike (f' m')) : (o.andThen f).Alike (o'.andThen f') := by
  obtain ⟨m, _ | e⟩ := o <;> obtain ⟨m', _ | e'⟩ := o' <;> obtain ⟨hm, he⟩ := ho
  · exact hf m m' hm
  · simp at he
  · simp at he
  · exact ⟨hm, he⟩

/-- Alike outcomes differ only in the logging of their machines. -/
theorem Alike.exists_relog {o o' : Outcome} (h : o.Alike o') :
    ∃ v j, o' = (({ o.1 with verbose := v, journal := j } : Machine), o.2) := by
  obtain ⟨v, j, hm⟩ := h.machine.exists_relog
  exact ⟨v, j, Prod.ext hm h.error.symm⟩

end Outcome

namespace Machine

open Outcome

variable {m m' : Machine}

/-! ## Logging changes nothing else

Only `note` and `writeOutput` touch the records, and only `note` reads the flag. Every other
field of a result is computed from fields alike machines share, so each operation is proved
alike on a machine and on the same machine with other logging. -/

theorem Alike.write (h : m.Alike m') (a x : Int) : (m.write a x).Alike (m'.write a x) := by
  obtain ⟨v, j, rfl⟩ := h.exists_relog
  unfold Machine.write
  exact Alike.ite (fun _ => alike_of_relog _ _ _ _) (fun _ => alike_of_relog _ _ _ _)

theorem Alike.setAcc (h : m.Alike m') (x : Int) :
    ({ m with acc := x } : Machine).Alike { m' with acc := x } := by
  obtain ⟨v, j, rfl⟩ := h.exists_relog
  exact Machine.alike_relog _ _ _

theorem Alike.push (h : m.Alike m') : m.push.Alike m'.push := by
  obtain ⟨v, j, rfl⟩ := h.exists_relog
  unfold Machine.push
  refine Alike.ite (fun _ => alike_of_relog _ _ _ _) (fun _ => ?_)
  refine (h.write _ _).andThen fun a a' ha => ?_
  obtain ⟨v', j', rfl⟩ := ha.exists_relog
  exact alike_of_relog _ _ _ _

theorem Alike.pop (h : m.Alike m') : m.pop.Alike m'.pop := by
  obtain ⟨v, j, rfl⟩ := h.exists_relog
  unfold Machine.pop
  exact Alike.ite (fun _ => alike_of_relog _ _ _ _) (fun _ => alike_of_relog _ _ _ _)

theorem Alike.pushReturn (h : m.Alike m') (ip : Int) :
    (m.pushReturn ip).Alike (m'.pushReturn ip) := by
  obtain ⟨v, j, rfl⟩ := h.exists_relog
  unfold Machine.pushReturn
  refine Alike.ite (fun _ => alike_of_relog _ _ _ _) (fun _ => ?_)
  refine (h.write _ _).andThen fun a a' ha => ?_
  obtain ⟨v', j', rfl⟩ := ha.exists_relog
  exact alike_of_relog _ _ _ _

theorem Alike.popReturn (h : m.Alike m') : m.popReturn.Alike m'.popReturn := by
  obtain ⟨v, j, rfl⟩ := h.exists_relog
  unfold Machine.popReturn
  exact Alike.ite (fun _ => alike_of_relog _ _ _ _) (fun _ => alike_of_relog _ _ _ _)

theorem Alike.scratch {f f' : Machine → Outcome} (h : m.Alike m') (hf : (f m).Alike (f' m')) :
    (m.scratch f).Alike (m'.scratch f') := by
  obtain ⟨v, j, rfl⟩ := h.exists_relog
  exact ⟨hf.machine.setAcc m.acc, hf.error⟩

theorem Alike.dup (h : m.Alike m') : m.dup.Alike m'.dup :=
  h.scratch (h.pop.andThen fun _ _ h1 => h1.push.andThen fun _ _ h2 => h2.push)

theorem Alike.drop (h : m.Alike m') : m.drop.Alike m'.drop :=
  h.scratch h.pop

theorem Alike.swap (h : m.Alike m') : m.swap.Alike m'.swap := by
  refine h.scratch (h.pop.andThen fun a1 _ h1 => ?_)
  obtain ⟨v, j, rfl⟩ := h1.exists_relog
  refine h1.pop.andThen fun a2 _ h2 => ?_
  obtain ⟨v', j', rfl⟩ := h2.exists_relog
  exact (h2.setAcc _).push.andThen fun _ _ h3 => (h3.setAcc _).push

theorem Alike.combine (h : m.Alike m') (f : Int → Int → Except Error Int) :
    (m.combine f).Alike (m'.combine f) := by
  refine h.scratch (h.pop.andThen fun a1 _ h1 => ?_)
  obtain ⟨v, j, rfl⟩ := h1.exists_relog
  refine h1.pop.andThen fun a2 _ h2 => ?_
  obtain ⟨v', j', rfl⟩ := h2.exists_relog
  dsimp only
  split
  · exact alike_of_relog _ _ _ _
  · exact (h2.setAcc _).push

theorem Alike.call (h : m.Alike m') : m.call.Alike m'.call := by
  refine h.scratch (h.pop.andThen fun a1 _ h1 => ?_)
  obtain ⟨v, j, rfl⟩ := h1.exists_relog
  -- the return push differs only in logging, whether it fails or not
  obtain ⟨v', j', hret⟩ := (h1.pushReturn a1.pc).exists_relog
  dsimp only
  rw [hret]
  generalize a1.pushReturn a1.pc = o
  obtain ⟨b, _ | e⟩ := o <;> exact alike_of_relog _ _ _ _

theorem alike_note (m : Machine) (line : String) : (m.note line).Alike m := by
  unfold Machine.note
  split
  · exact (alike_relog m _ _).symm
  · exact Alike.refl m

theorem Alike.note (h : m.Alike m') (line line' : String) : (m.note line).Alike (m'.note line') :=
  (alike_note m line).trans (h.trans (alike_note m' line').symm)

theorem Alike.readInput (h : m.Alike m') : m.readInput.Alike m'.readInput := by
  obtain ⟨v, j, rfl⟩ := h.exists_relog
  unfold Machine.readInput
  dsimp only
  -- both read the same device and leave it the same
  split
  · exact alike_of_relog _ _ _ _
  · split <;> exact alike_of_relog _ _ _ _

theorem Alike.writeOutput (h : m.Alike m') : m.writeOutput.Alike m'.writeOutput := by
  obtain ⟨v, j, rfl⟩ := h.exists_relog
  exact ⟨alike_relog _ _ _, rfl⟩

theorem Alike.executeOp (h : m.Alike m') (op : Op) (arg : Int) :
    (m.executeOp op arg).Alike (m'.executeOp op arg) := by
  obtain ⟨v, j, rfl⟩ := h.exists_relog
  unfold Machine.executeOp
  cases op
  case branchZero | branchPositive =>
    dsimp only
    split <;> exact alike_of_relog _ _ _ _
  case store => exact h.write _ _
  case input => exact h.readInput
  case output => exact h.writeOutput
  case call => exact h.call
  case ret => exact h.popReturn
  case push => exact h.push
  case pop => exact h.pop
  case dup => exact h.dup
  case drop => exact h.drop
  case swap => exact h.swap
  case stackAdd | stackSub | stackMul | stackDiv | stackMax | stackMin => exact h.combine _
  -- the rest set a register or the status, from fields the two machines share
  all_goals exact alike_of_relog _ _ _ _

theorem Alike.execute (h : m.Alike m') (w : Int) : (m.execute w).Alike (m'.execute w) := by
  unfold Machine.execute
  cases Word.decode? w with
  | none => exact ⟨h, rfl⟩
  | some d =>
    obtain ⟨op, arg⟩ := d
    exact (h.note _ _).executeOp op arg

theorem Alike.fault (h : m.Alike m') (ip w : Int) (e : Error) :
    (m.fault ip w e).Alike (m'.fault ip w e) := by
  obtain ⟨v, j, rfl⟩ := h.exists_relog
  unfold Machine.fault
  exact Outcome.Alike.ite (fun _ => ⟨h, rfl⟩) (fun _ => ⟨(alike_relog _ v j).note _ _, rfl⟩)

theorem Alike.step (h : m.Alike m') : m.step.Alike m'.step := by
  obtain ⟨v, j, rfl⟩ := h.exists_relog
  unfold Machine.step
  refine Outcome.Alike.ite (fun _ => ⟨h, rfl⟩) (fun _ => ?_)
  dsimp only
  -- the fetch reads memory, which logging leaves alone
  rw [show ({ ({ m with status := .running } : Machine) with verbose := v, journal := j } :
    Machine).read? = ({ m with status := .running } : Machine).read? from rfl]
  generalize ({ m with status := .running } : Machine).read? m.pc = r
  cases r with
  | none =>
    dsimp only
    exact (alike_relog _ v j).fault _ _ _
  | some w =>
    dsimp only
    -- the executions differ only in logging, so both fail alike or go on alike
    obtain ⟨v', j', hx⟩ := ((alike_relog
      ({ m with status := .running, ir := w, pc := m.pc + 1, ticks := m.ticks + 1 } : Machine)
        v j).execute w).exists_relog
    rw [hx]
    generalize ({ m with status := .running, ir := w, pc := m.pc + 1, ticks := m.ticks + 1 } :
      Machine).execute w = o
    obtain ⟨b, _ | e⟩ := o
    · exact alike_of_relog _ _ _ _
    · exact (alike_relog _ v' j').fault _ _ _

end Machine

/-! ## The reference loop -/

/-- Where the reference loop stops: the machine, the steps taken, and the failure of the last
step if it failed. -/
structure Stepped where
  machine : Machine
  steps : Nat
  failure : Option Error

/-- What the loop reports: the failure of its last step; else nothing if the machine halted,
and a spent budget if it still runs. -/
def Stepped.report (r : Stepped) : Option Error :=
  match r.failure with
  | some e => some e
  | none => if r.machine.status == .halted then none else some .canceled

namespace Machine

/-- Step while the machine has not halted and fewer than `b` steps are taken. A failing step
ends the loop, as a fault halts the machine and a fatal access ends everything. -/
def stepWhile : Nat → Machine → Stepped
  | 0, m => ⟨m, 0, none⟩
  | b + 1, m =>
    if m.status == .halted then ⟨m, 0, none⟩
    else
      match m.step with
      | (m', some e) => ⟨m', 1, some e⟩
      | (m', none) =>
        let r := stepWhile b m'
        { r with steps := r.steps + 1 }

variable {m m' : Machine} {b : Nat}

@[simp] theorem stepWhile_zero (m : Machine) : m.stepWhile 0 = ⟨m, 0, none⟩ := rfl

theorem stepWhile_halted (h : m.status = .halted) (b : Nat) : m.stepWhile b = ⟨m, 0, none⟩ := by
  cases b with
  | zero => rfl
  | succ b => simp [stepWhile, h]

theorem stepWhile_succ_fail {e : Error} (h : m.status ≠ .halted) (hs : m.step = (m', some e)) :
    m.stepWhile (b + 1) = ⟨m', 1, some e⟩ := by
  simp [stepWhile, h, hs]

theorem stepWhile_succ_ok (h : m.status ≠ .halted) (hs : m.step = (m', none)) :
    m.stepWhile (b + 1) = { m'.stepWhile b with steps := (m'.stepWhile b).steps + 1 } := by
  simp [stepWhile, h, hs]

/-! ## How a step fails -/

theorem fault_failure {ip w : Int} {c x : Error} (h : (m.fault ip w c).2 = some x) :
    x.isFatal = true ∨ ∃ ip w c, x = .fault ip w c := by
  unfold fault at h
  split at h
  · cases h
    left
    assumption
  · cases h
    exact Or.inr ⟨_, _, _, rfl⟩

/-- A step fails only by a fault naming the instruction, or by a fatal access passed on. -/
theorem step_failure {x : Error} (h : m.step.2 = some x) :
    x.isFatal = true ∨ ∃ ip w c, x = .fault ip w c := by
  unfold step at h
  split at h
  · cases h
  · dsimp only at h
    split at h
    · exact fault_failure h
    · split at h
      · cases h
      · exact fault_failure h

theorem stepWhile_failure {x : Error} (h : (m.stepWhile b).failure = some x) :
    x.isFatal = true ∨ ∃ ip w c, x = .fault ip w c := by
  induction b generalizing m with
  | zero => cases h
  | succ b ih =>
    by_cases hh : m.status = .halted
    · rw [stepWhile_halted hh] at h
      cases h
    · rcases hs : m.step with ⟨m', _ | e⟩
      · rw [stepWhile_succ_ok hh hs] at h
        exact ih h
      · rw [stepWhile_succ_fail hh hs] at h
        cases h
        exact step_failure (congrArg Prod.snd hs)

/-! ## The loop takes at most its budget, and all of it when canceled -/

@[simp] theorem report_steps (r : Stepped) (n : Nat) : { r with steps := n }.report = r.report :=
  rfl

theorem stepWhile_steps_le (m : Machine) (b : Nat) : (m.stepWhile b).steps ≤ b := by
  induction b generalizing m with
  | zero => simp
  | succ b ih =>
    by_cases hh : m.status = .halted
    · simp [stepWhile_halted hh]
    · rcases hs : m.step with ⟨m', _ | e⟩
      · simpa [stepWhile_succ_ok hh hs] using ih m'
      · simp [stepWhile_succ_fail hh hs]

/-- A loop that reports a spent budget has taken every step of it. -/
theorem stepWhile_steps_of_canceled (h : (m.stepWhile b).report = some .canceled) :
    (m.stepWhile b).steps = b := by
  induction b generalizing m with
  | zero => rfl
  | succ b ih =>
    by_cases hh : m.status = .halted
    · simp [stepWhile_halted hh, Stepped.report, hh] at h
    · rcases hs : m.step with ⟨m', _ | e⟩
      · rw [stepWhile_succ_ok hh hs, report_steps] at h
        simp [stepWhile_succ_ok hh hs, ih h]
      · -- a failing step reports a fault or a fatal access, never a spent budget
        rw [stepWhile_succ_fail hh hs] at h
        cases h
        rcases step_failure (congrArg Prod.snd hs) with hf | ⟨_, _, _, hf⟩ <;> cases hf

/-- A loop that takes fewer steps than its budget stopped because the machine halted or a
step failed. -/
theorem stepWhile_short (h : (m.stepWhile b).steps < b) :
    (m.stepWhile b).machine.status = .halted ∨ (m.stepWhile b).failure.isSome := by
  have hc : (m.stepWhile b).report ≠ some .canceled := fun hc => by
    rw [stepWhile_steps_of_canceled hc] at h
    exact Nat.lt_irrefl b h
  unfold Stepped.report at hc
  split at hc
  · rename_i x hx
    simp [hx]
  · left
    by_contra hh
    simp [hh] at hc

/-! ## Running is the reference loop -/

theorem runSteps_eq_stepWhile (fuel taken : Nat) (m : Machine) :
    runSteps fuel taken m =
      (((m.stepWhile fuel).machine, (m.stepWhile fuel).report), taken + (m.stepWhile fuel).steps) := by
  induction fuel generalizing taken m with
  | zero =>
    by_cases hh : m.status = .halted <;> simp [runSteps, Stepped.report, hh]
  | succ fuel ih =>
    by_cases hh : m.status = .halted
    · simp [runSteps, stepWhile_halted hh, Stepped.report, hh]
    · rcases hs : m.step with ⟨m', _ | e⟩
      · rw [runSteps, stepWhile_succ_ok hh hs]
        simp only [hh, hs, beq_iff_eq, if_false, ih, report_steps]
        simp only [Prod.mk.injEq, true_and]
        omega
      · rw [runSteps, stepWhile_succ_fail hh hs]
        simp [hh, hs, Stepped.report]

/-- Setting a machine running before its step changes nothing: the step does it too. -/
theorem step_set_running (h : m.status ≠ .halted) :
    ({ m with status := .running } : Machine).step = m.step := by
  simp [step, h]

theorem stepWhile_set_running (h : m.status ≠ .halted) (b : Nat) :
    ({ m with status := .running } : Machine).stepWhile (b + 1) = m.stepWhile (b + 1) := by
  simp [stepWhile, step_set_running h, h]

/-- Running a machine that has not halted is the reference loop, but for the status it sets
before the first step: with no budget the machine is left running. The count returned is the
number of steps taken. -/
theorem run_eq_stepWhile (h : m.status ≠ .halted) (b : Nat) :
    m.run b = ((if b = 0 then { m with status := .running } else (m.stepWhile b).machine,
      (m.stepWhile b).report), ((m.stepWhile b).steps : Int)) := by
  unfold run
  simp only [h, beq_iff_eq, if_false, Int.toNat_natCast, runSteps_eq_stepWhile, zero_add]
  cases b with
  | zero => simp [Stepped.report, h]
  | succ b =>
    rw [stepWhile_set_running h]
    simp only [Nat.add_one_ne_zero, if_false]
    split
    · rename_i hc
      rw [stepWhile_steps_of_canceled hc]
    · rfl

end Machine

/-- What a run of ticks ends with, set against the reference loop: its emulator holds a
machine alike the loop's, and it reports what the loop reports, a failed step's failure
wrapped with a source line unless it is fatal. -/
structure Stepped.Ticked (r : Stepped) (e : Emulator) (err : Option Error) : Prop where
  machine : e.machine.Alike r.machine
  report : r.failure = none → err = r.report
  wrapped : ∀ x, r.failure = some x → ∃ L : Int, err = some (if x.isFatal then x else .runtime L x)

/-- The count of steps plays no part in what a run of ticks ends with. -/
theorem Stepped.Ticked.recount {r : Stepped} {e : Emulator} {err : Option Error}
    (h : r.Ticked e err) (n : Nat) : Stepped.Ticked { r with steps := n } e err :=
  ⟨h.machine, h.report, h.wrapped⟩

namespace Emulator

variable {e : Emulator} {m : Machine}

theorem collect_alike (e : Emulator) : (collect e).machine.Alike e.machine := by
  unfold collect
  dsimp only
  split
  · exact Machine.Alike.refl _
  · exact (Machine.alike_relog _ _ _).symm

/-- A tick of an emulator whose machine is alike a running machine `m` steps `m`: the machines
stay alike, the tick is done when the step halts, and a failure of the step is reported at the
source line of the instruction. -/
theorem tick_of_running (he : e.machine.Alike m) (hm : m.status ≠ .halted) :
    e.tick.1.machine.Alike m.step.1 ∧ e.tick.2.1 = (m.step.1.status == .halted) ∧
      e.tick.2.2 = m.step.2.map fun x => if x.isFatal then x else .runtime e.lineNo x := by
  have hstep := ((Machine.alike_relog e.machine e.verbose e.machine.journal).symm.trans he).step
  have hrun : e.machine.status ≠ .halted := he.status ▸ hm
  unfold tick
  simp only [hrun, beq_iff_eq, if_false]
  refine ⟨(collect_alike _).trans hstep.machine, ?_, ?_⟩
  · rw [hstep.machine.status]
  · rw [hstep.error]
    rfl

/-- Ticking with a budget is the reference loop: by induction on the budget, each tick of a
machine that has not halted taking one step of the loop. -/
theorem go_eq_stepWhile (b polls : Nat) (he : e.machine.Alike m) (hm : m.status ≠ .halted) :
    (m.stepWhile b).Ticked (run.go b polls e).1 (run.go b polls e).2.1 ∧
      (run.go b polls e).2.2 = polls + (m.stepWhile b).steps := by
  induction b generalizing polls e m with
  | zero =>
    refine ⟨⟨he, fun _ => ?_, fun _ hx => by cases hx⟩, rfl⟩
    simp [run.go, Stepped.report, hm]
  | succ b ih =>
    have ht := tick_of_running he hm
    rcases hs : m.step with ⟨m', _ | x⟩
    · rw [hs] at ht
      obtain ⟨hmach, hdone, herr⟩ := ht
      dsimp only at hmach hdone herr
      rw [Machine.stepWhile_succ_ok hm hs]
      dsimp only
      by_cases hh : m'.status = .halted
      · -- the step halts the machine and the run ends
        have hgo : run.go (b + 1) polls e = (e.tick.1, none, polls + 1) := by
          simp [run.go, hdone, herr, hh]
        rw [hgo, Machine.stepWhile_halted hh]
        exact ⟨⟨hmach, fun _ => by simp [Stepped.report, hh], fun _ hx => by cases hx⟩, rfl⟩
      · have hgo : run.go (b + 1) polls e = run.go b (polls + 1) e.tick.1 := by
          simp [run.go, hdone, herr, hh]
        obtain ⟨ht', hp⟩ := ih (polls + 1) hmach hh
        rw [hgo]
        exact ⟨ht'.recount _, by rw [hp]; omega⟩
    · -- the step fails and the run ends with its failure
      rw [hs] at ht
      obtain ⟨hmach, -, herr⟩ := ht
      dsimp only at hmach herr
      have hgo : run.go (b + 1) polls e = (e.tick.1, e.tick.2.2, polls + 1) := by
        simp [run.go, herr]
      rw [hgo, Machine.stepWhile_succ_fail hm hs]
      refine ⟨⟨hmach, (fun hx => by cases hx), fun y hy => ⟨e.lineNo, ?_⟩⟩, rfl⟩
      cases hy
      rw [herr]
      rfl

theorem run_eq_stepWhile (b : Nat) (he : e.machine.Alike m) (hm : m.status ≠ .halted) :
    (m.stepWhile b).Ticked (e.run b).1 (e.run b).2.1 ∧ (e.run b).2.2 = (m.stepWhile b).steps := by
  obtain ⟨ht, hp⟩ := go_eq_stepWhile b 0 he hm
  have hle := Machine.stepWhile_steps_le m b
  unfold run
  simp only [Int.toNat_natCast]
  refine ⟨ht, ?_⟩
  rw [hp]
  omega

end Emulator

/-! ## Running, ticking and stepping agree -/

/-- A machine that has not halted, run with a budget of `b` steps, and an emulator holding it,
run with the same budget, both behave as the reference loop `m.stepWhile b`. The loop takes
all `b` steps unless the machine halts or a step fails first. Running gives the loop's machine
(set running even with no budget) and report: nothing once halted, a spent budget, or the
failure of the last step, which is a fault or a fatal access. The emulator's machine is alike
the loop's, it polls once per step, and it reports the same, a fault wrapped with the source
line of its instruction. -/
theorem runs_agree_with_stepping (m : Machine) (hm : m.status ≠ .halted) (b : Nat)
    (e : Emulator) (he : e.machine = m) :
    let r := m.stepWhile b
    (r.steps ≤ b ∧ (r.steps < b → r.machine.status = .halted ∨ r.failure.isSome)) ∧
      m.run b = ((if b = 0 then { m with status := .running } else r.machine, r.report),
        (r.steps : Int)) ∧
      r.Ticked (e.run b).1 (e.run b).2.1 ∧ (e.run b).2.2 = r.steps ∧
      ∀ x, r.failure = some x → x.isFatal = true ∨ ∃ ip w c, x = .fault ip w c := by
  intro r
  have hal : e.machine.Alike m := by
    rw [he]
    exact Machine.Alike.refl m
  obtain ⟨hticked, hpolls⟩ := Emulator.run_eq_stepWhile b hal hm
  exact ⟨⟨Machine.stepWhile_steps_le m b, Machine.stepWhile_short⟩,
    Machine.run_eq_stepWhile hm b, hticked, hpolls, fun _ hx => Machine.stepWhile_failure hx⟩

/-- A machine of three words, input, output and halt, with no device to read from. -/
theorem fresh_machine_runs_agree :
    let m : Machine := { memory := #[901, 902, 0], sp := 3, rap := 2 }
    let e : Emulator := { machine := m, program := { statements := #[], size := 3 } }
    m.status ≠ .halted ∧ e.machine = m ∧
      let r := m.stepWhile 3
      (r.steps ≤ 3 ∧ (r.steps < 3 → r.machine.status = .halted ∨ r.failure.isSome)) ∧
        m.run 3 = ((if 3 = 0 then { m with status := .running } else r.machine, r.report),
          (r.steps : Int)) ∧
        r.Ticked (e.run 3).1 (e.run 3).2.1 ∧ (e.run 3).2.2 = r.steps ∧
        ∀ x, r.failure = some x → x.isFatal = true ∨ ∃ ip w c, x = .fault ip w c :=
  ⟨by decide, rfl, runs_agree_with_stepping _ (by decide) 3 _ rfl⟩

end DecimalMachine
