import Mathlib
import DecimalMachine.Proofs.StackLayout

/-!
# Memory accesses stay inside memory

Reads are guarded everywhere: a read outside memory gives 0 and the fetch checks the program
counter first. Writes are not: `Machine.write` outside memory is the fatal `outOfBounds`, an
index out of range. Only three operations write: `STA`, whose address is the operand modulo
100, always inside a memory of at least `minMemory` words; a push, at `sp - 1`; and a return
push, at `rap + 1`.

A push checks `rap < sp - 1` and `sp - 1` below the top of memory, but nothing below 0; a return
push checks `rap + 1 < sp`, and a call makes it only after a pop has left `sp` inside memory.
So the one register that matters is `rap`:

* `Machine.Guarded`: at least `minMemory` words and `-1 ≤ rap`. Every operation keeps it, and
  reaches no word outside memory (`Outcome.Safe`), whatever the other registers hold: the
  data stack pointer may lie anywhere, above memory or below 0.
* `push_outside_memory`: with `rap` further down, a push at `sp ≤ 0` writes below memory.
-/

namespace DecimalMachine

namespace Machine

variable {m m' : Machine}

/-- Registers from which no memory access leaves memory: at least `minMemory` words, and the
return stack pointer not below -1. The fault on record, reported again by a run of a halted
machine, is no access outside memory either. -/
structure Guarded (m : Machine) : Prop where
  roomy : minMemory ≤ m.size
  rap_ge : -1 ≤ m.rap
  err_safe : ∀ e ∈ m.err, e.isFatal = false

theorem Guarded.congr (h : m.Guarded) (hsize : m'.size = m.size) (hrap : m'.rap = m.rap)
    (herr : m'.err = m.err) : m'.Guarded :=
  ⟨hsize ▸ h.roomy, hrap ▸ h.rap_ge, herr ▸ h.err_safe⟩

theorem Guarded.setAcc (h : m.Guarded) (a : Int) : ({ m with acc := a } : Machine).Guarded :=
  h.congr rfl rfl rfl

theorem Guarded.bounds (h : m.Guarded) : 200 ≤ (m.size : Int) ∧ -1 ≤ m.rap := by
  have := h.roomy
  simp only [minMemory] at this
  exact ⟨by omega, h.rap_ge⟩

end Machine

/-- An outcome that reached no word outside memory and leaves a guarded machine. -/
structure Outcome.Safe (o : Outcome) : Prop where
  guarded : o.1.Guarded
  not_fatal : ∀ e ∈ o.2, e.isFatal = false

namespace Outcome

variable {m : Machine}

theorem safe_none (h : m.Guarded) : Outcome.Safe (m, none) :=
  ⟨h, by simp⟩

theorem safe_some (h : m.Guarded) {e : Error} (he : e.isFatal = false) :
    Outcome.Safe (m, some e) :=
  ⟨h, fun e' he' => by simp only [Option.mem_def, Option.some.injEq] at he'; exact he' ▸ he⟩

theorem Safe.andThen {o : Outcome} {f : Machine → Outcome} (ho : o.Safe)
    (hf : ∀ m', m'.Guarded → (f m').Safe) : (o.andThen f).Safe := by
  obtain ⟨m', _ | e⟩ := o
  · exact hf m' ho.guarded
  · exact ho

end Outcome

namespace Machine

open Outcome

variable {m : Machine}

/-! ## The writes -/

theorem Guarded.write (h : m.Guarded) {a : Int} (h0 : 0 ≤ a) (ha : a < m.size) (v : Int) :
    (m.write a v).Safe := by
  rw [write_of_lt v h0 ha]
  exact safe_none (h.congr (by simp [size]) rfl rfl)

/-- A push writes above `rap`, so at an address of at least 0. -/
theorem Guarded.push (h : m.Guarded) : m.push.Safe := by
  unfold Machine.push
  split
  · exact safe_some h rfl
  · rename_i hguard
    have hb := h.bounds
    simp only [stackBase, not_or, not_le] at hguard
    exact (h.write (by omega) (by omega) _).andThen fun _ h' => safe_none (h'.congr rfl rfl rfl)

/-- A return push writes below `sp`, so inside memory when `sp` is. -/
theorem Guarded.pushReturn (h : m.Guarded) (hsp : m.sp ≤ m.size) (ip : Int) :
    (m.pushReturn ip).Safe := by
  unfold Machine.pushReturn
  split
  · exact safe_some h rfl
  · rename_i hguard
    have hb := h.bounds
    simp only [returnBase, returnOffset, not_or, not_le] at hguard
    exact (h.write (by omega) (by omega) _).andThen fun _ h' =>
      safe_none ⟨h'.roomy, by dsimp only; omega, h'.err_safe⟩

/-! ## The other stack moves and the compound operations -/

theorem Guarded.pop (h : m.Guarded) : m.pop.Safe := by
  unfold Machine.pop
  split
  · exact safe_some h rfl
  · exact safe_none (h.congr rfl rfl rfl)

theorem Guarded.popReturn (h : m.Guarded) : m.popReturn.Safe := by
  unfold Machine.popReturn
  split
  · exact safe_some h rfl
  · rename_i hguard
    have hb := h.bounds
    simp only [returnBase, returnOffset, not_or, not_le] at hguard
    exact safe_none ⟨h.roomy, by dsimp only; omega, h.err_safe⟩

theorem Guarded.scratch {f : Machine → Outcome} (hf : (f m).Safe) : (m.scratch f).Safe :=
  ⟨hf.guarded.congr rfl rfl rfl, hf.not_fatal⟩

theorem Guarded.dup (h : m.Guarded) : m.dup.Safe :=
  Guarded.scratch (h.pop.andThen fun _ h1 => h1.push.andThen fun _ h2 => h2.push)

theorem Guarded.drop (h : m.Guarded) : m.drop.Safe :=
  Guarded.scratch h.pop

theorem Guarded.swap (h : m.Guarded) : m.swap.Safe :=
  Guarded.scratch (h.pop.andThen fun _ h1 => h1.pop.andThen fun _ h2 =>
    (h2.setAcc _).push.andThen fun _ h3 => (h3.setAcc _).push)

/-- Combining the two top elements fails, if at all, with the failure of the combination. -/
theorem Guarded.combine (h : m.Guarded) {f : Int → Int → Except Error Int}
    (hf : ∀ l r e, f l r = .error e → e.isFatal = false) : (m.combine f).Safe := by
  refine Guarded.scratch (h.pop.andThen fun _ h1 => h1.pop.andThen fun m2 h2 => ?_)
  dsimp only
  split
  · rename_i e he
    exact safe_some h2 (hf _ _ e he)
  · exact (h2.setAcc _).push

/-- A call pushes its return address only after its pop, which leaves `sp` inside memory. -/
theorem Guarded.call (h : m.Guarded) : m.call.Safe := by
  unfold Machine.call
  apply Guarded.scratch
  unfold Machine.pop
  split
  · exact safe_some h rfl
  · rename_i hguard
    simp only [stackBase, not_or, not_le] at hguard
    have h1 : ({ m with acc := m.read m.sp, sp := m.sp + 1 } : Machine).Guarded :=
      h.congr rfl rfl rfl
    have hpush := h1.pushReturn (by simp only [size] at hguard ⊢; omega) m.pc
    simp only [Outcome.andThen]
    split
    · rename_i m2 e hres
      rw [hres] at hpush
      refine safe_some ?_ (hpush.not_fatal e rfl)
      exact hpush.guarded.congr rfl rfl rfl
    · rename_i m2 hres
      rw [hres] at hpush
      exact safe_none (hpush.guarded.congr rfl rfl rfl)

/-! ## Instructions, steps and runs -/

theorem Guarded.note (h : m.Guarded) (line : String) : (m.note line).Guarded := by
  obtain ⟨j, hj⟩ := exists_note_eq m line
  rw [hj]
  exact h.congr rfl rfl rfl

theorem Guarded.readInput (h : m.Guarded) : m.readInput.Safe := by
  unfold Machine.readInput
  split
  · exact safe_some h rfl
  · split
    · exact safe_none (h.congr rfl rfl rfl)
    · refine safe_some ?_ rfl
      exact h.congr rfl rfl rfl

/-- Output touches no memory, and a broken writer's failure is no access outside it. -/
theorem Guarded.writeOutput (h : m.Guarded) : m.writeOutput.Safe := by
  obtain ⟨d, j, f, heq, hf⟩ := exists_writeOutput_eq m
  rw [heq]
  rcases hf with rfl | ⟨msg, rfl⟩
  · exact safe_none (h.congr rfl rfl rfl)
  · exact ⟨h.congr rfl rfl rfl, by simp [Error.isFatal]⟩

theorem Guarded.executeOp (h : m.Guarded) (op : Op) (arg : Int) : (m.executeOp op arg).Safe := by
  have hb := h.bounds
  cases op with
  | halt | add | sub | loadImmediate | load | branch => exact safe_none (h.congr rfl rfl rfl)
  | branchZero | branchPositive =>
    dsimp only [Machine.executeOp]
    split <;> exact safe_none (h.congr rfl rfl rfl)
  | store =>
    -- the address is the operand modulo 100, below the smallest memory
    have h0 : 0 ≤ arg % 100 := Int.emod_nonneg arg (by decide)
    have h1 : arg % 100 < 100 := Int.emod_lt_of_pos arg (by decide)
    exact h.write h0 (by omega) _
  | input => exact h.readInput
  | output => exact h.writeOutput
  | call => exact h.call
  | ret => exact h.popReturn
  | push => exact h.push
  | pop => exact h.pop
  | dup => exact h.dup
  | drop => exact h.drop
  | swap => exact h.swap
  | stackAdd | stackSub | stackMul | stackMax | stackMin =>
    dsimp only [Machine.executeOp]
    refine h.combine fun _ _ _ he => ?_
    simp at he
  | stackDiv =>
    refine h.combine fun _ _ e he => ?_
    unfold stackQuotient at he
    split at he
    · simp only [Except.error.injEq] at he
      rw [← he]
      rfl
    · simp at he

theorem Guarded.execute (h : m.Guarded) (w : Int) : (m.execute w).Safe := by
  unfold Machine.execute
  split
  · exact safe_some h rfl
  · exact (h.note _).executeOp _ _

theorem Guarded.fault (h : m.Guarded) (ip w : Int) {e : Error} (he : e.isFatal = false) :
    (m.fault ip w e).Safe := by
  unfold Machine.fault
  rw [if_neg (by simp [he])]
  -- the fault recorded is no access outside memory
  have hf : ({ m with err := some (Error.fault ip w e), status := .halted } : Machine).Guarded :=
    ⟨h.roomy, h.rap_ge, fun e' he' => by
      simp only [Option.mem_def, Option.some.injEq] at he'
      rw [← he']
      rfl⟩
  exact safe_some (hf.note _) rfl

theorem Guarded.step (h : m.Guarded) : m.step.Safe := by
  unfold Machine.step
  split
  · exact safe_none h
  · dsimp only
    split
    · refine Guarded.fault ?_ _ _ (by rfl)
      exact h.congr rfl rfl rfl
    · -- the fetched word runs on the machine with its fetch recorded
      rename_i w _
      have hexec := Guarded.execute (m := { m with
        status := .running, ir := w, pc := m.pc + 1, ticks := m.ticks + 1 }) (h.congr rfl rfl rfl) w
      split
      · refine safe_none ?_
        exact hexec.guarded.congr rfl rfl rfl
      · rename_i e he
        refine Guarded.fault ?_ _ _ (hexec.not_fatal e he)
        exact hexec.guarded.congr rfl rfl rfl

theorem Guarded.runSteps (h : m.Guarded) (fuel taken : Nat) : (runSteps fuel taken m).1.Safe := by
  induction fuel generalizing taken m with
  | zero =>
    unfold Machine.runSteps
    split
    · exact safe_none h
    · exact safe_some h rfl
  | succ fuel ih =>
    unfold Machine.runSteps
    split
    · exact safe_none h
    · have hstep := h.step
      dsimp only
      split
      · rename_i hs
        rw [hs] at hstep
        exact hstep
      · rename_i hs
        rw [hs] at hstep
        exact ih hstep.guarded _

theorem Guarded.run (h : m.Guarded) (budget : Int) : (m.run budget).1.Safe := by
  unfold Machine.run
  split
  · exact ⟨h, h.err_safe⟩
  · dsimp only
    split <;> exact Guarded.runSteps (m := { m with status := .running }) (h.congr rfl rfl rfl) _ _

/-! ## Below memory -/

/-- A push checks no lower bound of its own: with `sp` at or below 0 and `rap` below the word
it would write, that word lies below memory. -/
theorem push_outside_memory (hsp : m.sp ≤ 0) (hrap : m.rap < m.sp - 1) (arg : Int) :
    (m.executeOp .push arg).2 = some (.outOfBounds (m.sp - 1) m.size) := by
  have hguard : ¬(m.sp - 1 ≤ m.rap ∨ m.stackBase ≤ m.sp - 1) := by
    simp only [stackBase]
    omega
  have hwrite : m.write (m.sp - 1) m.acc = (m, some (.outOfBounds (m.sp - 1) m.size)) := by
    rw [write, if_neg (by omega)]
  simp only [executeOp, Machine.push, if_neg hguard, hwrite, Outcome.andThen]

end Machine

/-- Memory safety. From every machine with at least `minMemory` words and `rap` not below -1,
whatever the data stack pointer, the other registers and memory hold (and with no access
outside memory on record as its fault), every operation, every executed word, a step and a run
reach memory only inside it and leave such a machine. Below that bound a push at `sp ≤ 0`
writes outside memory (`Machine.push_outside_memory`). -/
theorem memory_access_within_bounds (m : Machine) (h : m.Guarded) :
    (∀ op arg, (m.executeOp op arg).Safe) ∧ (∀ w, (m.execute w).Safe) ∧ m.step.Safe ∧
      ∀ budget, (m.run budget).1.Safe :=
  ⟨h.executeOp, h.execute, h.step, h.run⟩

/-- A push on a fresh machine of 200 words stays inside memory. -/
theorem push_on_fresh_machine_inside_memory :
    (({ memory := Array.replicate 200 0, sp := 200, rap := 99 } : Machine).executeOp .push 0).Safe :=
  (memory_access_within_bounds _ ⟨by simp [Machine.size, minMemory], by decide, by simp⟩).1 .push 0

/-- The index a push at `sp` 0 with `rap` -5 reaches in a memory of 200 words: -1, outside
memory. -/
theorem push_at_zero_outside_memory :
    (({ memory := Array.replicate 200 0, sp := 0, rap := -5 } : Machine).executeOp .push 0).2 =
      some (.outOfBounds (-1) 200) := by
  simp [Machine.executeOp, Machine.push, Machine.write, Machine.stackBase, Machine.size,
    Outcome.andThen]

end DecimalMachine
