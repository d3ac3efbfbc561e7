import Mathlib
import DecimalMachine.Proofs.StackRefinement
import DecimalMachine.Proofs.Reassembly
import DecimalMachine.Proofs.Stepping

/-!
# Arithmetic stays exact under clamping

Registers hold signed 64-bit values and the accumulator arithmetic wraps (`wrap`); a step then
clamps the accumulator to `[-999, 999]`. Whether the clamp sees the exact result depends on
what memory can hold: a word near `2 ^ 32` would make `SMUL` wrap before the clamp.

What can reach memory is small. `STA` and the pushes store the accumulator, clamped at every
step boundary, or a word already in memory; a binary stack instruction pushes its clamped
result; `JAL` stores a return address, at most the memory size. So with `n` words of memory
every word stays within `wordBound n = max 999 n`, as long as what is loaded does.

* **`Machine.Within`** — memory, accumulator and program counter in `[-b, b]`: what holds in
  the middle of a step, between the moves of a compound instruction. Every stack move and
  every compound instruction keeps it.
* **`Machine.Clamped`** — the invariant at step boundaries: the accumulator clamped and every
  word within `wordBound n`. A step keeps it whatever it does, faults included; so do runs,
  resets, loads of programs within the bound and changes of device.
* **exactness** — from `Clamped`, with `n < 2 ^ 31`, the sums, differences and products of
  `ADD`, `SUB`, `SADD`, `SSUB` and `SMUL` fit a signed 64-bit word, so the wrap is the
  identity and each step leaves the clamp of the exact result (`Machine.ArithmeticExact`).
* **`clamped_arithmetic_exact`** — all of it for every run of a fresh machine, together with
  the fact that an assembly for `n` words produces only words within the bound.
-/

namespace DecimalMachine

/-- The bound on the words of a machine with `n` words of memory: every value a step stores
is an accumulator value, clamped to `999`, or a return address, at most `n`. -/
def wordBound (n : Nat) : Int :=
  max accMax n

theorem accMax_le_wordBound (n : Nat) : accMax ≤ wordBound n :=
  le_max_left _ _

theorem size_le_wordBound (n : Nat) : (n : Int) ≤ wordBound n :=
  le_max_right _ _

theorem clamp_mem {b : Int} (hb : accMax ≤ b) (x : Int) : clamp x ∈ Set.Icc (-b) b := by
  simp only [clamp, accMin, accMax, Set.mem_Icc] at hb ⊢
  omega

theorem clamp_mem_acc (x : Int) : clamp x ∈ Set.Icc accMin accMax := by
  simp only [clamp, accMin, accMax, Set.mem_Icc]
  omega

namespace Machine

variable {m m' : Machine} {b : Int}

/-- Memory, the accumulator and the program counter lie in `[-b, b]`. -/
structure Within (m : Machine) (b : Int) : Prop where
  memory : ∀ w ∈ m.memory, w ∈ Set.Icc (-b) b
  acc : m.acc ∈ Set.Icc (-b) b
  pc : m.pc ∈ Set.Icc (-b) b

theorem Within.congr (h : m.Within b) (hmem : m'.memory = m.memory) (hacc : m'.acc = m.acc)
    (hpc : m'.pc = m.pc) : m'.Within b :=
  ⟨hmem ▸ h.memory, hacc ▸ h.acc, hpc ▸ h.pc⟩

theorem Within.setAcc (h : m.Within b) {a : Int} (ha : a ∈ Set.Icc (-b) b) :
    ({ m with acc := a } : Machine).Within b :=
  ⟨h.memory, ha, h.pc⟩

theorem Within.nonneg (h : m.Within b) : 0 ≤ b := by
  have := h.acc
  simp only [Set.mem_Icc] at this
  omega

/-- A read gives a word of memory, or zero outside it. -/
theorem read_mem (hmem : ∀ w ∈ m.memory, w ∈ Set.Icc (-b) b) (hb : 0 ≤ b) (a : Int) :
    m.read a ∈ Set.Icc (-b) b := by
  unfold Machine.read Machine.read?
  split
  · simp only [Option.getD_none, Set.mem_Icc]
    omega
  · cases hw : m.memory[a.toNat]? with
    | none => simp only [Option.getD_none, Set.mem_Icc]; omega
    | some w => exact hmem w (Array.mem_of_getElem? hw)

theorem Within.read (h : m.Within b) (a : Int) : m.read a ∈ Set.Icc (-b) b :=
  read_mem h.memory h.nonneg a

theorem Within.write (h : m.Within b) (a : Int) {v : Int} (hv : v ∈ Set.Icc (-b) b) :
    (m.write a v).1.Within b := by
  unfold Machine.write
  split
  · refine ⟨fun w hw => ?_, h.acc, h.pc⟩
    rcases Array.mem_or_eq_of_mem_setIfInBounds hw with hw | rfl
    · exact h.memory w hw
    · exact hv
  · exact h

theorem Within.andThen {o : Outcome} {f : Machine → Outcome} (ho : o.1.Within b)
    (hf : ∀ m', m'.Within b → (f m').1.Within b) : (o.andThen f).1.Within b := by
  obtain ⟨m', _ | e⟩ := o
  · exact hf m' ho
  · exact ho

/-! ## The stack moves and the compound instructions -/

theorem Within.push (h : m.Within b) : m.push.1.Within b := by
  unfold Machine.push
  split
  · exact h
  · exact (h.write _ h.acc).andThen fun _ h' => h'.congr rfl rfl rfl

theorem Within.pop (h : m.Within b) : m.pop.1.Within b := by
  unfold Machine.pop
  split
  · exact h
  · exact ⟨h.memory, h.read _, h.pc⟩

theorem Within.pushReturn (h : m.Within b) {ip : Int} (hip : ip ∈ Set.Icc (-b) b) :
    (m.pushReturn ip).1.Within b := by
  unfold Machine.pushReturn
  split
  · exact h
  · exact (h.write _ hip).andThen fun _ h' => h'.congr rfl rfl rfl

theorem Within.popReturn (h : m.Within b) : m.popReturn.1.Within b := by
  unfold Machine.popReturn
  split
  · exact h
  · exact ⟨h.memory, h.acc, h.read _⟩

theorem Within.scratch {f : Machine → Outcome} (h : m.Within b) (hf : (f m).1.Within b) :
    (m.scratch f).1.Within b :=
  hf.setAcc h.acc

theorem Within.dup (h : m.Within b) : m.dup.1.Within b :=
  h.scratch (h.pop.andThen fun _ h1 => h1.push.andThen fun _ h2 => h2.push)

theorem Within.drop (h : m.Within b) : m.drop.1.Within b :=
  h.scratch h.pop

/-- The values `SSWAP` pushes back are the two it popped, so words of memory. -/
theorem Within.swap (h : m.Within b) : m.swap.1.Within b :=
  h.scratch (h.pop.andThen fun _ h1 => h1.pop.andThen fun _ h2 =>
    (h2.setAcc h1.acc).push.andThen fun _ h3 => (h3.setAcc h2.acc).push)

/-- A binary stack instruction pushes a clamped value, whatever its arithmetic computes. -/
theorem Within.combine (h : m.Within b) (hb : accMax ≤ b) (f : Int → Int → Except Error Int) :
    (m.combine f).1.Within b := by
  refine h.scratch (h.pop.andThen fun _ h1 => h1.pop.andThen fun m2 h2 => ?_)
  dsimp only
  split
  · exact h2
  · exact (h2.setAcc (clamp_mem hb _)).push

/-- `JAL` pushes the program counter and jumps to a popped word. -/
theorem Within.call (h : m.Within b) : m.call.1.Within b := by
  refine h.scratch (h.pop.andThen fun m1 h1 => ?_)
  dsimp only
  -- the return address is the program counter, within the bound
  have h2 := h1.pushReturn h1.pc
  split
  · rename_i m2 e hres
    rw [hres] at h2
    exact h2.congr rfl rfl rfl
  · -- the jump target is the popped word, now in the accumulator
    rename_i m2 hres
    rw [hres] at h2
    exact ⟨h2.memory, h2.acc, h1.acc⟩

/-! ## Instructions

Only the accumulator can leave the bound inside an instruction: `ADD` and `SUB` wrap a sum,
`INP` reads any value and `LDI` loads its operand. Memory never does. -/

theorem Within.note (h : m.Within b) (line : String) : (m.note line).Within b := by
  obtain ⟨j, hj⟩ := exists_note_eq m line
  rw [hj]
  exact h.congr rfl rfl rfl

theorem readInput_memory (m : Machine) : m.readInput.1.memory = m.memory := by
  unfold Machine.readInput
  split
  · rfl
  · split <;> rfl

theorem Within.executeOp (h : m.Within b) (hb : accMax ≤ b) (op : Op) (arg : Int) :
    ∀ w ∈ (m.executeOp op arg).1.memory, w ∈ Set.Icc (-b) b := by
  cases op with
  | halt | add | sub | loadImmediate | load | branch | output => exact h.memory
  | branchZero | branchPositive =>
    dsimp only [Machine.executeOp]
    split <;> exact h.memory
  | store => exact (h.write _ h.acc).memory
  | input =>
    simp only [Machine.executeOp, readInput_memory]
    exact h.memory
  | call => exact h.call.memory
  | ret => exact h.popReturn.memory
  | push => exact h.push.memory
  | pop => exact h.pop.memory
  | dup => exact h.dup.memory
  | drop => exact h.drop.memory
  | swap => exact h.swap.memory
  | stackAdd | stackSub | stackMul | stackDiv | stackMax | stackMin =>
    exact (h.combine hb _).memory

theorem Within.execute (h : m.Within b) (hb : accMax ≤ b) (w : Int) :
    ∀ x ∈ (m.execute w).1.memory, x ∈ Set.Icc (-b) b := by
  unfold Machine.execute
  split
  · exact h.memory
  · exact (h.note _).executeOp hb _ _

/-! ## Step boundaries -/

variable {n : Nat}

/-- The invariant at a step boundary of a machine with `n` words: the accumulator is clamped
and every word of memory lies within `wordBound n`. -/
structure Clamped (m : Machine) (n : Nat) : Prop where
  acc : m.acc ∈ Set.Icc accMin accMax
  memory : ∀ w ∈ m.memory, w ∈ Set.Icc (-wordBound n) (wordBound n)

theorem Clamped.congr (h : m.Clamped n) (hmem : m'.memory = m.memory) (hacc : m'.acc = m.acc) :
    m'.Clamped n :=
  ⟨hacc ▸ h.acc, hmem ▸ h.memory⟩

theorem Clamped.acc_mem (h : m.Clamped n) : m.acc ∈ Set.Icc (-wordBound n) (wordBound n) := by
  have hacc := h.acc
  have hb := accMax_le_wordBound n
  simp only [accMin, accMax, Set.mem_Icc] at hacc hb ⊢
  omega

theorem Clamped.read (h : m.Clamped n) (a : Int) : m.read a ∈ Set.Icc (-wordBound n) (wordBound n) :=
  read_mem h.memory (le_trans (by decide) (accMax_le_wordBound n)) a

theorem Clamped.within (h : m.Clamped n) (hpc : m.pc ∈ Set.Icc (-wordBound n) (wordBound n)) :
    m.Within (wordBound n) :=
  ⟨h.memory, h.acc_mem, hpc⟩

theorem clamped_of_memory (hmem : ∀ w ∈ m.memory, w ∈ Set.Icc (-wordBound n) (wordBound n)) :
    ({ m with acc := clamp m.acc } : Machine).Clamped n :=
  ⟨clamp_mem_acc _, hmem⟩

theorem Clamped.fault (h : m.Clamped n) (ip w : Int) (e : Error) : (m.fault ip w e).1.Clamped n := by
  obtain ⟨x, st, j, hf⟩ := exists_fault_eq m ip w e
  rw [hf]
  exact h.congr rfl rfl

/-- After a fetch the program counter lies just past a word of memory, so within the bound;
whatever the fetched word then does, memory stays within it. -/
theorem Clamped.execute_fetched (hl : m.Layout n) (h : m.Clamped n) {w : Int}
    (hw : m.read? m.pc = some w) {x : Option Error} (hx : (m.fetched w).execute w = (m', x)) :
    ∀ y ∈ m'.memory, y ∈ Set.Icc (-wordBound n) (wordBound n) := by
  -- the fetch moves the program counter to at most the memory size, within the bound
  have hpc := lt_size_of_read? hw
  have hsize := hl.size_eq
  have hbound := size_le_wordBound n
  have hwithin := Clamped.within (m := m.fetched w) (h.congr rfl rfl)
    (by simp only [fetched, size, Set.mem_Icc] at hpc hsize ⊢; omega)
  have hmem := hwithin.execute (accMax_le_wordBound n) w
  rw [hx] at hmem
  exact hmem

/-- The step lemma: a step leaves a clamped machine clamped, whether it halts, faults on the
address, completes its instruction or faults on it. -/
theorem Clamped.step (hl : m.Layout n) (h : m.Clamped n) : m.step.1.Clamped n := by
  rcases step_cases m with ⟨-, hst⟩ | ⟨-, -, hst⟩ | ⟨w, m', -, hw, hx, hst⟩ |
    ⟨w, m', c, -, hw, hx, hst⟩
  · rw [hst]
    exact h
  · -- the fault on a bad address fetches nothing and touches neither memory nor accumulator
    rw [hst]
    apply Clamped.fault
    exact h.congr rfl rfl
  · -- the word keeps memory within the bound, and the step clamps the accumulator
    rw [hst]
    exact clamped_of_memory (h.execute_fetched hl hw hx)
  · -- the fault that follows touches neither memory nor the clamped accumulator
    rw [hst]
    exact (clamped_of_memory (h.execute_fetched hl hw hx)).fault _ _ _

/-! ## Runs, resets and loads -/

theorem mem_of_mem_extract {a : Array Int} {i j : Nat} {x : Int} (h : x ∈ a.extract i j) : x ∈ a := by
  rw [← Array.mem_toList_iff, Array.toList_extract, List.extract_eq_take_drop] at h
  exact Array.mem_toList_iff.mp (List.mem_of_mem_drop (List.mem_of_mem_take h))

theorem Clamped.run (hl : m.Layout n) (h : m.Clamped n) (budget : Int) :
    (m.run budget).1.1.Clamped n :=
  (run_induction (P := fun m => m.Layout n ∧ m.Clamped n)
    (fun _ hm => ⟨hm.1.congr rfl rfl rfl, hm.2.congr rfl rfl⟩)
    (fun _ hm => ⟨hm.1.step, hm.2.step hm.1⟩) ⟨hl, h⟩ budget).2

theorem zero_mem_wordBound (n : Nat) : (0 : Int) ∈ Set.Icc (-wordBound n) (wordBound n) := by
  have hb := accMax_le_wordBound n
  simp only [accMax, Set.mem_Icc] at hb ⊢
  omega

theorem clamped_reset (m : Machine) : m.reset.Clamped n := by
  refine ⟨by simp [reset, accMin, accMax], fun w hw => ?_⟩
  simp only [reset] at hw
  rw [(Array.mem_replicate.mp hw).2]
  exact zero_mem_wordBound n

/-- A load keeps the invariant when the program's words lie within the bound: the rest of
memory keeps its words. -/
theorem Clamped.load (h : m.Clamped n) {program : Array Int}
    (hp : ∀ w ∈ program, w ∈ Set.Icc (-wordBound n) (wordBound n)) (hload : m.load program = .ok m') :
    m'.Clamped n := by
  obtain ⟨rfl, -⟩ := load_eq_ok hload
  refine ⟨h.acc, fun w hw => ?_⟩
  rcases Array.mem_append.mp hw with hw | hw
  · exact hp w hw
  · exact h.memory w (mem_of_mem_extract hw)

theorem clamped_create (hm : create (n : Int) = .ok m) : m.Clamped n := by
  unfold Machine.create at hm
  split at hm
  · cases hm
  · cases hm
    refine ⟨by simp [accMin, accMax], fun w hw => ?_⟩
    rw [(Array.mem_replicate.mp hw).2]
    exact zero_mem_wordBound n

end Machine

/-- Whether a request drives the machine through steps only, loading words within `b`: a
reset, a load of such a program, a change of device, a step or a run. Executing a word or an
operation from outside is no step and leaves the accumulator unclamped. -/
def Request.Stepping (b : Int) : Request → Prop
  | .reset => True
  | .load program => ∀ w ∈ program, w ∈ Set.Icc (-b) b
  | .attach _ => True
  | .step => True
  | .run _ => True
  | .execute _ => False
  | .executeOp _ _ => False

instance (b : Int) : DecidablePred (Request.Stepping b)
  | .reset => isTrue trivial
  | .load program => decidable_of_iff (∀ w ∈ program, -b ≤ w ∧ w ≤ b) Iff.rfl
  | .attach _ => isTrue trivial
  | .step => isTrue trivial
  | .run _ => isTrue trivial
  | .execute _ => isFalse id
  | .executeOp _ _ => isFalse id

namespace Machine

variable {m : Machine} {n : Nat}

theorem Clamped.serve (hl : m.Layout n) (h : m.Clamped n) {r : Request}
    (hr : r.Stepping (wordBound n)) : (m.serve r).Clamped n := by
  cases r with
  | reset => exact clamped_reset m
  | load program =>
    simp only [Machine.serve]
    split
    · rename_i hload
      exact h.load hr hload
    · -- a refused load leaves the machine as it was
      exact h
  | attach device => exact h.congr rfl rfl
  | step => exact h.step hl
  | run budget => exact h.run hl budget
  | execute w => exact hr.elim
  | executeOp k arg => exact hr.elim

/-- The run lemma: every sequence of stepping requests keeps the invariant. -/
theorem Clamped.serveAll (hl : m.Layout n) (h : m.Clamped n) {rs : List Request}
    (hrs : ∀ r ∈ rs, r.Stepping (wordBound n)) : (rs.foldl Machine.serve m).Clamped n := by
  induction rs generalizing m with
  | nil => exact h
  | cons r rs ih =>
    exact ih (hl.serve r) (h.serve hl (hrs r (List.mem_cons_self ..)))
      fun r' hr' => hrs r' (List.mem_cons_of_mem _ hr')

end Machine

/-! ## Exact arithmetic

The five instructions that add, subtract or multiply, with the exact integer operation each
performs before the machine wraps and clamps: `ADD` and `SUB` on the accumulator and the
addressed word, `SADD`, `SSUB` and `SMUL` on the value below the top of the stack and the
top. -/

/-- The integers a signed 64-bit register holds. -/
def signedWords : Set Int :=
  Set.Ico (-2 ^ 63) (2 ^ 63)

theorem wrap_of_mem_signedWords {x : Int} (h : x ∈ signedWords) : wrap x = x := by
  simp only [signedWords, Set.mem_Ico] at h
  exact Machine.wrap_eq_self (by omega) (by omega)

/-- Values within a bound below `2 ^ 31` add, subtract and multiply inside a signed 64-bit
word: a product is at most `2 ^ 62`. -/
theorem arith_mem_signedWords {b l r : Int} (hb : b < 2 ^ 31) (hl : l ∈ Set.Icc (-b) b)
    (hr : r ∈ Set.Icc (-b) b) :
    l + r ∈ signedWords ∧ l - r ∈ signedWords ∧ l * r ∈ signedWords := by
  simp only [signedWords, Set.mem_Icc, Set.mem_Ico] at hl hr ⊢
  obtain ⟨hl0, hl1⟩ := hl
  obtain ⟨hr0, hr1⟩ := hr
  refine ⟨⟨by omega, by omega⟩, ⟨by omega, by omega⟩, ⟨by nlinarith, by nlinarith⟩⟩

/-- The exact integer operation of `ADD` and `SUB`, on the accumulator and the addressed
word. -/
def Op.accumulatorArith? : Op → Option (Int → Int → Int)
  | .add => some (· + ·)
  | .sub => some (· - ·)
  | _ => none

/-- The exact integer operation of `SADD`, `SSUB` and `SMUL`, on the value below the top of
the stack and the top. -/
def Op.stackArith? : Op → Option (Int → Int → Int)
  | .stackAdd => some (· + ·)
  | .stackSub => some (· - ·)
  | .stackMul => some (· * ·)
  | _ => none

namespace Op

variable {op : Op} {f : Int → Int → Int}

theorem accumulatorArith?_mem (hf : op.accumulatorArith? = some f) {b l r : Int}
    (hb : b < 2 ^ 31) (hl : l ∈ Set.Icc (-b) b) (hr : r ∈ Set.Icc (-b) b) :
    f l r ∈ signedWords := by
  have hmem := arith_mem_signedWords hb hl hr
  cases op <;> simp only [accumulatorArith?, reduceCtorEq, Option.some.injEq] at hf
  · exact hf ▸ hmem.1
  · exact hf ▸ hmem.2.1

theorem stackArith?_mem (hf : op.stackArith? = some f) {b l r : Int}
    (hb : b < 2 ^ 31) (hl : l ∈ Set.Icc (-b) b) (hr : r ∈ Set.Icc (-b) b) :
    f l r ∈ signedWords := by
  have hmem := arith_mem_signedWords hb hl hr
  cases op <;> simp only [stackArith?, reduceCtorEq, Option.some.injEq] at hf
  · exact hf ▸ hmem.1
  · exact hf ▸ hmem.2.1
  · exact hf ▸ hmem.2.2

/-- A binary stack instruction that adds, subtracts or multiplies is one of the abstract
arithmetic instructions, wrapping the exact result. -/
theorem stackArith?_spec (hf : op.stackArith? = some f) :
    ∃ g : StackArith, g.op = op ∧ ∀ l r, g.apply l r = .ok (wrap (f l r)) := by
  cases op <;> simp only [stackArith?, reduceCtorEq, Option.some.injEq] at hf <;> subst hf
  · exact ⟨.add, rfl, fun _ _ => rfl⟩
  · exact ⟨.sub, rfl, fun _ _ => rfl⟩
  · exact ⟨.mul, rfl, fun _ _ => rfl⟩

end Op

namespace Machine

variable {m m' : Machine} {n : Nat} {w : Int} {op : Op} {arg : Int} {f : Int → Int → Int}

theorem executeOp_accumulatorArith (hf : op.accumulatorArith? = some f) (m : Machine) (arg : Int) :
    m.executeOp op arg = ({ m with acc := wrap (f m.acc (m.read (arg % 100))) }, none) := by
  cases op <;> simp only [Op.accumulatorArith?, reduceCtorEq, Option.some.injEq] at hf <;>
    subst hf <;> rfl

theorem mem_memory_of_mem_stack {x : Int} (hx : x ∈ m.stack) : x ∈ m.memory := by
  unfold Machine.stack at hx
  split at hx
  · cases hx
  · exact mem_of_mem_extract (Array.mem_toList_iff.mp hx)

theorem wordBound_lt (hn : n < 2 ^ 31) : wordBound n < 2 ^ 31 := by
  simp only [wordBound, accMax]
  omega

/-- `ADD` and `SUB` on a clamped machine: the accumulator is clamped and the addressed word lies
within the bound, so the exact sum or difference fits and the step clamps it. -/
theorem Clamped.accumulator_exact (h : m.Clamped n) (hn : n < 2 ^ 31) (hs : m.status ≠ .halted)
    (hw : m.read? m.pc = some w) (hd : Word.decode? w = some (op, arg))
    (hf : op.accumulatorArith? = some f) :
    f m.acc (m.read (arg % 100)) ∈ signedWords ∧ m.step.2 = none ∧
      m.step.1.acc = clamp (f m.acc (m.read (arg % 100))) := by
  have hfits := Op.accumulatorArith?_mem hf (wordBound_lt hn) h.acc_mem (h.read (arg % 100))
  obtain ⟨line, hx⟩ := execute_of_decode (m.fetched w) hd
  obtain ⟨j, hnote⟩ := exists_note_eq (m.fetched w) line
  rw [hnote, executeOp_accumulatorArith hf] at hx
  rw [step_of_execute hs hw hx]
  refine ⟨hfits, rfl, ?_⟩
  -- the fetch and its trace record change neither the accumulator nor memory
  show clamp (wrap (f m.acc (m.read (arg % 100)))) = _
  rw [wrap_of_mem_signedWords hfits]

/-- `SADD`, `SSUB` and `SMUL` on a clamped machine with two values on the stack: both are words
of memory, so the exact result fits, and the instruction replaces them by its clamp. -/
theorem Clamped.stack_exact (hl : m.Layout n) (h : m.Clamped n) (hn : n < 2 ^ 31) {r l : Int}
    {d : List Int} (hs : m.status ≠ .halted) (hw : m.read? m.pc = some w)
    (hd : Word.decode? w = some (op, arg)) (hf : op.stackArith? = some f)
    (hst : m.stack = r :: l :: d) :
    f l r ∈ signedWords ∧ m.step.2 = none ∧ m.step.1.stack = clamp (f l r) :: d := by
  have hr := h.memory r (mem_memory_of_mem_stack (by simp [hst]))
  have hl' := h.memory l (mem_memory_of_mem_stack (by simp [hst]))
  have hfits := Op.stackArith?_mem hf (wordBound_lt hn) hl' hr
  obtain ⟨g, rfl, happly⟩ := Op.stackArith?_spec hf
  obtain ⟨line, hx⟩ := execute_of_decode (m.fetched w) hd
  obtain ⟨j, hnote⟩ := exists_note_eq (m.fetched w) line
  rw [hnote, executeOp_arith] at hx
  -- the fetch and its trace record leave the stacks where they were
  have hl2 : ({ m.fetched w with journal := j } : Machine).Layout n := hl.congr rfl rfl rfl
  have hdata : ({ m.fetched w with journal := j } : Machine).view.data = r :: l :: d := hst
  have hv := combine_view hl2 g
  simp only [StackView.exec, hdata, happly, wrap_of_mem_signedWords hfits] at hv
  obtain ⟨hnone, hview⟩ := Outcome.eq_of_view_ok hv
  rw [step_of_execute hs hw (hx.trans (Prod.ext rfl hnone))]
  refine ⟨hfits, rfl, ?_⟩
  -- the data stack does not look at the accumulator
  show (({ m.fetched w with journal := j } : Machine).combine g.apply).1.view.data = _
  rw [hview]

/-- The next step of `m` performs its arithmetic exactly. When it fetches `ADD` or `SUB`, the
exact result on the accumulator and the addressed word fits a signed 64-bit word, and the step
completes with that result, clamped, in the accumulator. When it fetches `SADD`, `SSUB` or
`SMUL` with two values or more on the stack, the exact result on the two top values fits, and
the step completes replacing them by that result, clamped. -/
structure ArithmeticExact (m : Machine) : Prop where
  accumulator : ∀ {w : Int} {op : Op} {arg : Int} {f : Int → Int → Int},
    m.status ≠ .halted → m.read? m.pc = some w → Word.decode? w = some (op, arg) →
    op.accumulatorArith? = some f →
    f m.acc (m.read (arg % 100)) ∈ signedWords ∧ m.step.2 = none ∧
      m.step.1.acc = clamp (f m.acc (m.read (arg % 100)))
  stack : ∀ {w : Int} {op : Op} {arg : Int} {f : Int → Int → Int} {r l : Int} {d : List Int},
    m.status ≠ .halted → m.read? m.pc = some w → Word.decode? w = some (op, arg) →
    op.stackArith? = some f → m.stack = r :: l :: d →
    f l r ∈ signedWords ∧ m.step.2 = none ∧ m.step.1.stack = clamp (f l r) :: d

theorem Clamped.arithmeticExact (hl : m.Layout n) (h : m.Clamped n) (hn : n < 2 ^ 31) :
    m.ArithmeticExact where
  accumulator := h.accumulator_exact hn
  stack := h.stack_exact hl hn

end Machine

/-- Arithmetic stays exact under clamping. Take a memory of `n < 2 ^ 31` words and any sequence
of requests to a fresh machine that goes through steps only, resets, runs and changes of device
included, and loads only words within `wordBound n`, as every program assembled for `n` words
has. After every request the accumulator is clamped and every word of memory lies within
`wordBound n`; so the next step adds, subtracts and multiplies without leaving a signed 64-bit
word, and leaves the clamp of the exact result. -/
theorem clamped_arithmetic_exact {n : Nat} (hn : n < 2 ^ 31) {m : Machine}
    (hm : Machine.create n = .ok m) (rs : List Request)
    (hrs : ∀ r ∈ rs, r.Stepping (wordBound n)) :
    (rs.foldl Machine.serve m).Clamped n ∧ (rs.foldl Machine.serve m).ArithmeticExact ∧
      ∀ (ev : Evaluator) (settings : Settings) (source : String) (p : Program), settings.size = n →
        (assemble ev settings source).result = .ok p →
          ∀ w ∈ p.binary, w ∈ Set.Icc (-wordBound n) (wordBound n) := by
  have hl := (Machine.Layout.create hm).serveAll rs
  have hc := (Machine.clamped_create hm).serveAll (Machine.Layout.create hm) hrs
  refine ⟨hc, hc.arithmeticExact hl hn, fun ev settings source p hsize hp w hw => ?_⟩
  -- an assembled word is at least `-999` and at most `999` or the last address
  have hword := assemble_word_bound hp w (Array.mem_toList_iff.mpr hw)
  have hb := accMax_le_wordBound n
  have hn' := size_le_wordBound n
  simp only [accMax, Set.mem_Icc, hsize] at hword hb hn' ⊢
  omega

/-- A fresh machine of 200 words that loads a program multiplying two pushed values and runs it. -/
theorem multiplying_run_stays_exact :
    (200 : Nat) < 2 ^ 31 ∧
      Machine.create (200 : Nat) = .ok { memory := Array.replicate 200 0, sp := 200, rap := 99 } ∧
      (∀ r ∈ [Request.load #[401, 920, 402, 920, 932, 0], .run 10], r.Stepping (wordBound 200)) ∧
      (([Request.load #[401, 920, 402, 920, 932, 0], .run 10].foldl Machine.serve
          { memory := Array.replicate 200 0, sp := 200, rap := 99 }).Clamped 200 ∧
        ([Request.load #[401, 920, 402, 920, 932, 0], .run 10].foldl Machine.serve
          { memory := Array.replicate 200 0, sp := 200, rap := 99 }).ArithmeticExact ∧
        ∀ (ev : Evaluator) (settings : Settings) (source : String) (p : Program),
          settings.size = (200 : Nat) → (assemble ev settings source).result = .ok p →
            ∀ w ∈ p.binary, w ∈ Set.Icc (-wordBound 200) (wordBound 200)) :=
  ⟨by norm_num, rfl, by decide,
    clamped_arithmetic_exact (n := 200) (by norm_num) rfl _ (by decide)⟩

end DecimalMachine
