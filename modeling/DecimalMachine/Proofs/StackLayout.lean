import DecimalMachine.Proofs.Stepping

/-!
# The stack layout — both stacks stay inside their hundred words

The data stack grows down from the top of memory and the return stack grows up from the
return base, 101 words below the top. The whole design rests on one inequality between the
two pointers and the two bases,

```
returnBase ≤ rap < sp ≤ stackBase
```

which is `Machine.Layout` below (together with the lower bound on memory that every machine
gets from `Machine.create`). Every stack operation tests its own bound against the other
pointer before it moves one; this module shows those tests are exactly strong enough.

* **`Layout`** — the invariant, and its frame lemma `Layout.congr`: it depends only on the
  memory size and the two pointers.
* **the views** — `stack_eq_drop` and `returnStack_eq` read the two stacks straight off the
  memory list; `stack_set_of_lt` and `returnStack_set_of_lt` say which writes they ignore.
* **preservation** — every primitive stack move, every compound stack operation, every
  instruction, a step, a budgeted run, a reset, a load and a change of device keep `Layout`,
  whether they succeed or fail.
* **`stack_layout_invariant`** — over any sequence of such requests from a fresh machine the
  invariant holds, the two stacks never overlap, and the addressed instructions never reach
  a stack word.
-/

namespace DecimalMachine

namespace Machine

variable {m m' : Machine}

/-- The stack layout invariant of a machine with `n` words of memory: memory is large enough
for code below the stacks, and the return stack lies below the data stack, both inside the
top of memory. -/
structure Layout (m : Machine) (n : Nat) : Prop where
  size_eq : m.size = n
  roomy : minMemory ≤ n
  base_le_rap : m.returnBase ≤ m.rap
  rap_lt_sp : m.rap < m.sp
  sp_le_base : m.sp ≤ m.stackBase

variable {n : Nat}

/-- The invariant as plain integer inequalities, the form `omega` works with. -/
theorem Layout.bounds (h : m.Layout n) :
    200 ≤ (m.size : Int) ∧ (m.size : Int) - 101 ≤ m.rap ∧ m.rap < m.sp ∧ m.sp ≤ m.size ∧
      m.size = n := by
  obtain ⟨hn, hsize, hbase, hrap, hsp⟩ := h
  simp only [returnBase, stackBase, returnOffset, minMemory] at *
  omega

/-- The invariant looks only at the memory size and the two pointers. -/
theorem Layout.congr (h : m.Layout n) (hsize : m'.size = m.size) (hsp : m'.sp = m.sp)
    (hrap : m'.rap = m.rap) : m'.Layout n := by
  obtain ⟨h0, h1, h2, h3, h4⟩ := h
  refine ⟨?_, h1, ?_, ?_, ?_⟩ <;> simp only [returnBase, stackBase, hsize, hsp, hrap] at * <;>
    assumption

/-! ## Writing memory

A write inside memory replaces one word and touches nothing else; a write outside memory
fails and leaves the machine as it was. Either way the size and the pointers stay. -/

theorem write_of_lt {a : Int} (v : Int) (h0 : 0 ≤ a) (h : a < m.size) :
    m.write a v = ({ m with memory := m.memory.set! a.toNat v }, none) := by
  rw [write, if_pos ⟨h0, by omega⟩]

@[simp] theorem write_fst_size (a v : Int) : (m.write a v).1.size = m.size := by
  unfold write size; split <;> simp

@[simp] theorem write_fst_sp (a v : Int) : (m.write a v).1.sp = m.sp := by
  unfold write; split <;> rfl

@[simp] theorem write_fst_rap (a v : Int) : (m.write a v).1.rap = m.rap := by
  unfold write; split <;> rfl

theorem Layout.write (h : m.Layout n) (a v : Int) : (m.write a v).1.Layout n :=
  h.congr (write_fst_size a v) (write_fst_sp a v) (write_fst_rap a v)

/-! ## The two stacks as pieces of the memory list

The data stack is the memory list from `sp` on; the return stack is the stretch just above
the return base up to `rap`, read backwards. A write outside a stretch leaves its view as
it is. -/

theorem stack_eq_drop (h : 0 ≤ m.sp) : m.stack = m.memory.toList.drop m.sp.toNat := by
  simp only [stack, if_neg (Int.not_lt.mpr h), Array.toList_extract, List.extract_eq_take_drop]
  apply List.take_of_length_le
  simp [size]

/-- The return stack read off memory; it needs only `rap` between the return base and the top
of memory, not the whole invariant, so it also serves machines caught half-way through a
call. -/
theorem returnStack_eq_of (hb : m.returnBase ≤ m.rap) (hs : m.rap < m.size) :
    m.returnStack =
      ((m.memory.toList.take (m.rap + 1).toNat).drop (m.returnBase + 1).toNat).reverse := by
  unfold returnStack
  split
  · -- an empty return stack: `rap` sits on the return base
    rename_i hempty
    have hrap : m.rap = m.returnBase := by omega
    simp [hrap]
  · simp only [Array.toList_extract, List.extract_eq_drop_take']

theorem returnStack_eq (h : m.Layout n) :
    m.returnStack =
      ((m.memory.toList.take (m.rap + 1).toNat).drop (m.returnBase + 1).toNat).reverse := by
  have hb := h.bounds
  exact returnStack_eq_of h.base_le_rap (by omega)

theorem length_stack (h : m.Layout n) : (m.stack.length : Int) = m.stackBase - m.sp := by
  have hb := h.bounds
  rw [stack_eq_drop (by omega), List.length_drop, Array.length_toList]
  simp only [stackBase, size] at *
  omega

theorem length_returnStack (h : m.Layout n) :
    (m.returnStack.length : Int) = m.rap - m.returnBase := by
  have hb := h.bounds
  rw [returnStack_eq h, List.length_reverse, List.length_drop, List.length_take,
    Array.length_toList]
  simp only [returnBase, returnOffset, size] at *
  omega

/-- A write below the data stack leaves it as it is. -/
theorem stack_set_of_lt {a : Int} (v : Int) (h0 : 0 ≤ a) (h : a < m.sp) :
    ({ m with memory := m.memory.set! a.toNat v } : Machine).stack = m.stack := by
  have hsp : 0 ≤ m.sp := by omega
  rw [stack_eq_drop (m := { m with memory := m.memory.set! a.toNat v }) hsp, stack_eq_drop hsp]
  simp only [Array.set!_eq_setIfInBounds, Array.toList_setIfInBounds]
  exact List.drop_set_of_lt (by omega)

/-- A write at or below the return base leaves the return stack as it is. -/
theorem returnStack_set_of_le {a : Int} (v : Int) (h : m.Layout n) (h0 : 0 ≤ a)
    (ha : a ≤ m.returnBase) :
    ({ m with memory := m.memory.set! a.toNat v } : Machine).returnStack = m.returnStack := by
  have h' : ({ m with memory := m.memory.set! a.toNat v } : Machine).Layout n :=
    h.congr (by simp [size]) rfl rfl
  rw [returnStack_eq h', returnStack_eq h]
  simp only [Array.set!_eq_setIfInBounds, Array.toList_setIfInBounds, List.take_set,
    returnBase, size, Array.size_setIfInBounds]
  rw [List.drop_set_of_lt]
  simp only [returnBase, returnOffset, size] at ha ⊢
  omega

/-- A write above the top of the return stack leaves it as it is. -/
theorem returnStack_set_of_gt {a : Int} (v : Int) (h : m.Layout n) (ha : m.rap < a) :
    ({ m with memory := m.memory.set! a.toNat v } : Machine).returnStack = m.returnStack := by
  have h' : ({ m with memory := m.memory.set! a.toNat v } : Machine).Layout n :=
    h.congr (by simp [size]) rfl rfl
  have hb := h.bounds
  rw [returnStack_eq h', returnStack_eq h]
  simp only [Array.set!_eq_setIfInBounds, Array.toList_setIfInBounds, returnBase, size,
    Array.size_setIfInBounds]
  rw [List.take_set_of_le (by omega)]

/-! ## The four stack moves

Each move is a guarded pointer step. Under `Layout` the guard is the only way to fail: the
word a push writes is always inside memory, so a move either happens in full or reports
`badStack` with the machine untouched. -/

theorem layout_iff : m.Layout n ↔
    200 ≤ (m.size : Int) ∧ (m.size : Int) - 101 ≤ m.rap ∧ m.rap < m.sp ∧ m.sp ≤ m.size ∧
      m.size = n := by
  refine ⟨Layout.bounds, fun hb => ⟨hb.2.2.2.2, ?_, ?_, hb.2.2.1, ?_⟩⟩ <;>
    simp only [returnBase, stackBase, returnOffset, minMemory] <;> omega

theorem push_eq (h : m.Layout n) (hroom : m.rap < m.sp - 1) :
    m.push = ({ m with memory := m.memory.set! (m.sp - 1).toNat m.acc, sp := m.sp - 1 }, none) := by
  have hb := h.bounds
  have hguard : ¬(m.sp - 1 ≤ m.rap ∨ m.stackBase ≤ m.sp - 1) := by
    simp only [stackBase]; omega
  rw [push, if_neg hguard]
  dsimp only
  rw [write_of_lt _ (by omega) (by omega)]
  rfl

theorem push_full (hfull : m.sp - 1 ≤ m.rap) : m.push = (m, some .badStack) := by
  rw [push, if_pos (.inl hfull)]

theorem pop_eq (h : m.Layout n) (hne : m.sp < m.stackBase) :
    m.pop = ({ m with acc := m.read m.sp, sp := m.sp + 1 }, none) := by
  have hb := h.bounds
  rw [pop, if_neg (by omega)]

theorem pop_empty (hempty : m.stackBase ≤ m.sp) : m.pop = (m, some .badStack) := by
  rw [pop, if_pos (.inl hempty)]

theorem pushReturn_eq (h : m.Layout n) (ip : Int) (hroom : m.rap + 1 < m.sp) :
    m.pushReturn ip =
      ({ m with memory := m.memory.set! (m.rap + 1).toNat ip, rap := m.rap + 1 }, none) := by
  have hb := h.bounds
  have hguard : ¬(m.sp ≤ m.rap + 1 ∨ m.rap + 1 ≤ m.returnBase) := by
    simp only [returnBase, returnOffset]; omega
  rw [pushReturn, if_neg hguard]
  dsimp only
  rw [write_of_lt _ (by omega) (by omega)]
  rfl

theorem pushReturn_full (ip : Int) (hfull : m.sp ≤ m.rap + 1) :
    m.pushReturn ip = (m, some .badStack) := by
  rw [pushReturn, if_pos (.inl hfull)]

theorem popReturn_eq (h : m.Layout n) (hne : m.returnBase < m.rap) :
    m.popReturn = ({ m with pc := m.read m.rap, rap := m.rap - 1 }, none) := by
  have hb := h.bounds
  rw [popReturn, if_neg (by omega)]

theorem popReturn_empty (hempty : m.rap ≤ m.returnBase) : m.popReturn = (m, some .badStack) := by
  rw [popReturn, if_pos (.inl hempty)]

/-! ## Preservation by the stack operations -/

theorem Layout.setAcc (h : m.Layout n) (a : Int) : ({ m with acc := a } : Machine).Layout n :=
  h.congr rfl rfl rfl

theorem Layout.andThen {o : Outcome} {f : Machine → Outcome} (ho : o.1.Layout n)
    (hf : ∀ m', m'.Layout n → (f m').1.Layout n) : (o.andThen f).1.Layout n := by
  obtain ⟨m', _ | e⟩ := o
  · exact hf m' ho
  · exact ho

theorem scratch_eq (m : Machine) (f : Machine → Outcome) :
    m.scratch f = ({ (f m).1 with acc := m.acc }, (f m).2) := rfl

theorem Layout.scratch {f : Machine → Outcome} (hf : (f m).1.Layout n) :
    (m.scratch f).1.Layout n :=
  hf.setAcc m.acc

theorem Layout.push (h : m.Layout n) : m.push.1.Layout n := by
  have hb := h.bounds
  by_cases hroom : m.rap < m.sp - 1
  · rw [push_eq h hroom, layout_iff]
    simp only [size, Array.set!_eq_setIfInBounds, Array.size_setIfInBounds] at hb ⊢
    omega
  · rw [push_full (by omega)]
    exact h

theorem Layout.pop (h : m.Layout n) : m.pop.1.Layout n := by
  have hb := h.bounds
  by_cases hne : m.sp < m.stackBase
  · rw [pop_eq h hne, layout_iff]
    simp only [size, stackBase] at hb hne ⊢
    omega
  · rw [pop_empty (by omega)]
    exact h

theorem Layout.pushReturn (h : m.Layout n) (ip : Int) : (m.pushReturn ip).1.Layout n := by
  have hb := h.bounds
  by_cases hroom : m.rap + 1 < m.sp
  · rw [pushReturn_eq h ip hroom, layout_iff]
    simp only [size, Array.set!_eq_setIfInBounds, Array.size_setIfInBounds] at hb ⊢
    omega
  · rw [pushReturn_full ip (by omega)]
    exact h

theorem Layout.popReturn (h : m.Layout n) : m.popReturn.1.Layout n := by
  have hb := h.bounds
  by_cases hne : m.returnBase < m.rap
  · rw [popReturn_eq h hne, layout_iff]
    simp only [size, returnBase, returnOffset] at hb hne ⊢
    omega
  · rw [popReturn_empty (by omega)]
    exact h

theorem Layout.dup (h : m.Layout n) : m.dup.1.Layout n :=
  Layout.scratch (Layout.andThen h.pop fun _ h1 => Layout.andThen h1.push fun _ h2 => h2.push)

theorem Layout.drop (h : m.Layout n) : m.drop.1.Layout n :=
  Layout.scratch h.pop

theorem Layout.swap (h : m.Layout n) : m.swap.1.Layout n :=
  Layout.scratch (Layout.andThen h.pop fun _ h1 => Layout.andThen h1.pop fun _ h2 =>
    Layout.andThen (h2.setAcc _).push fun _ h3 => (h3.setAcc _).push)

theorem Layout.combine (h : m.Layout n) (f : Int → Int → Except Error Int) :
    (m.combine f).1.Layout n := by
  refine Layout.scratch (Layout.andThen h.pop fun _ h1 => Layout.andThen h1.pop fun _ h2 => ?_)
  dsimp only
  split
  · exact h2
  · exact (h2.setAcc _).push

/-- A call pops its target and pushes the return address into the word the pop freed at the
latest, so once the pop has gone through the return push always finds room. -/
theorem call_eq (h : m.Layout n) (hne : m.sp < m.stackBase) :
    m.call = ({ m with
      memory := m.memory.set! (m.rap + 1).toNat m.pc, sp := m.sp + 1, rap := m.rap + 1,
      pc := m.read m.sp }, none) := by
  have hb := h.bounds
  have h1 : ({ m with acc := m.read m.sp, sp := m.sp + 1 } : Machine).Layout n := by
    rw [layout_iff]
    simp only [size, stackBase] at hb hne ⊢
    omega
  rw [Machine.call, scratch_eq, pop_eq h hne]
  simp only [Outcome.andThen]
  rw [pushReturn_eq h1 _ (by simp only; omega)]

theorem call_empty (hempty : m.stackBase ≤ m.sp) : m.call = (m, some .badStack) := by
  rw [Machine.call, scratch_eq, pop_empty hempty]
  rfl

theorem Layout.call (h : m.Layout n) : m.call.1.Layout n := by
  have hb := h.bounds
  by_cases hne : m.sp < m.stackBase
  · rw [call_eq h hne, layout_iff]
    simp only [size, stackBase, Array.set!_eq_setIfInBounds, Array.size_setIfInBounds]
      at hb hne ⊢
    omega
  · rw [call_empty (by omega)]
    exact h

/-! ## Preservation by instructions, steps and runs

Only the stack instructions move a pointer; the others change registers, the device, the
output record or one word below the stacks. Stepping adds the fetch, the clamp and the
fault, none of which touch the pointers, and a run is a sequence of steps. -/

theorem Layout.note (h : m.Layout n) (line : String) : (m.note line).Layout n := by
  obtain ⟨j, hj⟩ := exists_note_eq m line
  rw [hj]
  exact h.congr rfl rfl rfl

theorem Layout.readInput (h : m.Layout n) : m.readInput.1.Layout n := by
  unfold Machine.readInput
  split
  · exact h
  · split <;> exact h.congr rfl rfl rfl

theorem Layout.executeOp (h : m.Layout n) (op : Op) (arg : Int) :
    (m.executeOp op arg).1.Layout n := by
  cases op with
  | halt | add | sub | loadImmediate | load | branch | output => exact h.congr rfl rfl rfl
  | branchZero | branchPositive =>
    dsimp only [Machine.executeOp]
    split <;> exact h.congr rfl rfl rfl
  | store => exact h.write _ _
  | input => exact h.readInput
  | call => exact h.call
  | ret => exact h.popReturn
  | push => exact h.push
  | pop => exact h.pop
  | dup => exact h.dup
  | drop => exact h.drop
  | swap => exact h.swap
  | stackAdd | stackSub | stackMul | stackDiv | stackMax | stackMin => exact h.combine _

theorem Layout.executeNumbered (h : m.Layout n) (k arg : Int) :
    (m.executeNumbered k arg).1.Layout n := by
  unfold Machine.executeNumbered
  split
  · exact h.executeOp _ _
  · exact h

theorem Layout.execute (h : m.Layout n) (w : Int) : (m.execute w).1.Layout n := by
  unfold Machine.execute
  split
  · exact h
  · exact (h.note _).executeOp _ _

theorem Layout.fault (h : m.Layout n) (ip w : Int) (e : Error) : (m.fault ip w e).1.Layout n := by
  obtain ⟨x, st, j, hf⟩ := exists_fault_eq m ip w e
  rw [hf]
  exact h.congr rfl rfl rfl

theorem Layout.step (h : m.Layout n) : m.step.1.Layout n := by
  unfold Machine.step
  split
  · exact h
  · dsimp only
    split
    · apply Layout.fault
      exact h.congr rfl rfl rfl
    · -- the fetched word runs on the machine with its fetch recorded
      rename_i w _
      have hexec := Layout.execute (m := { m with
        status := .running, ir := w, pc := m.pc + 1, ticks := m.ticks + 1 }) (h.congr rfl rfl rfl) w
      split
      · exact hexec.congr rfl rfl rfl
      · apply Layout.fault
        exact hexec.congr rfl rfl rfl

theorem Layout.runSteps (h : m.Layout n) (fuel taken : Nat) :
    (runSteps fuel taken m).1.1.Layout n :=
  runSteps_induction (P := (·.Layout n)) (fun _ h' => h'.step) h fuel taken

theorem Layout.run (h : m.Layout n) (budget : Int) : (m.run budget).1.1.Layout n :=
  run_induction (P := (·.Layout n)) (fun _ h' => h'.congr rfl rfl rfl) (fun _ h' => h'.step) h budget

/-- A reset puts both pointers back on their bases; only the memory size has to be right. -/
theorem layout_reset (h : m.size = n) (hroom : minMemory ≤ n) : m.reset.Layout n := by
  have hmem : (m.note "cpu: reset").memory = m.memory := by
    obtain ⟨j, hj⟩ := exists_note_eq m "cpu: reset"
    rw [hj]
  rw [layout_iff]
  simp only [reset, size, stackBase, returnBase, returnOffset, hmem, Array.size_replicate]
  simp only [size, minMemory] at h hroom
  omega

/-- A load that goes through writes the program over the front of memory and keeps the rest, so
memory keeps its size. -/
theorem load_eq_ok {program : Array Int} {m' : Machine} (hload : m.load program = .ok m') :
    m' = { m with memory := program ++ m.memory.extract program.size m.size } ∧ m'.size = m.size := by
  unfold Machine.load at hload
  split at hload
  · cases hload
  · rename_i hfit
    cases hload
    refine ⟨rfl, ?_⟩
    simp only [size, Array.size_append, Array.size_extract] at hfit ⊢
    omega

theorem Layout.load (h : m.Layout n) {program : Array Int} {m' : Machine}
    (hload : m.load program = .ok m') : m'.Layout n := by
  obtain ⟨rfl, hsize⟩ := load_eq_ok hload
  exact h.congr hsize rfl rfl

/-- A fresh machine starts with both stacks empty in a memory of the size asked for. -/
theorem Layout.create (hm : create (n : Int) = .ok m) : m.Layout n := by
  unfold Machine.create at hm
  split at hm
  · cases hm
  · rename_i hk
    cases hm
    rw [layout_iff]
    simp only [size, Array.size_replicate, minMemory, returnOffset, Int.toNat_natCast, and_true]
      at hk ⊢
    omega

end Machine

/-- A request a client makes of a machine: reset it, load a program, attach a device, step
it, run it for a budget of steps, execute a word, or execute an operation by its number. -/
inductive Request where
  | reset
  | load (program : Array Int)
  | attach (device : Device)
  | step
  | run (budget : Int)
  | execute (w : Int)
  | executeOp (k arg : Int)
  deriving Inhabited

namespace Machine

variable {m : Machine} {n : Nat}

/-- The machine after a request, whatever the request answered; a refused load leaves the
machine as it was. -/
def serve (m : Machine) : Request → Machine
  | .reset => m.reset
  | .load program =>
    match m.load program with
    | .ok m' => m'
    | .error _ => m
  | .attach device => { m with device }
  | .step => m.step.1
  | .run budget => (m.run budget).1.1
  | .execute w => (m.execute w).1
  | .executeOp k arg => (m.executeNumbered k arg).1

theorem Layout.serve (h : m.Layout n) (r : Request) : (m.serve r).Layout n := by
  cases r with
  | reset => exact layout_reset h.size_eq h.roomy
  | load program =>
    simp only [Machine.serve]
    split
    · rename_i hload
      exact h.load hload
    · exact h
  | attach device => exact h.congr rfl rfl rfl
  | step => exact h.step
  | run budget => exact h.run budget
  | execute w => exact h.execute w
  | executeOp k arg => exact h.executeNumbered k arg

/-- The run lemma: the invariant holds after every request of every sequence. -/
theorem Layout.serveAll (h : m.Layout n) (rs : List Request) :
    (rs.foldl Machine.serve m).Layout n := by
  induction rs generalizing m with
  | nil => exact h
  | cons r rs ih => exact ih (h.serve r)

/-! ## What the layout gives a client -/

/-- Wrapping leaves a value alone that already fits a signed 64-bit word. -/
theorem wrap_eq_self {x : Int} (h0 : -9223372036854775808 ≤ x) (h1 : x < 9223372036854775808) :
    wrap x = x := by
  unfold wrap
  rw [Int.bmod_eq_iff (by decide)]
  exact ⟨by omega, by omega, by simp⟩

/-- Whether address `a` holds a word of the data stack. -/
def OnDataStack (m : Machine) (a : Int) : Prop :=
  m.sp ≤ a ∧ a < m.stackBase

/-- Whether address `a` holds a word of the return stack. -/
def OnReturnStack (m : Machine) (a : Int) : Prop :=
  m.returnBase < a ∧ a ≤ m.rap

/-- The separation a client relies on: the depth register counts the data stack, the two
stacks share at most a hundred words, never the same word, all inside the top hundred words
of memory, and the addressed instructions (whose address is the operand modulo 100) neither
address a stack word nor, when they store, change a stack. -/
structure StacksApart (m : Machine) (n : Nat) : Prop where
  depth_eq : (m.stack.length : Int) = m.depth
  shared : m.depth + m.returnStack.length ≤ 100
  disjoint : ∀ a, ¬(m.OnDataStack a ∧ m.OnReturnStack a)
  on_top : ∀ a, m.OnDataStack a ∨ m.OnReturnStack a → (n : Int) - 100 ≤ a ∧ a < n
  addressed : ∀ arg, ¬m.OnDataStack (arg % 100) ∧ ¬m.OnReturnStack (arg % 100)
  store_keeps : ∀ arg, (m.executeOp .store arg).1.stack = m.stack ∧
    (m.executeOp .store arg).1.returnStack = m.returnStack

theorem Layout.depth_eq (h : m.Layout n) : m.depth = m.stackBase - m.sp := by
  have hb := h.bounds
  unfold depth
  apply wrap_eq_self <;> simp only [stackBase] <;> omega

/-- A store at an address below 100 lands below both stacks. -/
theorem Layout.store_keeps (h : m.Layout n) (arg : Int) :
    (m.executeOp .store arg).1.stack = m.stack ∧
      (m.executeOp .store arg).1.returnStack = m.returnStack := by
  have hb := h.bounds
  have h0 : 0 ≤ arg % 100 := Int.emod_nonneg _ (by decide)
  have h1 : arg % 100 < 100 := Int.emod_lt_of_pos _ (by decide)
  simp only [Machine.executeOp]
  rw [write_of_lt _ h0 (by omega)]
  refine ⟨stack_set_of_lt _ h0 (by omega), returnStack_set_of_le _ h h0 ?_⟩
  simp only [returnBase, returnOffset]
  omega

theorem Layout.stacksApart (h : m.Layout n) : m.StacksApart n := by
  have hb := h.bounds
  have hdepth := h.depth_eq
  have hdata := length_stack h
  have hret := length_returnStack h
  simp only [stackBase, returnBase, returnOffset] at hdepth hdata hret
  refine ⟨?_, ?_, ?_, ?_, ?_, h.store_keeps⟩
  · rw [hdepth, hdata]
  · omega
  · rintro a ⟨⟨hsp, -⟩, ⟨-, hrap⟩⟩
    omega
  · rintro a (⟨hsp, htop⟩ | ⟨hbase, hrap⟩) <;>
      simp only [stackBase, returnBase, returnOffset] at * <;> omega
  · intro arg
    have h1 : arg % 100 < 100 := Int.emod_lt_of_pos _ (by decide)
    simp only [OnDataStack, OnReturnStack, returnBase, returnOffset]
    omega

end Machine

/-- The stack layout invariant: from a fresh machine with `n` words of memory, after any
sequence of requests, whether each succeeded or failed, `returnBase ≤ rap < sp ≤ stackBase`
holds with the stack base still `n`, and the two stacks are kept apart as `StacksApart`
says. -/
theorem stack_layout_invariant {n : Nat} {m : Machine} (hm : Machine.create n = .ok m)
    (rs : List Request) :
    (rs.foldl Machine.serve m).Layout n ∧ (rs.foldl Machine.serve m).StacksApart n := by
  have h := (Machine.Layout.create hm).serveAll rs
  exact ⟨h, h.stacksApart⟩

/-- A push and a call on a fresh machine of two hundred words keep the layout. -/
theorem stack_layout_after_push_and_call :
    Machine.create 200 = .ok { memory := Array.replicate 200 0, sp := 200, rap := 99 } ∧
      ([Request.executeOp 13 0, .executeOp 11 0].foldl Machine.serve
          { memory := Array.replicate 200 0, sp := 200, rap := 99 }).Layout 200 ∧
      ([Request.executeOp 13 0, .executeOp 11 0].foldl Machine.serve
          { memory := Array.replicate 200 0, sp := 200, rap := 99 }).StacksApart 200 :=
  ⟨rfl, stack_layout_invariant (n := 200) rfl _⟩

end DecimalMachine
