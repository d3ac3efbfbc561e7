import DecimalMachine.Machine.Step

/-!
# A step, opened once

`Machine.step` does one of four things: nothing on a halted machine; a `badAddress` fault when
the program counter lies outside memory; or it fetches the word there, runs it on the machine
with the fetch recorded (`Machine.fetched`), clamps the accumulator, and then either completes
or faults on the failure of the word. The lemmas here say so one case at a time, so that
proofs about what steps do cite them instead of unfolding the definition.

* `exists_note_eq`, `exists_fault_eq` — a trace record and a fault, each with what it changes;
  `exists_writeOutput_eq` — what output changes, and the one failure it can report: a broken
  writer's message.
* `step_of_halted`, `step_of_read?_none`, `step_of_execute`, `step_of_execute_fails` — the four
  cases of a step, and `step_cases`, which says a step is one of them.
* `runSteps_induction`, `run_induction` — a property that every step keeps holds after every
  run.
-/

namespace DecimalMachine

namespace Machine

variable {m m' : Machine} {w : Int} {op : Op} {arg : Int}

/-- The machine a step runs its fetched word on: running, with the word in the instruction
register, the program counter past it and the fetch counted. -/
def fetched (m : Machine) (w : Int) : Machine :=
  { m with status := .running, ir := w, pc := m.pc + 1, ticks := m.ticks + 1 }

/-- A trace record changes nothing but the trace. -/
theorem exists_note_eq (m : Machine) (line : String) : ∃ j, m.note line = { m with journal := j } := by
  unfold Machine.note
  split
  · exact ⟨_, rfl⟩
  · exact ⟨m.journal, rfl⟩

theorem lt_size_of_read? {a w : Int} (h : m.read? a = some w) : 0 ≤ a ∧ a < m.size := by
  unfold Machine.read? at h
  split at h
  · cases h
  · rename_i h0
    obtain ⟨hlt, -⟩ := Array.getElem?_eq_some_iff.mp h
    simp only [size]
    omega

theorem read_of_read?_none {a : Int} (h : m.read? a = none) : m.read a = 0 := by
  simp only [read, h, Option.getD_none]

theorem read_of_read?_some {a w : Int} (h : m.read? a = some w) : m.read a = w := by
  simp only [read, h, Option.getD_some]

theorem fault_of_fatal {ip w : Int} {e : Error} (he : e.isFatal = true) : m.fault ip w e = (m, some e) := by
  simp [fault, he]

/-- A failure that is no fatal access is recorded as a fault, and halts the machine. -/
theorem fault_of_not_fatal (m : Machine) (ip w : Int) {e : Error} (he : e.isFatal = false) :
    ∃ j, m.fault ip w e = ({ m with err := some (.fault ip w e), status := .halted, journal := j },
      some (.fault ip w e)) := by
  obtain ⟨j, hj⟩ := exists_note_eq ({ m with err := some (.fault ip w e), status := .halted } : Machine)
    ("cpu: " ++ (Error.fault ip w e).message)
  exact ⟨j, by simp only [fault, he, Bool.false_eq_true, if_false, hj]⟩

/-- A fault changes nothing but the recorded fault, the status and the trace. -/
theorem exists_fault_eq (m : Machine) (ip w : Int) (e : Error) :
    ∃ x st j, (m.fault ip w e).1 = { m with err := x, status := st, journal := j } := by
  cases he : e.isFatal
  · obtain ⟨j, hj⟩ := fault_of_not_fatal m ip w he
    exact ⟨_, _, j, by rw [hj]⟩
  · -- a fatal access passes through and leaves the machine as it is
    rw [fault_of_fatal he]
    exact ⟨m.err, m.status, m.journal, rfl⟩

/-- Output records the accumulator and changes the device and the trace, nothing else; the only
failure it reports is a broken writer's, which carries nothing but its message. -/
theorem exists_writeOutput_eq (m : Machine) :
    ∃ d j f, m.writeOutput = ({ m with output := m.output.push m.acc, device := d, journal := j }, f) ∧
      (f = none ∨ ∃ msg, f = some (.other msg)) := by
  unfold writeOutput
  cases m.device with
  | none => exact ⟨_, _, _, rfl, .inl rfl⟩
  | rom r => exact ⟨_, _, _, rfl, .inl rfl⟩
  | tape t =>
    -- only a tape has a writer, and only a broken one fails
    simp only [Device.send, Tape.send]
    cases t.output with
    | none => exact ⟨_, _, _, rfl, .inl rfl⟩
    | some w =>
      cases w with
      | buffer text => exact ⟨_, _, _, rfl, .inl rfl⟩
      | broken message => exact ⟨_, _, _, rfl, .inr ⟨message, rfl⟩⟩

theorem execute_of_decode (m : Machine) (hd : Word.decode? w = some (op, arg)) :
    ∃ line, m.execute w = (m.note line).executeOp op arg := by
  unfold Machine.execute
  rw [hd]
  exact ⟨_, rfl⟩

/-! ## The four cases of a step -/

theorem step_of_halted (hs : m.status = .halted) : m.step = (m, none) := by
  simp [step, hs]

theorem step_of_read?_none (hs : m.status ≠ .halted) (hw : m.read? m.pc = none) :
    m.step = ({ m with status := .running } : Machine).fault m.pc 0 .badAddress := by
  have hw' : ({ m with status := .running } : Machine).read? m.pc = none := hw
  simp only [step, beq_iff_eq, hs, if_false, hw']

/-- A step that fetches a word and completes it leaves the machine the word leaves, with the
accumulator clamped. -/
theorem step_of_execute (hs : m.status ≠ .halted) (hw : m.read? m.pc = some w)
    (hx : (m.fetched w).execute w = (m', none)) : m.step = ({ m' with acc := clamp m'.acc }, none) := by
  have hw' : ({ m with status := .running } : Machine).read? m.pc = some w := hw
  simp only [step, beq_iff_eq, hs, if_false, hw']
  simp only [fetched] at hx
  simp only [hx]

/-- A step whose fetched word fails faults at the address and word it fetched, after clamping
the accumulator. -/
theorem step_of_execute_fails {e : Error} (hs : m.status ≠ .halted) (hw : m.read? m.pc = some w)
    (hx : (m.fetched w).execute w = (m', some e)) :
    m.step = ({ m' with acc := clamp m'.acc } : Machine).fault m.pc w e := by
  have hw' : ({ m with status := .running } : Machine).read? m.pc = some w := hw
  simp only [step, beq_iff_eq, hs, if_false, hw']
  simp only [fetched] at hx
  simp only [hx]

/-- What a step can do, the four cases in one: nothing on a halted machine; a `badAddress` fault
when the program counter lies outside memory; or it runs the word it fetches, which completes
or fails. -/
theorem step_cases (m : Machine) :
    (m.status = .halted ∧ m.step = (m, none)) ∨
    (m.status ≠ .halted ∧ m.read? m.pc = none ∧
      m.step = ({ m with status := .running } : Machine).fault m.pc 0 .badAddress) ∨
    (∃ w m', m.status ≠ .halted ∧ m.read? m.pc = some w ∧ (m.fetched w).execute w = (m', none) ∧
      m.step = ({ m' with acc := clamp m'.acc }, none)) ∨
    (∃ w m' c, m.status ≠ .halted ∧ m.read? m.pc = some w ∧
      (m.fetched w).execute w = (m', some c) ∧
      m.step = ({ m' with acc := clamp m'.acc } : Machine).fault m.pc w c) := by
  by_cases hs : m.status = .halted
  · exact .inl ⟨hs, step_of_halted hs⟩
  cases hw : m.read? m.pc with
  | none => exact .inr (.inl ⟨hs, rfl, step_of_read?_none hs hw⟩)
  | some w =>
    rcases hx : (m.fetched w).execute w with ⟨m', _ | c⟩
    · exact .inr (.inr (.inl ⟨w, m', hs, rfl, hx, step_of_execute hs hw hx⟩))
    · exact .inr (.inr (.inr ⟨w, m', c, hs, rfl, hx, step_of_execute_fails hs hw hx⟩))

/-! ## Runs -/

/-- A property that every step keeps holds after any number of steps. -/
theorem runSteps_induction {P : Machine → Prop} (hstep : ∀ m, P m → P m.step.1) (h : P m)
    (fuel taken : Nat) : P (runSteps fuel taken m).1.1 := by
  induction fuel generalizing taken m with
  | zero =>
    unfold Machine.runSteps
    split <;> exact h
  | succ fuel ih =>
    unfold Machine.runSteps
    split
    · exact h
    · -- the step is taken; the run stops after it on a failure and goes on otherwise
      have hs := hstep m h
      dsimp only
      split
      · rename_i hres
        rw [hres] at hs
        exact hs
      · rename_i hres
        rw [hres] at hs
        exact ih hs _

/-- A property that every step keeps, and setting the machine running too, holds after a run. -/
theorem run_induction {P : Machine → Prop} (hrun : ∀ m, P m → P { m with status := .running })
    (hstep : ∀ m, P m → P m.step.1) (h : P m) (budget : Int) : P (m.run budget).1.1 := by
  unfold Machine.run
  split
  · exact h
  · dsimp only
    split <;> exact runSteps_induction hstep (hrun m h) _ _

end Machine

end DecimalMachine
