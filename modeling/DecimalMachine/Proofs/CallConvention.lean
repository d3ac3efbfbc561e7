import DecimalMachine.Proofs.StackRefinement
import DecimalMachine.Proofs.RunAgreement
import DecimalMachine.Proofs.CodeGeneration

/-!
# The calling convention

`CALL v` is no instruction of the machine: the assembler writes it as three words, `LDI v`,
`SPUSH` and `JAL` (`expand_callRoutine`). The first loads the target into the accumulator, the
second pushes it onto the data stack, and the third pops it again, pushes the address after
itself onto the return stack and jumps. Followed through the stack view of `StackRefinement`,
the three steps are a call, and a later `RET` returns from it.

* `step_of_executeOp`, `step_of_executeOp_fails` — a step that fetches an instruction word
  leaves what the instruction leaves on the fetched machine, with the accumulator clamped, or
  records its failure as a fault; only the logging differs.
* `step_loadImmediate`, `step_push`, `step_push_full`, `step_call`, `step_ret` — the steps the
  convention takes, each through the view. The first two also keep every word at or below the
  return base, so the words of the call that are still to come stay where they were.
* `push_call_steps` — `SPUSH` then `JAL` calls the address in the accumulator.
* `Machine.CallsTo` and `call_convention` — from the words of `CALL v`, below the stacks of a
  running machine: the call when the two stacks have room for the target, the return to the
  word after it, and the fault at the push when they have none.
-/

namespace DecimalMachine

/-- `CALL v` expands to the words of `LDI v`, `SPUSH` and `JAL`, for an operand in `[0, 99]`. -/
theorem expand_callRoutine {v : Int} {ws : List Int} (h : Mnemonic.callRoutine.expand v = .ok ws) :
    0 ≤ v ∧ v ≤ 99 ∧ ws = [Op.loadImmediate.base + v, Op.push.base, Op.call.base] := by
  cases he : Op.loadImmediate.encode v with
  | error e => simp [Mnemonic.expand, he] at h
  | ok w =>
    have hw := Mnemonic.encode_ok he
    simp only [Op.hasOperand, if_true] at hw
    obtain ⟨hlo, hhi, rfl⟩ := hw
    simp only [Mnemonic.expand, he] at h
    exact ⟨hlo, hhi, (Except.ok.inj h).symm⟩

namespace Machine

variable {m m' : Machine} {n : Nat} {w : Int} {op : Op} {arg : Int}

/-! ## A step through the instruction it fetches -/

/-- A step that fetches an instruction word which completes leaves what the instruction leaves
on the fetched machine, with the accumulator clamped; only the logging may differ. -/
theorem step_of_executeOp (hs : m.status ≠ .halted) (hw : m.read? m.pc = some w)
    (hd : Word.decode? w = some (op, arg)) (hx : (m.fetched w).executeOp op arg = (m', none)) :
    ∃ v j, m.step = ({ m' with verbose := v, journal := j, acc := clamp m'.acc }, none) := by
  obtain ⟨line, hline⟩ := execute_of_decode (m.fetched w) hd
  -- the trace record of the fetched word changes nothing the instruction reads
  have halike := (alike_note (m.fetched w) line).executeOp op arg
  rw [hx] at halike
  obtain ⟨v, j, hm⟩ := halike.machine.symm.exists_relog
  have hx' : (m.fetched w).execute w = ({ m' with verbose := v, journal := j }, none) := by
    rw [hline]
    exact Prod.ext hm halike.error
  exact ⟨v, j, step_of_execute hs hw hx'⟩

/-- A step that fetches an instruction word which fails records the failure as a fault at the
address and word fetched, and halts. -/
theorem step_of_executeOp_fails {e : Error} (hs : m.status ≠ .halted) (hw : m.read? m.pc = some w)
    (hd : Word.decode? w = some (op, arg)) (hx : (m.fetched w).executeOp op arg = (m', some e))
    (he : e.isFatal = false) :
    ∃ v j, m.step = ({ m' with
      verbose := v, journal := j, acc := clamp m'.acc, err := some (.fault m.pc w e),
      status := .halted }, some (.fault m.pc w e)) := by
  obtain ⟨line, hline⟩ := execute_of_decode (m.fetched w) hd
  have halike := (alike_note (m.fetched w) line).executeOp op arg
  rw [hx] at halike
  obtain ⟨v, j, hm⟩ := halike.machine.symm.exists_relog
  have hx' : (m.fetched w).execute w = ({ m' with verbose := v, journal := j }, some e) := by
    rw [hline]
    exact Prod.ext hm halike.error
  have hstep := step_of_execute_fails hs hw hx'
  obtain ⟨j', hj'⟩ := fault_of_not_fatal
    ({ m' with verbose := v, journal := j, acc := clamp m'.acc } : Machine) m.pc w he
  exact ⟨v, j', hstep.trans hj'⟩

theorem view_fetched (m : Machine) (w : Int) : (m.fetched w).view = { m.view with pc := m.pc + 1 } :=
  rfl

theorem Layout.fetched (h : m.Layout n) (w : Int) : (m.fetched w).Layout n :=
  h.congr rfl rfl rfl

theorem view_relog (m : Machine) (v : Bool) (j : Array TraceLine) (a : Int) :
    ({ m with verbose := v, journal := j, acc := a } : Machine).view = { m.view with acc := a } :=
  rfl

/-! ## The steps of a call and a return -/

theorem clamp_operand {v : Int} (hv : 0 ≤ v ∧ v ≤ 99) : clamp v = v := by
  simp only [clamp, accMin, accMax]
  omega

/-- `LDI v` loads its operand, and writes nothing. -/
theorem step_loadImmediate {v : Int} (h : m.Layout n) (hs : m.status ≠ .halted)
    (hw : m.read? m.pc = some (Op.loadImmediate.base + v)) (hv : 0 ≤ v ∧ v ≤ 99) :
    ∃ m', m.step = (m', none) ∧ m'.Layout n ∧ m'.status = .running ∧
      (∀ a, m'.read? a = m.read? a) ∧ m'.view = { m.view with acc := v, pc := m.pc + 1 } := by
  have hx : (m.fetched (Op.loadImmediate.base + v)).executeOp .loadImmediate v =
      ({ m.fetched (Op.loadImmediate.base + v) with acc := v }, none) := rfl
  obtain ⟨u, j, hstep⟩ := step_of_executeOp hs hw (Word.decode?_encode rfl hv) hx
  refine ⟨_, hstep, h.congr rfl rfl rfl, rfl, fun a => rfl, ?_⟩
  simp only [view, clamp_operand hv]
  rfl

/-- A push under the layout writes above the return stack only: every word at or below the
return base stays. -/
theorem push_keeps_code (h : m.Layout n) {a : Int} (ha : a ≤ m.returnBase) :
    m.push.1.read? a = m.read? a := by
  have hb := h.bounds
  by_cases hroom : m.rap < m.sp - 1
  · rw [push_eq h hroom]
    simp only [read?]
    split
    · rfl
    · rw [Array.set!_eq_setIfInBounds, Array.getElem?_setIfInBounds_ne]
      simp only [returnBase, returnOffset] at ha
      omega
  · rw [push_full (by omega)]

/-- `SPUSH` with room pushes the accumulator, and keeps every word at or below the return
base. -/
theorem step_push (h : m.Layout n) (hs : m.status ≠ .halted) (hw : m.read? m.pc = some Op.push.base)
    (hfree : m.view.free ≠ 0) :
    ∃ m', m.step = (m', none) ∧ m'.Layout n ∧ m'.status = .running ∧
      (∀ a ≤ m.returnBase, m'.read? a = m.read? a) ∧
      m'.view = { m.view with data := m.acc :: m.view.data, acc := clamp m.acc, pc := m.pc + 1 } := by
  have h' := h.fetched Op.push.base
  have hroom : m.rap < m.sp - 1 := by
    have hb := h.bounds
    have := h.free_eq
    omega
  obtain ⟨m1, hpush, hlay1, hview1⟩ := push_refines h' hfree
  obtain ⟨u, j, hstep⟩ := step_of_executeOp hs hw (Word.decode?_base .push) hpush
  -- the explicit push says what the view does not: the status and the words below the stacks
  have hm1 := hpush.symm.trans (push_eq h' hroom)
  simp only [Prod.mk.injEq, and_true] at hm1
  have hacc : m1.acc = m.acc := congrArg StackView.acc hview1
  refine ⟨_, hstep, hlay1.congr rfl rfl rfl, by rw [hm1]; rfl, fun a ha => ?_, ?_⟩
  · have hkeep := push_keeps_code h' ha
    rw [hpush] at hkeep
    exact hkeep
  · rw [view_relog, hview1, hacc]
    rfl

/-- `SPUSH` with no room faults at its own address and halts, with the stacks as they were. -/
theorem step_push_full (h : m.Layout n) (hs : m.status ≠ .halted)
    (hw : m.read? m.pc = some Op.push.base) (hfree : m.view.free = 0) :
    ∃ m', m.step = (m', some (.fault m.pc Op.push.base .badStack)) ∧ m'.status = .halted ∧
      m'.view = { m.view with acc := clamp m.acc, pc := m.pc + 1 } := by
  obtain ⟨u, j, hstep⟩ := step_of_executeOp_fails hs hw (Word.decode?_base .push)
    (push_refuses (h.fetched _) hfree) rfl
  exact ⟨_, hstep, rfl, rfl⟩

/-- `JAL` pops its target, pushes the address after itself onto the return stack and jumps. -/
theorem step_call {t : Int} {d : List Int} (h : m.Layout n) (hs : m.status ≠ .halted)
    (hw : m.read? m.pc = some Op.call.base) (hdata : m.view.data = t :: d) :
    ∃ m', m.step = (m', none) ∧ m'.Layout n ∧
      m'.view = { m.view with
        data := d, ret := (m.pc + 1) :: m.view.ret, acc := clamp m.acc, pc := t } := by
  have hview := call_view (h.fetched Op.call.base)
  simp only [view_fetched, StackView.exec, hdata] at hview
  obtain ⟨hnone, hv⟩ := Outcome.eq_of_view_ok hview
  have hx : (m.fetched Op.call.base).executeOp .call 0 = ((m.fetched Op.call.base).call.1, none) :=
    Prod.ext rfl hnone
  obtain ⟨u, j, hstep⟩ := step_of_executeOp hs hw (Word.decode?_base .call) hx
  have hacc : ((m.fetched Op.call.base).call).1.acc = m.acc := congrArg StackView.acc hv
  refine ⟨_, hstep, ((h.fetched _).call).congr rfl rfl rfl, ?_⟩
  rw [view_relog, hv, hacc]

/-- `RET` pops the top of the return stack into the program counter. -/
theorem step_ret {a : Int} {r : List Int} (h : m.Layout n) (hs : m.status ≠ .halted)
    (hw : m.read? m.pc = some Op.ret.base) (hret : m.view.ret = a :: r) :
    ∃ m', m.step = (m', none) ∧ m'.view = { m.view with ret := r, acc := clamp m.acc, pc := a } := by
  obtain ⟨m1, hpop, -, hv⟩ := popReturn_refines (h.fetched Op.ret.base) hret
  obtain ⟨u, j, hstep⟩ := step_of_executeOp hs hw (Word.decode?_base .ret) hpop
  have hacc : m1.acc = m.acc := congrArg StackView.acc hv
  refine ⟨_, hstep, ?_⟩
  rw [view_relog, hv, hacc]
  rfl

/-- `SPUSH` followed by `JAL` calls the address in the accumulator: the data stack comes back as
it was, and the address after the two words is on top of the return stack. -/
theorem push_call_steps (h : m.Layout n) (hs : m.status ≠ .halted)
    (hw1 : m.read? m.pc = some Op.push.base) (hw2 : m.read? (m.pc + 1) = some Op.call.base)
    (hbelow : m.pc + 1 ≤ m.returnBase) (hfree : m.view.free ≠ 0) (hacc : clamp m.acc = m.acc) :
    ∃ m2 m3, m.step = (m2, none) ∧ m2.step = (m3, none) ∧
      m3.view = { m.view with ret := (m.pc + 2) :: m.view.ret, pc := m.acc } := by
  -- the push keeps the words below the stacks, `JAL` among them
  obtain ⟨m2, hstep2, h2, hs2, hkeep2, hview2⟩ := step_push h hs hw1 hfree
  have hpc2 : m2.pc = m.pc + 1 := congrArg StackView.pc hview2
  have hacc2 : m2.acc = m.acc := (congrArg StackView.acc hview2).trans hacc
  have hw2' : m2.read? m2.pc = some Op.call.base := by rw [hpc2, hkeep2 _ hbelow, hw2]
  -- the call pops the pushed target again
  have hdata2 : m2.view.data = m.acc :: m.view.data := by rw [hview2]
  obtain ⟨m3, hstep3, -, hview3⟩ := step_call h2 (by rw [hs2]; decide) hw2' hdata2
  refine ⟨m2, m3, hstep2, hstep3, ?_⟩
  rw [hview3, hpc2, hview2, hacc2, hacc, add_assoc]
  rfl

/-- What the words of `CALL v` at address `ip` do on a machine `m` with `n` words of memory.
With room on the stacks for the target, three steps call `v`: the data stack is as it was, the
address after the words, `ip + 3`, is on top of the return stack, and the accumulator and the
program counter hold `v`. A `RET` on any machine whose return stack is that one comes back to
`ip + 3` and leaves the return stack as it was before the call. With no room, the second step
faults at `ip + 1`, with both stacks as they were. -/
structure CallsTo (m : Machine) (n : Nat) (ip v : Int) : Prop where
  calls : m.stack.length + m.returnStack.length < 100 →
    ∃ m1 m2 m3, m.step = (m1, none) ∧ m1.step = (m2, none) ∧ m2.step = (m3, none) ∧
      m3.view = { m.view with ret := (ip + 3) :: m.returnStack, acc := v, pc := v }
  returns : ∀ r : Machine, r.Layout n → r.status ≠ .halted → r.read? r.pc = some Op.ret.base →
    r.returnStack = (ip + 3) :: m.returnStack →
    ∃ r', r.step = (r', none) ∧
      r'.view = { r.view with ret := m.returnStack, acc := clamp r.acc, pc := ip + 3 }
  full : m.stack.length + m.returnStack.length = 100 →
    ∃ m1 m2, m.step = (m1, none) ∧
      m1.step = (m2, some (.fault (ip + 1) Op.push.base .badStack)) ∧
      m2.stack = m.stack ∧ m2.returnStack = m.returnStack

end Machine

open Machine in
/-- The calling convention: on a machine that has not halted, with its stacks laid out and the
words the assembler gives `CALL v` at its program counter `ip`, below the stacks, the three
steps call `v` when the stacks have room for the target and fault at the push when they have
none, and a `RET` returns to the word after the call. -/
theorem call_convention {m : Machine} {n : Nat} {ip v : Int} {ws : List Int} (h : m.Layout n)
    (hs : m.status ≠ .halted) (hpc : m.pc = ip) (hip : ip + 3 ≤ (n : Int) - 100)
    (hws : Mnemonic.callRoutine.expand v = .ok ws)
    (hcode : ∀ k : Nat, k < ws.length → m.read? (ip + k) = ws[k]?) :
    m.CallsTo n ip v := by
  obtain ⟨hv0, hv99, rfl⟩ := expand_callRoutine hws
  have hw0 : m.read? m.pc = some (Op.loadImmediate.base + v) := by
    simpa [hpc] using hcode 0 (by simp)
  have hw1 : m.read? (ip + 1) = some Op.push.base := by simpa using hcode 1 (by simp)
  have hw2 : m.read? (ip + 1 + 1) = some Op.call.base := by
    simpa [add_assoc] using hcode 2 (by simp)
  -- the first step loads the target and writes nothing
  obtain ⟨m1, hstep1, h1, hs1, hkeep1, hview1⟩ := step_loadImmediate h hs hw0 ⟨hv0, hv99⟩
  have hpc1 : m1.pc = ip + 1 := by simpa [view, hpc] using congrArg StackView.pc hview1
  have hacc1 : m1.acc = v := congrArg StackView.acc hview1
  have hfree1 : m1.view.free = 100 - m.stack.length - m.returnStack.length := by
    rw [hview1]
    rfl
  have hs1' : m1.status ≠ .halted := by rw [hs1]; decide
  have hw1' : m1.read? m1.pc = some Op.push.base := by rw [hpc1, hkeep1, hw1]
  refine ⟨fun hroom => ?_, fun r hr hrs hrw hret => ?_, fun hfull => ?_⟩
  · -- the other two push the target and call it, the call words lying below the stacks
    have hbelow : m1.pc + 1 ≤ m1.returnBase := by
      have hb := h.bounds
      simp only [returnBase, returnOffset, h1.size_eq, hpc1]
      omega
    obtain ⟨m2, m3, hstep2, hstep3, hview3⟩ := push_call_steps h1 hs1' hw1'
      (by rw [hpc1, hkeep1, hw2]) hbelow (by omega) (by rw [hacc1, clamp_operand ⟨hv0, hv99⟩])
    refine ⟨m1, m2, m3, hstep1, hstep2, hstep3, ?_⟩
    rw [hview3, hview1, hpc1, hacc1, add_assoc]
    rfl
  · -- a return pops the address the call pushed
    exact step_ret hr hrs hrw hret
  · -- the second finds no room for the target and faults
    obtain ⟨m2, hstep2, -, hview2⟩ := step_push_full h1 hs1' hw1' (by omega)
    rw [hpc1] at hstep2
    refine ⟨m1, m2, hstep1, hstep2, ?_, ?_⟩
    · calc m2.stack = m1.stack := congrArg StackView.data hview2
        _ = m.stack := congrArg StackView.data hview1
    · calc m2.returnStack = m1.returnStack := congrArg StackView.ret hview2
        _ = m.returnStack := congrArg StackView.ret hview1

/-- `CALL 5` at address 0 of a two-hundred-word machine with empty stacks. -/
theorem call_five_from_address_zero :
    let m : Machine := { memory := #[405, 920, 910] ++ Array.replicate 197 0, sp := 200, rap := 99 }
    m.Layout 200 ∧ m.status ≠ .halted ∧ m.pc = 0 ∧ (0 : Int) + 3 ≤ ((200 : Nat) : Int) - 100 ∧
      Mnemonic.callRoutine.expand 5 = .ok [405, 920, 910] ∧
      (∀ k : Nat, k < [405, 920, 910].length →
        m.read? (0 + k) = ([405, 920, 910] : List Int)[k]?) ∧
      m.CallsTo 200 0 5 := by
  intro m
  have h : m.Layout 200 := by
    rw [Machine.layout_iff]
    simp [m, Machine.size]
  have hexp : Mnemonic.callRoutine.expand 5 = .ok [405, 920, 910] := rfl
  have hcode : ∀ k : Nat, k < [405, 920, 910].length →
      m.read? (0 + k) = ([405, 920, 910] : List Int)[k]? := by
    intro k hk
    simp only [List.length_cons, List.length_nil] at hk
    interval_cases k <;> simp [m, Machine.read?]
  exact ⟨h, by decide, rfl, by decide, hexp, hcode,
    call_convention h (by decide) rfl (by decide) hexp hcode⟩

/-- A halted machine does not call. With the words of `CALL 10` at its program counter and
both stacks empty, its step leaves it as it is: three steps later it is still at address 0,
not at the target. -/
theorem halted_machine_skips_call :
    let m : Machine := { memory := #[410, 920, 910] ++ Array.replicate 197 0, sp := 200, rap := 99,
                         status := .halted }
    m.Layout 200 ∧ Mnemonic.callRoutine.expand 10 = .ok [410, 920, 910] ∧
      m.stack.length + m.returnStack.length < 100 ∧ m.step = (m, none) ∧ m.pc ≠ 10 := by
  intro m
  have h : m.Layout 200 := by
    rw [Machine.layout_iff]
    simp [m, Machine.size]
  refine ⟨h, rfl, ?_, Machine.step_of_halted rfl, by decide⟩
  simp [m, Machine.stack, Machine.returnStack, Machine.returnBase, Machine.size, returnOffset]

end DecimalMachine
