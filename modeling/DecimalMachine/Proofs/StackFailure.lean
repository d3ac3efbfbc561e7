import Mathlib
import DecimalMachine.Proofs.StackRefinement

/-!
# What a failing stack instruction leaves

A stack instruction that fails reports `badStack`, or `divisionByZero` for `SDIV`. The compound
instructions are chains of pointer moves, and a chain can fail part-way, after some of its moves
went through. This module says exactly what such a failure leaves, on a machine whose stacks are
laid out as `Machine.Layout` says.

* The accumulator the compound instructions borrow comes back (`scratch`), and no failing chain
  has written memory: `SDUP`, whose last push fails, has only written the popped value back where
  it was (`pop_andThen_push`).
* The return stack pointer and the program counter move only when `JAL` or `RET` succeeds; a
  `JAL` that finds the return stack full has put its target back.
* The data stack pointer is the exception. `SSWAP` and the binary instructions pop before they
  know whether they can finish: on a single value they have popped it, and a division by zero
  has popped both operands. `StackOp.poppedOnFailure` counts these values.

So a failing stack instruction leaves the machine exactly as it was but for its data stack
pointer, which has moved past the values it popped (`failing_stack_op_only_pops`), and a
`SSWAP` on one value shows that this is not always nothing (`swap_on_one_value_moves_sp`).
-/

namespace DecimalMachine

/-- How many values a stack instruction has popped off the data stack `d` when it fails: `SSWAP`
and the binary instructions on a single value have popped it, a binary instruction whose
arithmetic fails (a division by zero) has popped both operands, and every other failure has
popped nothing. -/
def StackOp.poppedOnFailure : StackOp → List Int → Nat
  | .swap, [_] => 1
  | .arith _, [_] => 1
  | .arith _, _ :: _ :: _ => 2
  | _, _ => 0

namespace Machine

variable {m : Machine} {n : Nat}

/-- A chain that fails leaves the machine it failed on, with the borrowed accumulator back. -/
theorem scratch_of_failure {f : Machine → Outcome} {m' : Machine} {e : Error}
    (hf : f m = (m', some e)) : m.scratch f = ({ m' with acc := m.acc }, some e) := by
  rw [scratch_eq, hf]

/-- Writing a word back where it was read changes nothing. -/
theorem set!_read_self {a : Int} (h0 : 0 ≤ a) (h : a < m.size) :
    m.memory.set! a.toNat (m.read a) = m.memory := by
  have hlt : a.toNat < m.memory.toList.length := by
    simp only [size, Array.length_toList] at h ⊢
    omega
  apply Array.toList_inj.mp
  rw [Array.set!_eq_setIfInBounds, Array.toList_setIfInBounds, read_eq_getElem h0 hlt,
    List.set_getElem_self]

/-- A pop off a data stack `x :: d` leaves `d` and the accumulator `x`. -/
theorem pop_cons (h : m.Layout n) (hs : m.stack = x :: d) :
    m.pop = ({ m with acc := x, sp := m.sp + 1 }, none) ∧
      ({ m with acc := x, sp := m.sp + 1 } : Machine).Layout n ∧
      ({ m with acc := x, sp := m.sp + 1 } : Machine).stack = d := by
  have hne := h.sp_lt_of_data (x := x) (d := d) hs
  have hcons := stack_eq_read_cons h hne x
  rw [hs] at hcons
  obtain ⟨hx, hd⟩ := List.cons.inj hcons
  have hpop := pop_eq h hne
  rw [← hx] at hpop
  refine ⟨hpop, ?_, hd.symm⟩
  simpa only [hpop] using h.pop

/-- Two pops off a data stack `r :: l :: d` leave `d`, the accumulator `l`, and the data stack
pointer two words up. -/
theorem pop_pop_cons (h : m.Layout n) (hs : m.stack = r :: l :: d) :
    m.pop = ({ m with acc := r, sp := m.sp + 1 }, none) ∧
      ({ m with acc := r, sp := m.sp + 1 } : Machine).pop =
        ({ m with acc := l, sp := m.sp + 2 }, none) := by
  obtain ⟨hpop1, h1, hs1⟩ := pop_cons h hs
  obtain ⟨hpop2, -, -⟩ := pop_cons h1 hs1
  have hsp : m.sp + 1 + 1 = m.sp + 2 := by omega
  refine ⟨hpop1, ?_⟩
  rw [hpop2]
  simp only [hsp]

/-- A push right after a pop writes the popped value back where it was: only the accumulator
changes. -/
theorem pop_andThen_push (h : m.Layout n) (hs : m.stack = x :: d) :
    m.pop.andThen push = ({ m with acc := x }, none) := by
  have hb := h.bounds
  have hne := h.sp_lt_of_data (x := x) (d := d) hs
  obtain ⟨hpop, h1, -⟩ := pop_cons h hs
  have hx : m.read m.sp = x := by
    have hcons := stack_eq_read_cons h hne x
    rw [hs] at hcons
    exact (List.cons.inj hcons).1.symm
  have hsp : m.sp + 1 - 1 = m.sp := by omega
  simp only [stackBase] at hne
  rw [hpop, Outcome.andThen_none, push_eq h1 (by simp only; omega)]
  simp only [hsp, ← hx, set!_read_self (m := m) (by omega) hne]

/-! ## One lemma per instruction

Each failing chain is followed move by move; a chain that would go through to the end is
ruled out by the view lemmas of the refinement, which say exactly when an instruction fails. -/

theorem push_failure (h : m.Layout n) (he : m.push.2 ≠ none) : m.push.1 = m := by
  by_cases hfree : m.view.free = 0
  · rw [push_refuses h hfree]
  · obtain ⟨m', hpush, -⟩ := push_refines h hfree
    rw [hpush] at he
    exact absurd rfl he

theorem pop_failure (h : m.Layout n) (he : m.pop.2 ≠ none) : m.pop.1 = m := by
  cases hs : m.stack with
  | nil => rw [pop_refuses h hs]
  | cons x d =>
    rw [(pop_cons h hs).1] at he
    exact absurd rfl he

theorem drop_failure (h : m.Layout n) (he : m.drop.2 ≠ none) : m.drop.1 = m := by
  cases hs : m.stack with
  | nil => rw [Machine.drop, scratch_of_failure (pop_refuses h hs)]
  | cons x d =>
    rw [Machine.drop, scratch_eq, (pop_cons h hs).1] at he
    exact absurd rfl he

/-- `SDUP` pops, pushes back, and pushes again; once the pop went through only the last push
can fail, and by then the first push has restored the stack. -/
theorem dup_failure (h : m.Layout n) (he : m.dup.2 ≠ none) : m.dup.1 = m := by
  cases hs : m.stack with
  | nil =>
    rw [Machine.dup, scratch_eq]
    simp only [pop_refuses h hs, Outcome.andThen_some]
  | cons x d =>
    have hchain : (m.pop.andThen fun m => m.push.andThen push) =
        ({ m with acc := x } : Machine).push := by
      rw [(pop_cons h hs).1, Outcome.andThen_none, ← Outcome.andThen_none _ push,
        ← (pop_cons h hs).1, pop_andThen_push h hs, Outcome.andThen_none]
    rw [Machine.dup, scratch_eq, hchain] at he ⊢
    rw [push_failure (h.setAcc x) he]

theorem swap_failure (h : m.Layout n) (he : m.swap.2 ≠ none) :
    m.swap.1 = { m with sp := m.sp + StackOp.swap.poppedOnFailure m.stack } := by
  match hs : m.stack with
  | [] =>
    rw [Machine.swap, scratch_eq]
    simp [pop_refuses h hs, StackOp.poppedOnFailure]
  | [x] =>
    -- the first pop goes through, the second finds the stack empty
    obtain ⟨hpop, h1, hs1⟩ := pop_cons h hs
    rw [Machine.swap, scratch_eq]
    simp only [hpop, Outcome.andThen_none, pop_refuses h1 hs1, Outcome.andThen_some]
    rfl
  | a :: b :: d =>
    have hv := swap_view h
    simp only [StackView.exec, view_data, hs] at hv
    exact absurd (Outcome.eq_of_view_ok hv).1 he

/-- A binary instruction pops both operands before it computes, so a division by zero has
consumed them. -/
theorem combine_failure (h : m.Layout n) (f : StackArith) (he : (m.combine f.apply).2 ≠ none) :
    (m.combine f.apply).1 = { m with sp := m.sp + (StackOp.arith f).poppedOnFailure m.stack } := by
  match hs : m.stack with
  | [] =>
    rw [Machine.combine, scratch_eq]
    simp [pop_refuses h hs, StackOp.poppedOnFailure]
  | [x] =>
    obtain ⟨hpop, h1, hs1⟩ := pop_cons h hs
    rw [Machine.combine, scratch_eq]
    simp only [hpop, Outcome.andThen_none, pop_refuses h1 hs1, Outcome.andThen_some]
    rfl
  | r :: l :: d =>
    obtain ⟨hpop1, hpop2⟩ := pop_pop_cons h hs
    cases happ : f.apply l r with
    | ok x =>
      have hv := combine_view h f
      simp only [StackView.exec, view_data, hs, happ] at hv
      exact absurd (Outcome.eq_of_view_ok hv).1 he
    | error e =>
      -- both pops went through: the data stack pointer has moved past both operands
      rw [Machine.combine, scratch_eq]
      simp only [hpop1, Outcome.andThen_none, hpop2, happ]
      rfl

/-- `JAL` pushes its return address only after its pop went through, and then always finds
room; so it fails only on an empty data stack, before any move. -/
theorem call_failure (h : m.Layout n) (he : m.call.2 ≠ none) : m.call.1 = m := by
  cases hs : m.stack with
  | nil =>
    have hlen := length_stack h
    rw [hs, List.length_nil] at hlen
    rw [call_empty (by omega)]
  | cons t d =>
    have hv := call_view h
    simp only [StackView.exec, view_data, hs] at hv
    exact absurd (Outcome.eq_of_view_ok hv).1 he

theorem popReturn_failure (h : m.Layout n) (he : m.popReturn.2 ≠ none) : m.popReturn.1 = m := by
  cases hs : m.view.ret with
  | nil => rw [popReturn_refuses h hs]
  | cons a r =>
    obtain ⟨m', hret, -⟩ := popReturn_refines h hs
    rw [hret] at he
    exact absurd rfl he

/-- Moving the data stack pointer up past `k` values drops them from the data stack. -/
theorem stack_with_sp_add (h0 : 0 ≤ m.sp) (k : Nat) :
    ({ m with sp := m.sp + k } : Machine).stack = m.stack.drop k := by
  rw [stack_eq_drop (m := { m with sp := m.sp + k }) (by simp only; omega), stack_eq_drop h0,
    List.drop_drop]
  congr 1
  simp only
  omega

end Machine

/-- A failing stack instruction loses only what it popped. On a machine whose stacks are laid
out as `Machine.Layout` says, a stack instruction that fails leaves the machine exactly as it
was (memory, accumulator, program counter, return stack pointer and all the rest) but for the
data stack pointer, which has moved past the values the instruction popped before it failed:
one for `SSWAP` or a binary instruction on a single value, both operands for a division by
zero, none otherwise. So the data stack it leaves is the old one without those values, and the
return stack is untouched. -/
theorem failing_stack_op_only_pops {m : Machine} {n : Nat} (h : m.Layout n) (s : StackOp)
    (arg : Int) (he : (m.executeOp s.op arg).2 ≠ none) :
    (m.executeOp s.op arg).1 = { m with sp := m.sp + s.poppedOnFailure m.stack } ∧
      (m.executeOp s.op arg).1.stack = m.stack.drop (s.poppedOnFailure m.stack) ∧
      (m.executeOp s.op arg).1.returnStack = m.returnStack := by
  have heq : (m.executeOp s.op arg).1 = { m with sp := m.sp + s.poppedOnFailure m.stack } := by
    cases s with
    | push => simpa [StackOp.op, Machine.executeOp, StackOp.poppedOnFailure] using
        Machine.push_failure h he
    | pop => simpa [StackOp.op, Machine.executeOp, StackOp.poppedOnFailure] using
        Machine.pop_failure h he
    | dup => simpa [StackOp.op, Machine.executeOp, StackOp.poppedOnFailure] using
        Machine.dup_failure h he
    | drop => simpa [StackOp.op, Machine.executeOp, StackOp.poppedOnFailure] using
        Machine.drop_failure h he
    | swap => exact Machine.swap_failure h he
    | arith f =>
      rw [StackOp.op, Machine.executeOp_arith] at he ⊢
      exact Machine.combine_failure h f he
    | call => simpa [StackOp.op, Machine.executeOp, StackOp.poppedOnFailure] using
        Machine.call_failure h he
    | ret => simpa [StackOp.op, Machine.executeOp, StackOp.poppedOnFailure] using
        Machine.popReturn_failure h he
  have hb := h.bounds
  refine ⟨heq, ?_, ?_⟩
  · rw [heq, Machine.stack_with_sp_add (by omega)]
  · rw [heq]
    rfl

/-- `SSWAP` on a data stack of one value fails, having popped that value. -/
theorem swap_on_one_value_fails_popping_it :
    let m : Machine := { memory := (Array.replicate 199 0).push 5, sp := 199, rap := 99 }
    m.Layout 200 ∧ (m.executeOp StackOp.swap.op 0).2 ≠ none ∧
      (m.executeOp StackOp.swap.op 0).1 =
          { m with sp := m.sp + StackOp.swap.poppedOnFailure m.stack } ∧
        (m.executeOp StackOp.swap.op 0).1.stack =
          m.stack.drop (StackOp.swap.poppedOnFailure m.stack) ∧
        (m.executeOp StackOp.swap.op 0).1.returnStack = m.returnStack := by
  intro m
  have hl : m.Layout 200 := by
    rw [Machine.layout_iff]
    simp [m, Machine.size]
  have hf : (m.executeOp StackOp.swap.op 0).2 ≠ none := by
    simp [m, StackOp.op, Machine.executeOp, Machine.swap, Machine.scratch, Machine.pop,
      Machine.stackBase, Machine.size, Outcome.andThen]
  exact ⟨hl, hf, failing_stack_op_only_pops hl .swap 0 hf⟩

/-- A failing stack instruction does not always leave the data stack pointer where it was: in a
memory of two hundred words with one value on the data stack, `SSWAP` fails and leaves the
pointer at 200 instead of 199. -/
theorem swap_on_one_value_moves_sp :
    let m : Machine := { memory := (Array.replicate 199 0).push 5, sp := 199, rap := 99 }
    m.Layout 200 ∧ (m.executeOp StackOp.swap.op 0).2 = some .badStack ∧
      (m.executeOp StackOp.swap.op 0).1.sp ≠ m.sp := by
  intro m
  refine ⟨?_, ?_, ?_⟩
  · rw [Machine.layout_iff]
    simp [m, Machine.size]
  · simp [m, StackOp.op, Machine.executeOp, Machine.swap, Machine.scratch, Machine.pop,
      Machine.stackBase, Machine.size, Outcome.andThen]
  · simp [m, StackOp.op, Machine.executeOp, Machine.swap, Machine.scratch, Machine.pop,
      Machine.stackBase, Machine.size, Outcome.andThen]

end DecimalMachine
