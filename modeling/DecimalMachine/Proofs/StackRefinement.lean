import Mathlib.Control.Monad.Basic
import DecimalMachine.Proofs.StackLayout

/-!
# The stack operations refine two bounded abstract stacks

The machine keeps both stacks in one stretch of a hundred words and moves values through
the accumulator. A client sees something simpler: a data stack and a return stack as lists,
top first, sharing a capacity of one hundred values, and thirteen operations on them. This
module states that simpler machine and shows that every stack instruction, run on a machine
that satisfies the layout invariant, does exactly what it says.

* **`StackView`** — the abstract state: the two stacks, the accumulator and the program
  counter. `StackView.free` is the room the two stacks have left.
* **`StackView.exec`** — the abstract operations, each given directly on the lists: which
  elements it consumes, what it leaves, and when it fails.
* **`Machine.view`** — the abstraction: `stack`, `returnStack`, `acc` and `pc` of a machine.
* **the move lemmas** — `pop_refines`, `push_refines`, `pushReturn_refines` and
  `popReturn_refines` say what one pointer move does to the view. The compound operations
  are chains of these moves, so their lemmas follow the chain without opening memory again.
* **`executeOp_refines`** — the main statement: through the view, `executeOp` of a stack
  instruction is `StackView.exec`, failure and its error included.

The subtle case is `JAL`: it pops the target and pushes the return address into the word the
pop has just freed, so it never runs out of room; its lemma reads that word as the new top of
the return stack and the rest of memory as the untouched data stack.
-/

namespace DecimalMachine

/-- The two stacks as lists, top first, with the accumulator and the program counter. -/
structure StackView where
  data : List Int
  ret : List Int
  acc : Int
  pc : Int
  deriving DecidableEq, Repr

namespace StackView

/-- The words of the shared hundred that neither stack holds. -/
def free (v : StackView) : Int :=
  100 - v.data.length - v.ret.length

@[simp] theorem free_setAcc (v : StackView) (a : Int) : { v with acc := a }.free = v.free := rfl

theorem free_push (v : StackView) (x : Int) : { v with data := x :: v.data }.free = v.free - 1 := by
  simp only [free, List.length_cons]
  omega

end StackView

/-- The arithmetic of the binary stack instructions, on the left operand (pushed first) and
the right one (on top): 64-bit wrapping sums, differences and products, division truncating
toward zero that refuses a zero divisor, and the larger or smaller operand. -/
inductive StackArith where
  | add
  | sub
  | mul
  | div
  | max
  | min
  deriving DecidableEq, Repr

namespace StackArith

/-- The result of an arithmetic instruction on `left` and `right`, before clamping. -/
def apply : StackArith → Int → Int → Except Error Int
  | add, l, r => .ok (wrap (l + r))
  | sub, l, r => .ok (wrap (l - r))
  | mul, l, r => .ok (wrap (l * r))
  | div, l, r => if r = 0 then .error .divisionByZero else .ok (wrap (l.tdiv r))
  | max, l, r => .ok (Max.max l r)
  | min, l, r => .ok (Min.min l r)

/-- The machine operation of an arithmetic instruction. -/
def op : StackArith → Op
  | add => .stackAdd
  | sub => .stackSub
  | mul => .stackMul
  | div => .stackDiv
  | max => .stackMax
  | min => .stackMin

end StackArith

/-- The thirteen stack instructions. -/
inductive StackOp where
  | push
  | pop
  | dup
  | drop
  | swap
  | arith (f : StackArith)
  | call
  | ret
  deriving DecidableEq, Repr

/-- The machine operation of a stack instruction. -/
def StackOp.op : StackOp → Op
  | push => .push
  | pop => .pop
  | dup => .dup
  | drop => .drop
  | swap => .swap
  | arith f => f.op
  | call => .call
  | ret => .ret

namespace StackView

/-- The abstract stack instructions. An instruction fails with `badStack` when its stack
holds fewer values than it consumes, or, for the two that grow the data stack, when no room
is left; a binary instruction whose arithmetic fails passes that failure on. -/
def exec : StackOp → StackView → Except Error StackView
  | .push, v => if v.free = 0 then .error .badStack else .ok { v with data := v.acc :: v.data }
  | .pop, v =>
    match v.data with
    | x :: d => .ok { v with data := d, acc := x }
    | [] => .error .badStack
  | .dup, v =>
    match v.data with
    | x :: d => if v.free = 0 then .error .badStack else .ok { v with data := x :: x :: d }
    | [] => .error .badStack
  | .drop, v =>
    match v.data with
    | _ :: d => .ok { v with data := d }
    | [] => .error .badStack
  | .swap, v =>
    match v.data with
    | a :: b :: d => .ok { v with data := b :: a :: d }
    | _ => .error .badStack
  | .arith f, v =>
    match v.data with
    | r :: l :: d => (fun x => { v with data := clamp x :: d }) <$> f.apply l r
    | _ => .error .badStack
  | .call, v =>
    match v.data with
    | t :: d => .ok { v with data := d, ret := v.pc :: v.ret, pc := t }
    | [] => .error .badStack
  | .ret, v =>
    match v.ret with
    | a :: r => .ok { v with ret := r, pc := a }
    | [] => .error .badStack

end StackView

namespace Machine

/-- What a client sees of a machine's stacks. -/
def view (m : Machine) : StackView :=
  ⟨m.stack, m.returnStack, m.acc, m.pc⟩

end Machine

/-- What a client sees of an outcome: the view of the machine, or the failure. -/
def Outcome.view (o : Outcome) : Except Error StackView :=
  match o.2 with
  | none => .ok o.1.view
  | some e => .error e

namespace Machine

variable {m : Machine} {n : Nat}

theorem view_data (m : Machine) : m.view.data = m.stack := rfl
theorem view_ret (m : Machine) : m.view.ret = m.returnStack := rfl
theorem view_acc (m : Machine) : m.view.acc = m.acc := rfl
theorem view_pc (m : Machine) : m.view.pc = m.pc := rfl

@[simp] theorem view_setAcc (m : Machine) (a : Int) :
    ({ m with acc := a } : Machine).view = { m.view with acc := a } := rfl

/-- Under the invariant the room left is the gap between the two stack pointers. -/
theorem Layout.free_eq (h : m.Layout n) : m.view.free = m.sp - m.rap - 1 := by
  have hdata := length_stack h
  have hret := length_returnStack h
  simp only [StackView.free, view_data, view_ret, stackBase, returnBase, returnOffset]
    at hdata hret ⊢
  omega

@[simp] theorem Outcome.view_none (m : Machine) : Outcome.view (m, none) = .ok m.view := rfl

@[simp] theorem Outcome.view_some (m : Machine) (e : Error) :
    Outcome.view (m, some e) = .error e := rfl

/-- An outcome whose view is a machine's view reports no failure and leaves that machine. -/
theorem Outcome.eq_of_view_ok {o : Outcome} {v : StackView} (h : o.view = .ok v) :
    o.2 = none ∧ o.1.view = v := by
  obtain ⟨m', _ | e⟩ := o
  · exact ⟨rfl, Except.ok.inj h⟩
  · cases h

@[simp] theorem Outcome.andThen_none (m : Machine) (f : Machine → Outcome) :
    Outcome.andThen (m, none) f = f m := rfl

@[simp] theorem Outcome.andThen_some (m : Machine) (e : Error) (f : Machine → Outcome) :
    Outcome.andThen (m, some e) f = (m, some e) := rfl

theorem scratch_view (f : Machine → Outcome) :
    (m.scratch f).view = (fun v => { v with acc := m.acc }) <$> (f m).view := by
  rw [scratch_eq]
  obtain ⟨m', _ | e⟩ := f m <;> rfl

/-! ## The stacks after one pointer move

Each move either reads the word at a pointer and steps past it, or writes the word just
beyond a stack's top and steps onto it. Read off the memory list, that is a `drop` gaining
or losing its head, or a `take` gaining or losing its last element. -/

/-- Writing the element just past a prefix extends the prefix by it. -/
theorem take_add_one_set {α : Type} {l : List α} {k : Nat} (hk : k < l.length) (v : α) :
    (l.set k v).take (k + 1) = l.take k ++ [v] := by
  rw [List.take_add_one, List.take_set_of_le (Nat.le_refl k), List.getElem?_set_self hk]
  rfl

/-- A stretch of a list read backwards, one element longer at its top end. -/
theorem reverse_drop_take_add_one {α : Type} {l : List α} {b k : Nat} (hb : b ≤ k)
    (hk : k < l.length) :
    ((l.take (k + 1)).drop b).reverse = l[k] :: ((l.take k).drop b).reverse := by
  rw [List.take_add_one, List.getElem?_eq_getElem hk, Option.toList_some,
    List.drop_append_of_le_length (by simp only [List.length_take]; omega), List.reverse_append]
  rfl

theorem read_eq_getElem {a : Int} (h0 : 0 ≤ a) (h : a.toNat < m.memory.toList.length) :
    m.read a = m.memory.toList[a.toNat] := by
  unfold read read?
  rw [if_neg (Int.not_lt.mpr h0), Array.getElem?_eq_getElem (by simpa using h)]
  simp

/-- Taking the top off the data stack. -/
theorem stack_eq_read_cons (h : m.Layout n) (hne : m.sp < m.stackBase) (a : Int) :
    m.stack = m.read m.sp :: ({ m with acc := a, sp := m.sp + 1 } : Machine).stack := by
  have hb := h.bounds
  have hlt : m.sp.toNat < m.memory.toList.length := by
    simp only [stackBase, size, Array.length_toList] at hne hb ⊢
    omega
  rw [stack_eq_drop (m := m) (by omega), stack_eq_drop (m := { m with acc := a, sp := m.sp + 1 })
    (show (0 : Int) ≤ m.sp + 1 by omega), List.drop_eq_getElem_cons hlt,
    read_eq_getElem (by omega) hlt]
  congr 2
  show m.sp.toNat + 1 = (m.sp + 1).toNat
  omega

/-- Writing a value just below the data stack and stepping onto it. -/
theorem stack_push (h : m.Layout n) (hroom : m.rap < m.sp - 1) (v : Int) :
    ({ m with memory := m.memory.set! (m.sp - 1).toNat v, sp := m.sp - 1 } : Machine).stack =
      v :: m.stack := by
  have hb := h.bounds
  have hlt : (m.sp - 1).toNat < m.memory.toList.length := by
    simp only [size, Array.length_toList] at hb ⊢
    omega
  rw [stack_eq_drop (m := { m with memory := m.memory.set! (m.sp - 1).toNat v, sp := m.sp - 1 })
    (show (0 : Int) ≤ m.sp - 1 by omega), stack_eq_drop (m := m) (by omega)]
  simp only [Array.set!_eq_setIfInBounds, Array.toList_setIfInBounds]
  rw [List.drop_set, if_neg (Nat.lt_irrefl _), Nat.sub_self, List.drop_eq_getElem_cons hlt,
    List.set_cons_zero]
  congr 2
  omega

/-- Writing a value just above the return stack and stepping onto it; the word may be the one
the data stack has just given up, so only the top of memory bounds it. -/
theorem returnStack_push (h : m.Layout n) (hlt : m.rap + 1 < m.size) {v : Int} (m' : Machine)
    (hmem : m'.memory = m.memory.set! (m.rap + 1).toNat v) (hrap : m'.rap = m.rap + 1) :
    m'.returnStack = v :: m.returnStack := by
  have hb := h.bounds
  have hk : (m.rap + 1).toNat < m.memory.toList.length := by
    simp only [size, Array.length_toList] at hlt ⊢
    omega
  -- the written machine keeps the memory size, so its return base stays where it was
  have hsize : m'.size = m.size := by
    simp only [size, hmem, Array.set!_eq_setIfInBounds, Array.size_setIfInBounds]
  have hrb : m'.returnBase = m.returnBase := by simp only [returnBase, hsize]
  rw [returnStack_eq_of (m := m')
    (by rw [hrb, hrap]; simp only [returnBase, returnOffset]; omega)
    (by rw [hsize, hrap]; exact hlt), returnStack_eq h, hrb, hrap, hmem]
  have hidx : (m.rap + 1 + 1).toNat = (m.rap + 1).toNat + 1 := by omega
  have hbase : (m.returnBase + 1).toNat ≤ (m.rap + 1).toNat := by
    simp only [returnBase, returnOffset]
    omega
  have hlen : (m.memory.toList.take (m.rap + 1).toNat).length = (m.rap + 1).toNat := by
    simp only [List.length_take]
    omega
  simp only [Array.set!_eq_setIfInBounds, Array.toList_setIfInBounds, hidx]
  rw [take_add_one_set hk, List.drop_append_of_le_length (by rw [hlen]; exact hbase),
    List.reverse_append]
  rfl

/-- Taking the top off the return stack. -/
theorem returnStack_eq_read_cons (h : m.Layout n) (hne : m.returnBase < m.rap) (p : Int) :
    m.returnStack =
      m.read m.rap :: ({ m with pc := p, rap := m.rap - 1 } : Machine).returnStack := by
  have hb := h.bounds
  have hk : m.rap.toNat < m.memory.toList.length := by
    simp only [size, Array.length_toList] at hb ⊢
    omega
  have hbase : (m.returnBase + 1).toNat ≤ m.rap.toNat := by omega
  rw [returnStack_eq h, returnStack_eq_of (m := { m with pc := p, rap := m.rap - 1 })
    (show m.returnBase ≤ m.rap - 1 by omega) (show m.rap - 1 < m.size by omega)]
  have hidx : (m.rap + 1).toNat = m.rap.toNat + 1 := by omega
  have hidx' : (m.rap - 1 + 1).toNat = m.rap.toNat := by omega
  simp only [hidx, hidx']
  rw [reverse_drop_take_add_one hbase hk, read_eq_getElem (by omega) hk]
  rfl

/-! ## One pointer move through the view

Under the invariant each move is decided by the view alone: a pop by whether its stack is
empty, a push by whether any room is left. When it goes through, the view changes as the
abstract move says and the invariant still holds. -/

theorem Layout.free_nonneg (h : m.Layout n) : 0 ≤ m.view.free := by
  have hb := h.bounds
  rw [h.free_eq]
  omega

theorem Layout.sp_lt_of_data (h : m.Layout n) (hs : m.view.data = x :: d) : m.sp < m.stackBase := by
  have hlen := length_stack h
  simp only [view_data] at hs
  simp only [hs, List.length_cons] at hlen
  omega

theorem pop_refines (h : m.Layout n) (hs : m.view.data = x :: d) :
    ∃ m', m.pop = (m', none) ∧ m'.Layout n ∧ m'.view = { m.view with data := d, acc := x } := by
  have hne := h.sp_lt_of_data hs
  have hcons := stack_eq_read_cons h hne (m.read m.sp)
  simp only [view_data] at hs
  rw [hs] at hcons
  obtain ⟨rfl, rfl⟩ := List.cons.inj hcons
  exact ⟨_, pop_eq h hne, by simpa only [pop_eq h hne] using h.pop, rfl⟩

theorem pop_refuses (h : m.Layout n) (hs : m.view.data = []) : m.pop = (m, some .badStack) := by
  have hlen := length_stack h
  simp only [view_data] at hs
  simp only [hs, List.length_nil] at hlen
  exact pop_empty (by omega)

theorem push_refines (h : m.Layout n) (hfree : m.view.free ≠ 0) :
    ∃ m', m.push = (m', none) ∧ m'.Layout n ∧
      m'.view = { m.view with data := m.view.acc :: m.view.data } := by
  have hb := h.bounds
  have hroom : m.rap < m.sp - 1 := by
    have := h.free_eq
    omega
  have hret : ({ m with memory := m.memory.set! (m.sp - 1).toNat m.acc, sp := m.sp - 1 } :
      Machine).returnStack = m.returnStack :=
    returnStack_set_of_gt m.acc h (by omega)
  refine ⟨_, push_eq h hroom, by simpa only [push_eq h hroom] using h.push, ?_⟩
  simp only [view, stack_push h hroom, hret]

theorem push_refuses (h : m.Layout n) (hfree : m.view.free = 0) : m.push = (m, some .badStack) :=
  push_full (by have := h.free_eq; omega)

theorem pushReturn_refines (h : m.Layout n) (hfree : m.view.free ≠ 0) (ip : Int) :
    ∃ m', m.pushReturn ip = (m', none) ∧ m'.Layout n ∧
      m'.view = { m.view with ret := ip :: m.view.ret } := by
  have hb := h.bounds
  have hroom : m.rap + 1 < m.sp := by
    have := h.free_eq
    omega
  have hstack : ({ m with memory := m.memory.set! (m.rap + 1).toNat ip, rap := m.rap + 1 } :
      Machine).stack = m.stack :=
    stack_set_of_lt ip (by omega) hroom
  have hl := h.pushReturn ip
  rw [pushReturn_eq h ip hroom] at hl
  refine ⟨_, pushReturn_eq h ip hroom, hl, ?_⟩
  simp only [view, hstack, returnStack_push h (by omega) { m with
    memory := m.memory.set! (m.rap + 1).toNat ip, rap := m.rap + 1 } rfl rfl]

theorem popReturn_refines (h : m.Layout n) (hs : m.view.ret = a :: r) :
    ∃ m', m.popReturn = (m', none) ∧ m'.Layout n ∧ m'.view = { m.view with ret := r, pc := a } := by
  have hlen := length_returnStack h
  simp only [view_ret] at hs
  simp only [hs, List.length_cons] at hlen
  have hne : m.returnBase < m.rap := by omega
  have hcons := returnStack_eq_read_cons h hne (m.read m.rap)
  rw [hs] at hcons
  obtain ⟨rfl, rfl⟩ := List.cons.inj hcons
  exact ⟨_, popReturn_eq h hne, by simpa only [popReturn_eq h hne] using h.popReturn, rfl⟩

theorem popReturn_refuses (h : m.Layout n) (hs : m.view.ret = []) :
    m.popReturn = (m, some .badStack) := by
  have hlen := length_returnStack h
  simp only [view_ret] at hs
  simp only [hs, List.length_nil] at hlen
  exact popReturn_empty (by omega)

/-! ## The stack instructions through the view

Each instruction is a chain of moves; its lemma follows the chain, splitting on the shape of
the stack it consumes, and reads off the abstract result. The accumulator the compound
instructions borrow comes back through `scratch_view`. -/

theorem push_view (h : m.Layout n) : m.push.view = m.view.exec .push := by
  by_cases hfree : m.view.free = 0
  · rw [push_refuses h hfree]
    simp [StackView.exec, hfree]
  · obtain ⟨m', hpush, -, hv⟩ := push_refines h hfree
    rw [hpush]
    simp [StackView.exec, hfree, hv]

theorem pop_view (h : m.Layout n) : m.pop.view = m.view.exec .pop := by
  cases hs : m.view.data with
  | nil =>
    rw [pop_refuses h hs]
    simp [StackView.exec, hs]
  | cons x d =>
    obtain ⟨m', hpop, -, hv⟩ := pop_refines h hs
    rw [hpop]
    simp [StackView.exec, hs, hv]

theorem drop_view (h : m.Layout n) : m.drop.view = m.view.exec .drop := by
  rw [Machine.drop, scratch_view]
  cases hs : m.view.data with
  | nil =>
    rw [pop_refuses h hs]
    simp [StackView.exec, hs]
  | cons x d =>
    obtain ⟨m', hpop, -, hv⟩ := pop_refines h hs
    rw [hpop]
    simp [StackView.exec, hs, hv, view_acc]

/-- `SDUP` pops the top, pushes it back and pushes it again: the second push is the one that
needs the room. -/
theorem dup_view (h : m.Layout n) : m.dup.view = m.view.exec .dup := by
  rw [Machine.dup, scratch_view]
  have hfree0 := h.free_nonneg
  cases hs : m.view.data with
  | nil =>
    rw [pop_refuses h hs]
    simp [StackView.exec, hs]
  | cons x d =>
    obtain ⟨m1, hpop, h1, hv1⟩ := pop_refines h hs
    have hfree1 : m1.view.free = m.view.free + 1 := by
      rw [hv1]
      simp only [StackView.free, hs, List.length_cons]
      omega
    obtain ⟨m2, hpush, h2, hv2⟩ := push_refines h1 (by omega)
    have hfree2 : m2.view.free = m.view.free := by
      rw [hv2, hv1]
      simp only [StackView.free, hs, List.length_cons]
    rw [hpop, Outcome.andThen_none, hpush, Outcome.andThen_none]
    by_cases hfree : m.view.free = 0
    · rw [push_refuses h2 (by omega)]
      simp [StackView.exec, hs, hfree]
    · obtain ⟨m3, hpush3, -, hv3⟩ := push_refines h2 (by omega)
      rw [hpush3]
      simp [StackView.exec, hs, hfree, hv3, hv2, hv1, view_acc]

/-- Two pops leave two words of room, so the pushes that follow them in `SSWAP` and in the
binary instructions always go through. -/
theorem pop_pop_refines (h : m.Layout n) (hs : m.view.data = r :: l :: d) :
    ∃ m1 m2, m.pop = (m1, none) ∧ m1.pop = (m2, none) ∧ m1.acc = r ∧ m2.acc = l ∧
      m2.Layout n ∧ m2.view = { m.view with data := d, acc := l } ∧
      m2.view.free = m.view.free + 2 := by
  obtain ⟨m1, hpop1, h1, hv1⟩ := pop_refines h hs
  have hs1 : m1.view.data = l :: d := by rw [hv1]
  obtain ⟨m2, hpop2, h2, hv2⟩ := pop_refines h1 hs1
  refine ⟨m1, m2, hpop1, hpop2, ?_, ?_, h2, ?_, ?_⟩
  · rw [← view_acc, hv1]
  · rw [← view_acc, hv2]
  · rw [hv2, hv1]
  · rw [hv2, hv1]
    simp only [StackView.free, hs, List.length_cons]
    omega

theorem swap_view (h : m.Layout n) : m.swap.view = m.view.exec .swap := by
  rw [Machine.swap, scratch_view]
  have hfree0 := h.free_nonneg
  match hs : m.view.data with
  | [] =>
    rw [pop_refuses h hs]
    simp [StackView.exec, hs]
  | [x] =>
    obtain ⟨m1, hpop, h1, hv1⟩ := pop_refines h hs
    rw [hpop, Outcome.andThen_none, pop_refuses h1 (by rw [hv1])]
    simp [StackView.exec, hs]
  | a :: b :: d =>
    obtain ⟨m1, m2, hpop1, hpop2, hacc1, hacc2, h2, hv2, hfree2⟩ := pop_pop_refines h hs
    obtain ⟨m3, hpush3, h3, hv3⟩ := push_refines (h2.setAcc a)
      (by rw [view_setAcc, StackView.free_setAcc]; omega)
    have hfree3 : m3.view.free = m.view.free + 1 := by
      rw [hv3, StackView.free_push, view_setAcc, StackView.free_setAcc, hfree2]
      omega
    obtain ⟨m4, hpush4, -, hv4⟩ := push_refines (h3.setAcc b)
      (by rw [view_setAcc, StackView.free_setAcc]; omega)
    rw [hpop1, Outcome.andThen_none]
    dsimp only
    rw [hpop2, Outcome.andThen_none, hacc1, hacc2, hpush3, Outcome.andThen_none, hpush4]
    simp [StackView.exec, hs, hv4, hv3, hv2, view_acc]

/-- A binary instruction consumes its right operand first, from the top, then the left one,
and pushes the clamped result into the room the two pops made. -/
theorem combine_view (h : m.Layout n) (f : StackArith) :
    (m.combine f.apply).view = m.view.exec (.arith f) := by
  rw [Machine.combine, scratch_view]
  have hfree0 := h.free_nonneg
  match hs : m.view.data with
  | [] =>
    rw [pop_refuses h hs]
    simp [StackView.exec, hs]
  | [x] =>
    obtain ⟨m1, hpop, h1, hv1⟩ := pop_refines h hs
    rw [hpop, Outcome.andThen_none, pop_refuses h1 (by rw [hv1])]
    simp [StackView.exec, hs]
  | r :: l :: d =>
    obtain ⟨m1, m2, hpop1, hpop2, hacc1, hacc2, h2, hv2, hfree2⟩ := pop_pop_refines h hs
    rw [hpop1, Outcome.andThen_none]
    dsimp only
    rw [hpop2, Outcome.andThen_none, hacc1, hacc2]
    cases happ : f.apply l r with
    | error e =>
      simp [StackView.exec, hs, happ]
    | ok x =>
      obtain ⟨m3, hpush3, -, hv3⟩ := push_refines (h2.setAcc (clamp x))
        (by rw [view_setAcc, StackView.free_setAcc]; omega)
      dsimp only
      rw [hpush3]
      simp [StackView.exec, hs, happ, hv3, hv2, view_acc]

/-- `JAL` pops its target and pushes the return address; under the invariant the push never
fails once the pop has gone through, so only an empty data stack refuses it. -/
theorem call_view (h : m.Layout n) : m.call.view = m.view.exec .call := by
  have hb := h.bounds
  match hs : m.view.data with
  | [] =>
    have hlen := length_stack h
    simp only [view_data] at hs
    simp only [hs, List.length_nil] at hlen
    rw [call_empty (by omega)]
    simp [StackView.exec, view_data, hs]
  | t :: d =>
    have hne := h.sp_lt_of_data hs
    have hcons := stack_eq_read_cons h hne m.acc
    simp only [view_data] at hs
    rw [hs] at hcons
    obtain ⟨rfl, rfl⟩ := List.cons.inj hcons
    -- the return address goes into the word at `rap + 1`, at or below the old top `sp`, so the
    -- data stack from `sp + 1` on is untouched
    have hstack : ({ m with
        memory := m.memory.set! (m.rap + 1).toNat m.pc, sp := m.sp + 1, rap := m.rap + 1,
        pc := m.read m.sp } : Machine).stack =
        ({ m with acc := m.acc, sp := m.sp + 1 } : Machine).stack :=
      stack_set_of_lt (m := { m with sp := m.sp + 1, rap := m.rap + 1, pc := m.read m.sp }) m.pc
        (by omega) (show m.rap + 1 < m.sp + 1 by omega)
    have hret := returnStack_push h (by simp only [stackBase] at hne; omega) (v := m.pc) { m with
        memory := m.memory.set! (m.rap + 1).toNat m.pc, sp := m.sp + 1, rap := m.rap + 1,
        pc := m.read m.sp } rfl rfl
    rw [call_eq h hne]
    simp only [Outcome.view_none, StackView.exec, view_data, hs]
    simp only [view, hstack, hret]

theorem ret_view (h : m.Layout n) : m.popReturn.view = m.view.exec .ret := by
  cases hs : m.view.ret with
  | nil =>
    rw [popReturn_refuses h hs]
    simp [StackView.exec, hs]
  | cons a r =>
    obtain ⟨m', hret, -, hv⟩ := popReturn_refines h hs
    rw [hret]
    simp [StackView.exec, hs, hv]

/-- The arithmetic instructions are `combine` with the abstract arithmetic; only division is
written differently, with a Boolean test for the zero divisor. -/
theorem executeOp_arith (f : StackArith) (arg : Int) :
    m.executeOp f.op arg = m.combine f.apply := by
  cases f with
  | add | sub | mul | max | min => rfl
  | div =>
    have hquot : stackQuotient = StackArith.apply .div := by
      funext l r
      simp [stackQuotient, StackArith.apply]
    simp only [StackArith.op, Machine.executeOp, hquot]

end Machine

/-- The stack instructions refine the abstract stacks: on a machine whose stacks are laid out
as the invariant says, every stack instruction, with any operand, changes the data stack,
the return stack, the accumulator and the program counter exactly as `StackView.exec`
does, and fails exactly when and as it does. -/
theorem executeOp_refines {m : Machine} {n : Nat} (h : m.Layout n) (s : StackOp) (arg : Int) :
    (m.executeOp s.op arg).view = m.view.exec s := by
  cases s with
  | push => exact Machine.push_view h
  | pop => exact Machine.pop_view h
  | dup => exact Machine.dup_view h
  | drop => exact Machine.drop_view h
  | swap => exact Machine.swap_view h
  | arith f =>
    rw [StackOp.op, Machine.executeOp_arith]
    exact Machine.combine_view h f
  | call => exact Machine.call_view h
  | ret => exact Machine.ret_view h

/-- A call with one value on the data stack jumps to it and leaves the return address. -/
theorem call_refines_on_one_value :
    ({ memory := (Array.replicate 199 0).push 5, sp := 199, rap := 99, pc := 7 } : Machine).Layout 200 ∧
      (({ memory := (Array.replicate 199 0).push 5, sp := 199, rap := 99, pc := 7 } : Machine).executeOp
          StackOp.call.op 0).view =
        ({ memory := (Array.replicate 199 0).push 5, sp := 199, rap := 99, pc := 7 } : Machine).view.exec
          .call :=
  have h : ({ memory := (Array.replicate 199 0).push 5, sp := 199, rap := 99, pc := 7 } :
      Machine).Layout 200 := by
    rw [Machine.layout_iff]
    simp [Machine.size]
  ⟨h, executeOp_refines h .call 0⟩

end DecimalMachine
