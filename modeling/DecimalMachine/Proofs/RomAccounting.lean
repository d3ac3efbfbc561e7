import Mathlib
import DecimalMachine.Proofs.RunStatus
import DecimalMachine.Proofs.CallConvention

/-!
# Accounting for a rom

A rom gives out its values in order and records every value the machine sends it. Attached to a
machine and rewound by a reset, it keeps its books in step with the machine's: what it has
received is the machine's output, and what it has given out are its first values, which the
input steps loaded into the accumulator one by one.

* **the channel** — `Machine.channel` is the device with the output. No instruction but `INP`
  and `OUT` touches it (`channel_executeOp`), and a step does to it what the instruction it
  fetches does (`step_channel`).
* **the loads** — `Machine.loads` lists the values the completed input steps of a history left
  in the accumulator, in order.
* **the books** — `Machine.Accounts` is the invariant between a machine and its rom; a reset
  opens it (`accounts_reset`), every step keeps it (`Accounts.step`, one case per kind of
  word), and so every history of steps and starts does (`Accounts.after`).
* **`rom_accounting`** — for every history of steps and runs after a reset.
-/

namespace DecimalMachine

theorem clamp_clamp (x : Int) : clamp (clamp x) = clamp x := by
  simp only [clamp, accMin, accMax]
  omega

namespace Machine

variable {m m' : Machine}

/-! ## The channel -/

/-- The device attached to a machine, with the values the machine has output. -/
def channel (m : Machine) : Device × Array Int :=
  (m.device, m.output)

theorem Alike.channel (h : m.Alike m') : m.channel = m'.channel := by
  obtain ⟨v, j, rfl⟩ := h.exists_relog
  rfl

theorem channel_andThen {o : Outcome} {f : Machine → Outcome} (ho : o.1.channel = m.channel)
    (hf : ∀ m', (f m').1.channel = m'.channel) : (o.andThen f).1.channel = m.channel := by
  obtain ⟨m', _ | e⟩ := o
  · exact (hf m').trans ho
  · exact ho

theorem channel_write (m : Machine) (a v : Int) : (m.write a v).1.channel = m.channel := by
  unfold Machine.write
  split <;> rfl

theorem channel_push (m : Machine) : m.push.1.channel = m.channel := by
  unfold Machine.push
  split
  · rfl
  · exact channel_andThen (channel_write _ _ _) fun _ => rfl

theorem channel_pop (m : Machine) : m.pop.1.channel = m.channel := by
  unfold Machine.pop
  split <;> rfl

theorem channel_pushReturn (m : Machine) (ip : Int) : (m.pushReturn ip).1.channel = m.channel := by
  unfold Machine.pushReturn
  split
  · rfl
  · exact channel_andThen (channel_write _ _ _) fun _ => rfl

theorem channel_popReturn (m : Machine) : m.popReturn.1.channel = m.channel := by
  unfold Machine.popReturn
  split <;> rfl

theorem channel_combine (m : Machine) (f : Int → Int → Except Error Int) :
    (m.combine f).1.channel = m.channel := by
  refine channel_andThen (channel_pop m) fun m1 => ?_
  refine channel_andThen (channel_pop m1) fun m2 => ?_
  dsimp only
  split
  · rfl
  · exact channel_push _

theorem channel_call (m : Machine) : m.call.1.channel = m.channel := by
  refine channel_andThen (channel_pop m) fun m1 => ?_
  have h2 := channel_pushReturn m1 m1.pc
  dsimp only
  -- whether the return address goes on the stack or not, only `sp` or `pc` changes after it
  split
  · rename_i m2 e hres
    rw [hres] at h2
    exact h2
  · rename_i m2 hres
    rw [hres] at h2
    exact h2

/-- No instruction but `INP` and `OUT` touches the device or the output. -/
theorem channel_executeOp (m : Machine) {op : Op} (hin : op ≠ .input) (hout : op ≠ .output)
    (arg : Int) : (m.executeOp op arg).1.channel = m.channel := by
  cases op with
  | input => exact absurd rfl hin
  | output => exact absurd rfl hout
  | halt | add | sub | loadImmediate | load | branch => rfl
  | branchZero | branchPositive =>
    dsimp only [Machine.executeOp]
    split <;> rfl
  | store => exact channel_write _ _ _
  | call => exact channel_call m
  | ret => exact channel_popReturn m
  | push => exact channel_push m
  | pop => exact channel_pop m
  | dup =>
    exact channel_andThen (channel_pop m) fun _ =>
      channel_andThen (channel_push _) fun _ => channel_push _
  | drop => exact channel_pop m
  | swap =>
    exact channel_andThen (channel_pop m) fun _ => channel_andThen (channel_pop _) fun _ =>
      channel_andThen (channel_push _) fun _ => channel_push _
  | stackAdd | stackSub | stackMul | stackDiv | stackMax | stackMin => exact channel_combine m _

/-- A step does to the device and the output what the instruction it fetches does on the
fetched machine: clamping, the fault record and the trace touch neither. -/
theorem step_channel {w : Int} {op : Op} {arg : Int} (hs : m.status ≠ .halted)
    (hw : m.read? m.pc = some w) (hd : Word.decode? w = some (op, arg)) :
    m.step.1.channel = ((m.fetched w).executeOp op arg).1.channel := by
  have hexec : ((m.fetched w).execute w).1.channel = ((m.fetched w).executeOp op arg).1.channel := by
    obtain ⟨line, hline⟩ := execute_of_decode (m.fetched w) hd
    rw [hline]
    exact ((alike_note (m.fetched w) line).executeOp op arg).machine.channel
  rcases hx : (m.fetched w).execute w with ⟨m', _ | e⟩
  · rw [step_of_execute hs hw hx, ← hexec, hx]
    rfl
  · obtain ⟨x, st, j, hf⟩ := exists_fault_eq ({ m' with acc := clamp m'.acc } : Machine) m.pc w e
    rw [step_of_execute_fails hs hw hx, hf, ← hexec, hx]
    rfl

/-- A step that runs no instruction touches neither the device nor the output: on a halted
machine, outside memory, or on a word that decodes to none. -/
theorem step_channel_of_undecoded (h : ∀ w, m.status ≠ .halted → m.read? m.pc = some w →
    Word.decode? w = none) : m.step.1.channel = m.channel := by
  rcases step_cases m with ⟨-, hstep⟩ | ⟨-, -, hstep⟩ | ⟨w, m', hs, hw, hx, -⟩ |
      ⟨w, m', c, hs, hw, hx, hstep⟩
  · rw [hstep]
  · obtain ⟨x, st, j, hf⟩ := exists_fault_eq ({ m with status := .running } : Machine) m.pc 0 .badAddress
    rw [hstep, hf]
    rfl
  · -- a word that decodes to nothing fails
    simp [Machine.execute, h w hs hw] at hx
  · have hbad : (m.fetched w).execute w = (m.fetched w, some (.badWord w)) := by
      simp [Machine.execute, h w hs hw]
    rw [hx] at hbad
    obtain ⟨rfl, -⟩ := Prod.mk.inj hbad
    obtain ⟨x, st, j, hf⟩ := exists_fault_eq ({ m.fetched w with acc := clamp (m.fetched w).acc } :
      Machine) m.pc w c
    rw [hstep, hf]
    rfl

theorem step_acc_clamped (h : clamp m.acc = m.acc) : clamp m.step.1.acc = m.step.1.acc := by
  rcases step_cases m with ⟨-, hstep⟩ | ⟨-, -, hstep⟩ | ⟨w, m', -, -, -, hstep⟩ |
      ⟨w, m', c, -, -, -, hstep⟩
  · rw [hstep]
    exact h
  · obtain ⟨x, st, j, hf⟩ := exists_fault_eq ({ m with status := .running } : Machine) m.pc 0 .badAddress
    rw [hstep, hf]
    exact h
  · rw [hstep]
    exact clamp_clamp m'.acc
  · obtain ⟨x, st, j, hf⟩ := exists_fault_eq ({ m' with acc := clamp m'.acc } : Machine) m.pc w c
    rw [hstep, hf]
    exact clamp_clamp m'.acc

/-! ## Reading from and writing to a rom -/

theorem readInput_of_next {r : Rom} {v : Int} (hdev : m.device = .rom r)
    (hv : r.data[r.read]? = some v) :
    m.readInput = ({ m with acc := v, device := .rom { r with read := r.read + 1 } }, none) := by
  simp [readInput, hdev, Device.receive, Rom.receive, hv]

theorem readInput_of_exhausted {r : Rom} (hdev : m.device = .rom r) (hv : r.data[r.read]? = none) :
    m.readInput = ({ m with device := .rom r }, some (.joined .inputFailed .channelEmpty)) := by
  simp [readInput, hdev, Device.receive, Rom.receive, hv]

theorem writeOutput_of_rom {r : Rom} (hdev : m.device = .rom r) :
    m.writeOutput = ({ m with output := m.output.push m.acc, device := .rom (r.send m.acc) }, none) := by
  simp [writeOutput, hdev, Device.send, Device.isDiagnostic]

/-- Whether a step of `m` runs an input instruction: the machine has not halted and the word at
its program counter decodes to `INP`. -/
def fetchesInput (m : Machine) : Bool :=
  m.status != .halted &&
    match m.read? m.pc with
    | some w =>
      match Word.decode? w with
      | some (.input, _) => true
      | _ => false
    | none => false

/-- The values a move of `m` loads from the device: a step that runs `INP` and completes loads
the value it leaves in the accumulator. -/
def loadedBy (m : Machine) : Move → List Int
  | .step => if m.fetchesInput && m.step.2.isNone then [m.step.1.acc] else []
  | _ => []

/-- The values the moves `ms` from `m` load from the device, in order. -/
def loads : Machine → List Move → List Int
  | _, [] => []
  | m, mv :: ms => m.loadedBy mv ++ (m.move mv).loads ms

theorem loadedBy_step_of_not_input (h : m.fetchesInput = false) : m.loadedBy .step = [] := by
  simp [loadedBy, h]

/-! ## The books -/

/-- The books of a machine and the rom `r` attached to it, for the values `taken` that its input
steps loaded: the rom has received exactly the machine's output and given out no more values than
it holds, its first `read` values, which `taken` lists clamped and in order; and the accumulator
holds a clamped value. -/
structure Accounts (m : Machine) (r : Rom) (taken : List Int) : Prop where
  device : m.device = .rom r
  sent : r.sent = m.output
  read_le : r.read ≤ r.data.size
  taken_eq : taken = (r.data.toList.take r.read).map clamp
  acc_clamped : clamp m.acc = m.acc

/-- A reset rewinds the rom: all of its values are left, and it and the machine have recorded
no output. -/
theorem accounts_reset {r : Rom} (hdev : m.device = .rom r) : m.reset.Accounts r.rewind [] := by
  obtain ⟨j, hj⟩ := exists_note_eq m "cpu: reset"
  refine ⟨?_, ?_, ?_, ?_, ?_⟩ <;>
    simp [Machine.reset, hj, hdev, Device.rewind, Rom.rewind, clamp, accMin, accMax]

theorem Accounts.of_channel {r : Rom} {taken : List Int} (h : m.Accounts r taken)
    (hch : m'.channel = m.channel) (hacc : clamp m'.acc = m'.acc) : m'.Accounts r taken := by
  obtain ⟨hdev, hout⟩ := Prod.mk.inj hch
  exact ⟨hdev.trans h.device, h.sent.trans hout.symm, h.read_le, h.taken_eq, hacc⟩

variable {r : Rom} {taken : List Int} {w arg : Int}

/-- An `INP` that finds a value takes it: the rom moves to the next value, and the accumulator
holds the value clamped. -/
theorem Accounts.step_input (h : m.Accounts r taken) (hs : m.status ≠ .halted)
    (hw : m.read? m.pc = some w) (hd : Word.decode? w = some (.input, arg)) {v : Int}
    (hv : r.data[r.read]? = some v) :
    m.step.1.Accounts { r with read := r.read + 1 } (taken ++ m.loadedBy .step) := by
  have hx := readInput_of_next (m := m.fetched w) h.device hv
  obtain ⟨u, j, hstep⟩ := step_of_executeOp hs hw hd hx
  have hin : m.fetchesInput = true := by simp [fetchesInput, hs, hw, hd]
  have hlt : r.read < r.data.size := (Array.getElem?_eq_some_iff.mp hv).1
  refine ⟨by rw [hstep], by rw [hstep]; exact h.sent, hlt, ?_, by rw [hstep]; exact clamp_clamp v⟩
  -- the value loaded is the next one of the rom, clamped
  have hv' : r.data.toList[r.read]? = some v := by simpa using hv
  simp only [loadedBy, hin, hstep, Option.isNone_none, Bool.and_self, if_true, h.taken_eq]
  rw [List.take_add_one, hv', List.map_append]
  rfl

/-- An `INP` that finds the rom exhausted takes nothing, keeps the accumulator and faults. -/
theorem Accounts.step_input_exhausted (h : m.Accounts r taken) (hs : m.status ≠ .halted)
    (hw : m.read? m.pc = some w) (hd : Word.decode? w = some (.input, arg))
    (hv : r.data[r.read]? = none) :
    ∃ m', m.step = (m', some (.fault m.pc w (.joined .inputFailed .channelEmpty))) ∧
      m'.acc = m.acc ∧ m'.device = m.device ∧ m'.status = .halted := by
  have hx := readInput_of_exhausted (m := m.fetched w) h.device hv
  obtain ⟨u, j, hstep⟩ := step_of_executeOp_fails hs hw hd hx rfl
  exact ⟨_, hstep, h.acc_clamped, h.device.symm ▸ rfl, rfl⟩

/-- An `OUT` sends the accumulator to the rom and records it as output. -/
theorem Accounts.step_output (h : m.Accounts r taken) (hs : m.status ≠ .halted)
    (hw : m.read? m.pc = some w) (hd : Word.decode? w = some (.output, arg)) :
    m.step.1.Accounts (r.send m.acc) (taken ++ m.loadedBy .step) := by
  have hx := writeOutput_of_rom (m := m.fetched w) h.device
  obtain ⟨u, j, hstep⟩ := step_of_executeOp hs hw hd hx
  have hin : m.fetchesInput = false := by simp [fetchesInput, hw, hd]
  rw [loadedBy_step_of_not_input hin, List.append_nil, hstep]
  refine ⟨rfl, ?_, h.read_le, h.taken_eq, ?_⟩
  · simp only [Rom.send, h.sent]
    rfl
  · simp only [fetched, h.acc_clamped]

/-- The step lemma of the books: whatever a step does, they stay balanced, with the rom holding
the same values and the value the step loaded, if any, after the ones before. -/
theorem Accounts.step (h : m.Accounts r taken) :
    ∃ r', m.step.1.Accounts r' (taken ++ m.loadedBy .step) ∧ r'.data = r.data := by
  have hacc := step_acc_clamped h.acc_clamped
  by_cases hrun : ∃ w op arg, m.status ≠ .halted ∧ m.read? m.pc = some w ∧
      Word.decode? w = some (op, arg)
  · obtain ⟨w, op, arg, hs, hw, hd⟩ := hrun
    by_cases hin : op = .input
    · subst hin
      cases hv : r.data[r.read]? with
      | some v => exact ⟨_, h.step_input hs hw hd hv, rfl⟩
      | none =>
        -- the exhausted rom gives nothing, and the step fails
        obtain ⟨m', hstep, -, -, -⟩ := h.step_input_exhausted hs hw hd hv
        have hfail : m.loadedBy .step = [] := by simp [loadedBy, hstep]
        refine ⟨r, ?_, rfl⟩
        rw [hfail, List.append_nil]
        refine h.of_channel ?_ hacc
        rw [step_channel hs hw hd]
        show (m.fetched w).readInput.1.channel = m.channel
        rw [readInput_of_exhausted (m := m.fetched w) h.device hv]
        show (Device.rom r, m.output) = (m.device, m.output)
        rw [h.device]
    by_cases hout : op = .output
    · subst hout
      exact ⟨_, h.step_output hs hw hd, rfl⟩
    -- any other instruction leaves the channel alone
    have hnot : m.fetchesInput = false := by
      cases op <;> simp_all [fetchesInput]
    rw [loadedBy_step_of_not_input hnot, List.append_nil]
    refine ⟨r, h.of_channel ?_ hacc, rfl⟩
    rw [step_channel hs hw hd, channel_executeOp _ hin hout]
    rfl
  · -- a step that runs no instruction leaves the channel alone too
    have hnone : ∀ w, m.status ≠ .halted → m.read? m.pc = some w → Word.decode? w = none := by
      intro w hs hw
      cases hd : Word.decode? w with
      | none => rfl
      | some d => exact absurd ⟨w, d.1, d.2, hs, hw, hd⟩ hrun
    have hnot : m.fetchesInput = false := by
      by_cases hs : m.status = .halted
      · simp [fetchesInput, hs]
      · cases hw : m.read? m.pc with
        | none => simp [fetchesInput, hw]
        | some w => simp [fetchesInput, hw, hnone w hs hw]
    rw [loadedBy_step_of_not_input hnot, List.append_nil]
    exact ⟨r, h.of_channel (step_channel_of_undecoded hnone) hacc, rfl⟩

/-- A start sets the status and nothing else, so the books stay as they are. -/
theorem Accounts.start (h : m.Accounts r taken) : (m.move .start).Accounts r taken := by
  obtain ⟨st, hst⟩ := exists_move_start_eq m
  rw [hst]
  exact h.of_channel rfl h.acc_clamped

/-- A load changes memory and nothing else, so the books stay as they are. -/
theorem Accounts.load (h : m.Accounts r taken) (program : Array Int) :
    (m.move (.load program)).Accounts r taken := by
  obtain ⟨mem, -, hl⟩ := exists_serve_load_eq m program
  show (m.serve (.load program)).Accounts r taken
  rw [hl]
  exact h.of_channel rfl h.acc_clamped

/-- The books over one move that neither resets the machine nor changes its device. -/
theorem Accounts.move (h : m.Accounts r taken) {mv : Move} (hmv : mv ≠ .reset)
    (hat : ∀ d, mv ≠ .attach d) :
    ∃ r', (m.move mv).Accounts r' (taken ++ m.loadedBy mv) ∧ r'.data = r.data := by
  cases mv with
  | reset => exact absurd rfl hmv
  | attach d => exact absurd rfl (hat d)
  | load program => exact ⟨r, by simpa [loadedBy] using h.load program, rfl⟩
  | start => exact ⟨r, by simpa [loadedBy] using h.start, rfl⟩
  | step => exact h.step

/-- The run lemma of the books: after any moves that neither reset the machine nor change its
device they stay balanced, with the rom holding the same values and the loads of the moves
after the values loaded before. -/
theorem Accounts.after (h : m.Accounts r taken) (ms : List Move)
    (hms : ∀ mv ∈ ms, mv ≠ .reset ∧ ∀ d, mv ≠ .attach d) :
    ∃ r', (m.after ms).Accounts r' (taken ++ m.loads ms) ∧ r'.data = r.data := by
  induction ms generalizing m r taken with
  | nil => exact ⟨r, by simpa [loads] using h, rfl⟩
  | cons mv ms ih =>
    obtain ⟨hmv, hat⟩ := hms mv (.head _)
    obtain ⟨r1, h1, hdata1⟩ := h.move hmv hat
    obtain ⟨r2, h2, hdata2⟩ := ih h1 fun mv' hm => hms mv' (.tail _ hm)
    refine ⟨r2, ?_, hdata2.trans hdata1⟩
    simpa [loads] using h2

/-- A reset leaves a guarded machine whatever registers and fault it starts from, as long as
memory is large enough. -/
theorem guarded_reset (h : minMemory ≤ m.size) : m.reset.Guarded := by
  obtain ⟨j, hj⟩ := exists_note_eq m "cpu: reset"
  refine ⟨?_, ?_, ?_⟩ <;>
    simp only [Machine.reset, hj, size, returnBase, returnOffset, minMemory, Array.size_replicate]
      at h ⊢
  · exact h
  · omega
  · simp

/-- The requests of a program at work, loads, steps and runs, are requests a client makes
between steps, and none of their moves resets the machine or changes its device. -/
theorem moves_of_program_request {q : Request}
    (hq : q = .step ∨ (∃ b, q = .run b) ∨ ∃ p, q = .load p) :
    q.Drives ∧ ∀ mv ∈ q.moves, mv ≠ .reset ∧ ∀ d, mv ≠ .attach d := by
  rcases hq with rfl | ⟨b, rfl⟩ | ⟨p, rfl⟩
  · exact ⟨trivial, by simp [Request.moves]⟩
  · refine ⟨trivial, fun mv hmv => ?_⟩
    simp only [Request.moves, List.mem_cons, List.mem_replicate] at hmv
    rcases hmv with rfl | ⟨-, rfl⟩ <;> simp
  · exact ⟨trivial, by simp [Request.moves]⟩

/-- What the loads, steps and runs after a reset leave between a machine and the rom attached to
it, for a rom that holds `data` and the values `taken` the input steps loaded: the books balance
with a rom that holds the same values, and once none of them is left, an input step takes
nothing, keeps the accumulator and faults. -/
structure RomBooks (m : Machine) (data : Array Int) (taken : List Int) : Prop where
  accounts : ∃ r, m.Accounts r taken ∧ r.data = data
  exhausted : ∀ r w arg, m.device = .rom r → r.remaining = 0 → m.status ≠ .halted →
    m.read? m.pc = some w → Word.decode? w = some (.input, arg) →
    ∃ m', m.step = (m', some (.fault m.pc w (.joined .inputFailed .channelEmpty))) ∧
      m'.acc = m.acc ∧ m'.device = m.device

end Machine

/-- Accounting for a rom. A reset rewinds the rom attached to a machine of at least `minMemory`
words: all of its values are left, and it and the machine have recorded no output. Over any
loads, steps and runs after that, the rom holds the same values and has received exactly the
machine's output; it has given out its first values and no more than it holds, and the input
steps that completed loaded exactly those values into the accumulator, clamped and in order;
and an input step that finds it exhausted takes nothing, keeps the accumulator and faults with
the input failure of an empty channel. -/
theorem rom_accounting {m : Machine} {r : Rom} (hsize : minMemory ≤ m.size)
    (hdev : m.device = .rom r) (rs : List Request)
    (hrs : ∀ q ∈ rs, q = .step ∨ (∃ b, q = .run b) ∨ ∃ p, q = .load p) :
    (m.reset.device = .rom r.rewind ∧ r.rewind.remaining = r.data.size ∧ r.rewind.sent = #[] ∧
      m.reset.output = #[]) ∧
    (rs.foldl Machine.serve m.reset).RomBooks r.data (m.reset.loads (rs.flatMap Request.moves)) := by
  have h0 := Machine.accounts_reset hdev
  have hrestart : r.rewind.remaining = r.data.size := by simp [Rom.remaining, Rom.rewind]
  refine ⟨⟨h0.device, hrestart, rfl, h0.sent.symm⟩, ?_⟩
  -- the requests are their moves, none of which resets the machine or changes its device
  have hprog := fun q hq => Machine.moves_of_program_request (hrs q hq)
  rw [(Machine.guarded_reset hsize).foldl_serve_eq_after fun q hq => (hprog q hq).1]
  obtain ⟨r', hbooks, hdata⟩ := h0.after _ fun mv hmv => by
    obtain ⟨q, hq, hmq⟩ := List.mem_flatMap.mp hmv
    exact (hprog q hq).2 mv hmq
  rw [List.nil_append] at hbooks
  refine ⟨⟨r', hbooks, hdata⟩, fun r1 w arg hdev1 hempty hs hw hd => ?_⟩
  -- the rom on the machine is the one the books keep, and it has no value left
  have hr1 : r1 = r' := Device.rom.inj (hdev1.symm.trans hbooks.device)
  subst hr1
  have hnone : r1.data[r1.read]? = none := by
    simp only [Rom.remaining] at hempty
    exact Array.getElem?_eq_none (by omega)
  obtain ⟨m', hstep, hacc, hdev', -⟩ := hbooks.step_input_exhausted hs hw hd hnone
  exact ⟨m', hstep, hacc, hdev'⟩

/-- A rom holding 42 and 5000 on a machine of two hundred words, reset, loaded with a program
that echoes two input values, and run. -/
theorem echo_rom_accounting :
    let r : Rom := { data := #[42, 5000] }
    let m : Machine := { memory := Array.replicate 200 0, sp := 200, rap := 99, device := .rom r }
    let rs := [Request.load #[901, 902, 901, 902, 0], .run 10]
    minMemory ≤ m.size ∧ m.device = .rom r ∧
      (∀ q ∈ rs, q = .step ∨ (∃ b, q = .run b) ∨ ∃ p, q = .load p) ∧
      (m.reset.device = .rom r.rewind ∧ r.rewind.remaining = r.data.size ∧ r.rewind.sent = #[] ∧
        m.reset.output = #[]) ∧
      (rs.foldl Machine.serve m.reset).RomBooks r.data (m.reset.loads (rs.flatMap Request.moves)) := by
  intro r m rs
  have hsize : minMemory ≤ m.size := by simp [m, Machine.size, minMemory]
  have hrs : ∀ q ∈ rs, q = .step ∨ (∃ b, q = .run b) ∨ ∃ p, q = .load p := by
    intro q hq
    simp only [rs, List.mem_cons, List.mem_nil_iff, or_false] at hq
    rcases hq with rfl | rfl
    · exact .inr (.inr ⟨_, rfl⟩)
    · exact .inr (.inl ⟨_, rfl⟩)
  exact ⟨hsize, rfl, hrs, rom_accounting hsize rfl rs hrs⟩

end DecimalMachine
