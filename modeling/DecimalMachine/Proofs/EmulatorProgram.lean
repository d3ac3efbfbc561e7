import Mathlib
import DecimalMachine.Emulator
import DecimalMachine.Proofs.StackLayout
import DecimalMachine.Proofs.ProgramImage

/-!
# The emulator's program always fits its machine

An emulator holds a machine and the program last assembled for it. It assembles for the memory
size of its machine, and assembly refuses a statement that would not fit, so the program it
keeps always fits: its memory image has exactly as many words as memory, and every reset loads
it. A failed assembly replaces nothing.

* **`Emulator.Request`, `Emulator.serve`** — what a client does with an emulator: define an
  equate, change strictness, assemble a source (with a given evaluator of its expressions),
  reset, tick, run with a budget.
* **`Emulator.Fits e n`** — the invariant: the machine keeps the stack layout in `n` words, and
  the program is laid out for `n` words and is no longer. Its image then has `n` words
  (`Fits.binary_size`).
* **`Fits.reset`** — under the invariant a reset always loads the program, and memory becomes
  its image. **`Fits.assemble_ok`** and **`Fits.assemble_error`** — an assembly that gives a
  program loads it; one that fails leaves program and machine exactly as they were.
* **`emulator_program_fits`** — from a fresh emulator, after any sequence of requests.
-/

namespace DecimalMachine

namespace Machine

variable {m : Machine}

/-- A program exactly as long as memory is loaded whole: memory becomes the program. -/
theorem load_of_size_eq {program : Array Int} (h : program.size = m.size) :
    m.load program = .ok { m with memory := program } := by
  unfold load
  rw [if_neg (by omega)]
  simp [h, size]

end Machine

namespace Emulator

/-- A request a client makes of an emulator. -/
inductive Request where
  | define (name value : String)
  | setStrict (strict : Bool)
  | assemble (source : String)
  | reset
  | tick
  | run (budget : Int)
  deriving Inhabited

/-- The emulator after a request, whatever the request answered. -/
def serve (ev : Evaluator) (e : Emulator) : Request → Emulator
  | .define name value => e.define name value
  | .setStrict strict => { e with strict }
  | .assemble source => (e.assembleSource ev source).2
  | .reset => e.reset.1
  | .tick => e.tick.1
  | .run budget => (e.run budget).1

theorem assembleSource_eq (ev : Evaluator) (e : Emulator) (source : String) :
    e.assembleSource ev source =
      let a := assemble ev e.settings source
      match a.result with
      | .error err => (.error err, { e with trace := e.trace ++ a.trace })
      | .ok p =>
        match reset { e with trace := e.trace ++ a.trace, program := p } with
        | (e', none) => (.ok e', e')
        | (e', some err) => (.error err, e') :=
  rfl

/-- The emulator after an assembly: with the assembly's trace added, and when the assembly gives
a program, reset with that program, whether the reset goes through or not. -/
theorem assembleSource_snd (ev : Evaluator) (e : Emulator) (source : String) :
    (e.assembleSource ev source).2 =
      let a := assemble ev e.settings source
      match a.result with
      | .error _ => { e with trace := e.trace ++ a.trace }
      | .ok p => (reset { e with trace := e.trace ++ a.trace, program := p }).1 := by
  rw [assembleSource_eq]
  dsimp only
  split
  · rfl
  · split <;> next heq => rw [heq]

/-- The machine a reset loads the program into: the emulator's machine, reset with its logging
off, then given back the emulator's logging. -/
def cleared (e : Emulator) : Machine :=
  { ({ e.machine with verbose := false } : Machine).reset with verbose := e.verbose }

/-- A reset clears the machine and loads the program's image into it; a load that goes through
is logged, and one that fails leaves the machine cleared. -/
theorem reset_eq (e : Emulator) :
    e.reset =
      match e.cleared.load e.program.binary with
      | .error err => ({ e with machine := e.cleared }, some err)
      | .ok m =>
        (if e.verbose then
          { e with machine := m }.logLine
            ("emulator: loaded " ++ toString e.program.length ++ " words")
        else { e with machine := m }, none) :=
  rfl

/-- Whatever the load does, a reset leaves the emulator with its cleared machine, with the program
loaded into it or not, and changes nothing else but the trace. -/
theorem exists_reset_eq (e : Emulator) :
    ∃ m t, (m = e.cleared ∨ e.cleared.load e.program.binary = .ok m) ∧
      e.reset.1 = { e with machine := m, trace := t } := by
  rw [reset_eq]
  split
  · exact ⟨_, _, .inl rfl, rfl⟩
  · next m hload =>
    -- logged or not, only the trace differs
    dsimp only
    split <;> exact ⟨m, _, .inr hload, rfl⟩

/-- The emulator invariant for a memory of `n` words: the machine keeps the stack layout in `n`
words, and the program is laid out for `n` words and is no longer. -/
structure Fits (e : Emulator) (n : Nat) : Prop where
  layout : e.machine.Layout n
  program_size : e.program.size = n
  length_le : e.program.length ≤ n

variable {e : Emulator} {n : Nat}

/-- The image of a program that fits has exactly as many words as memory. -/
theorem Fits.binary_size (h : e.Fits n) : e.program.binary.size = n := by
  have hroom := h.layout.roomy
  have hne : (e.program.size == 0) = false := by
    simp only [h.program_size, minMemory] at hroom ⊢
    simp only [beq_eq_false_iff_ne, ne_eq]
    omega
  rw [Program.size_binary, Program.imageSize, hne, h.program_size]
  simp only [Bool.false_eq_true, if_false, Int.toNat_natCast]
  exact Nat.max_eq_left h.length_le

/-- The invariant looks at the machine's layout and the program only. -/
theorem Fits.congr {e' : Emulator} (h : e.Fits n) (hl : e'.machine.Layout n)
    (hp : e'.program = e.program) : e'.Fits n :=
  ⟨hl, hp ▸ h.program_size, hp ▸ h.length_le⟩

/-! ## Reset and assembly

A reset clears the machine and loads the program's image. The image is as long as memory, so
the load always goes through and memory becomes the image. An assembly lays its program out for
the machine's memory size and keeps it no longer, so the program it gives fits as the old one
did. -/

/-- Under the invariant a reset loads the program: memory becomes the program's image. -/
theorem Fits.reset (h : e.Fits n) :
    ∃ e', e.reset = (e', none) ∧ e'.Fits n ∧ e'.program = e.program ∧
      e'.machine.memory = e.program.binary := by
  have hl0 : e.cleared.Layout n :=
    (Machine.layout_reset (m := { e.machine with verbose := false }) h.layout.size_eq
      h.layout.roomy).congr rfl rfl rfl
  -- the image is as long as the cleared memory, so it replaces it whole
  have hl1 : ({ e.cleared with memory := e.program.binary } : Machine).Layout n :=
    hl0.congr (by rw [hl0.size_eq, ← h.binary_size]; rfl) rfl rfl
  rw [reset_eq, Machine.load_of_size_eq (by rw [h.binary_size, hl0.size_eq])]
  -- with logging on, the emulator only adds a trace record
  refine ⟨_, rfl, ?_, ?_, ?_⟩
  · split <;> exact h.congr hl1 rfl
  · split <;> rfl
  · split <;> rfl

/-- An assembly for the machine of an emulator that fits gives a program that fits it too. -/
theorem Fits.of_assemble (h : e.Fits n) {settings : Settings} {source : String} {p : Program}
    {ev : Evaluator} (hsize : settings.memorySize = e.machine.size)
    (hp : (assemble ev settings source).result = .ok p) :
    ({ e with program := p } : Emulator).Fits n := by
  have hroom := h.layout.roomy
  have hsn : settings.size = n := by
    unfold Settings.size
    rw [hsize, h.layout.size_eq]
    simp only [minMemory] at hroom
    split
    · rename_i hz
      simp only [beq_iff_eq, Int.natCast_eq_zero] at hz
      omega
    · rfl
  obtain ⟨-, -, -, -, hle, -⟩ := assemble_program_image hp
  refine ⟨h.layout, by rw [assemble_program_size hp, hsn], ?_⟩
  rw [hsn] at hle
  simpa using hle

section Assemble

variable (h : e.Fits n) (ev : Evaluator) (source : String)
include h

/-- An assembly that gives a program loads it: the emulator keeps the program, its memory is the
program's image, and the invariant holds. -/
theorem Fits.assemble_ok {p : Program}
    (hp : (assemble ev e.settings source).result = .ok p) :
    ∃ e', e.assembleSource ev source = (.ok e', e') ∧ e'.Fits n ∧ e'.program = p ∧
      e'.machine.memory = p.binary := by
  have htrace : ({ e with trace := e.trace ++ (assemble ev e.settings source).trace } : Emulator).Fits n :=
    h.congr h.layout rfl
  have hfits := htrace.of_assemble rfl hp
  obtain ⟨e', hreset, hfits', hprog, hmem⟩ := hfits.reset
  refine ⟨e', ?_, hfits', hprog, hmem⟩
  rw [assembleSource_eq]
  simp only [hp, hreset]

/-- An assembly that fails changes neither the program nor the machine, and its failure is the
assembly's own: the reset after a successful assembly never fails. -/
theorem Fits.assemble_error {err : Error} (herr : (e.assembleSource ev source).1 = .error err) :
    (assemble ev e.settings source).result = .error err ∧
      (e.assembleSource ev source).2.program = e.program ∧
      (e.assembleSource ev source).2.machine = e.machine := by
  rcases hres : (assemble ev e.settings source).result with err' | p
  · rw [assembleSource_eq] at herr ⊢
    simp only [hres] at herr ⊢
    cases herr
    simp
  · obtain ⟨e', hasm, -⟩ := h.assemble_ok ev source hres
    rw [hasm] at herr
    cases herr

/-- Assembling keeps the invariant, whether it succeeds or fails. -/
theorem Fits.assembleSource : (e.assembleSource ev source).2.Fits n := by
  rcases hres : (assemble ev e.settings source).result with err | p
  · rw [assembleSource_eq]
    simp only [hres]
    exact h.congr h.layout rfl
  · obtain ⟨e', hasm, hfits, -⟩ := h.assemble_ok ev source hres
    rw [hasm]
    exact hfits

end Assemble

/-! ## Ticks and runs

A tick steps the machine, which keeps its layout, and moves its log records into the emulator's
trace; the program stays. A run is a sequence of ticks. -/

theorem Fits.collect (h : e.Fits n) : e.collect.Fits n := by
  unfold Emulator.collect
  dsimp only
  split
  · exact h
  · exact h.congr (h.layout.congr rfl rfl rfl) rfl

theorem Fits.tick (h : e.Fits n) : e.tick.1.Fits n := by
  have hl : ({ e.machine with verbose := e.verbose } : Machine).Layout n :=
    h.layout.congr rfl rfl rfl
  unfold Emulator.tick
  dsimp only
  split
  · exact h.congr hl rfl
  · exact Fits.collect (h.congr hl.step rfl)

theorem Fits.runGo (h : e.Fits n) (fuel polls : Nat) : (run.go fuel polls e).1.Fits n := by
  induction fuel generalizing polls e with
  | zero => exact h
  | succ fuel ih =>
    have ht := h.tick
    simp only [run.go]
    split
    · exact ht
    · exact ih ht _

theorem Fits.run (h : e.Fits n) (budget : Int) : (e.run budget).1.Fits n :=
  h.runGo _ _

/-! ## Every request keeps the invariant -/

theorem Fits.serve (h : e.Fits n) (ev : Evaluator) (r : Request) : (e.serve ev r).Fits n := by
  cases r with
  | define name value => exact h.congr h.layout rfl
  | setStrict strict => exact h.congr h.layout rfl
  | assemble source => exact h.assembleSource ev source
  | reset =>
    obtain ⟨e', hreset, hfits, -⟩ := h.reset
    simp only [Emulator.serve, hreset]
    exact hfits
  | tick => exact h.tick
  | run budget => exact h.run budget

/-- The run lemma: the invariant holds after every request of every sequence. -/
theorem Fits.serveAll (h : e.Fits n) (ev : Evaluator) (rs : List Request) :
    (rs.foldl (Emulator.serve ev) e).Fits n := by
  induction rs generalizing e with
  | nil => exact h
  | cons r rs ih => exact ih (h.serve ev r)

/-- A fresh emulator fits: its machine is fresh and its program empty. -/
theorem Fits.create (he : Emulator.create n = .ok e) : e.Fits n := by
  unfold Emulator.create at he
  rcases hm : Machine.create n with err | m
  · rw [hm] at he
    cases he
  · rw [hm] at he
    cases he
    exact ⟨(Machine.Layout.create hm).congr rfl rfl rfl, rfl, Nat.zero_le n⟩

/-! ## What a client relies on -/

/-- What a client of an emulator with `n` words relies on when it assembles and resets: the
program is laid out for `n` words and is no longer, its image and the machine's memory have `n`
words, a reset loads the image, an assembly that gives a program loads that program, and an
assembly that fails does so on its own account and changes neither program nor machine, whatever
the evaluator of its expressions. -/
structure LoadsProgram (e : Emulator) (n : Nat) : Prop where
  program_size : e.program.size = n
  machine_size : e.machine.size = n
  length_le : e.program.length ≤ n
  binary_size : e.program.binary.size = n
  reset : ∃ r, e.reset = (r, none) ∧ r.program = e.program ∧ r.machine.memory = e.program.binary
  assemble_ok : ∀ (ev : Evaluator) source p, (assemble ev e.settings source).result = .ok p →
    ∃ r, e.assembleSource ev source = (.ok r, r) ∧ r.program = p ∧ r.machine.memory = p.binary
  assemble_error : ∀ (ev : Evaluator) source err, (e.assembleSource ev source).1 = .error err →
    (assemble ev e.settings source).result = .error err ∧
      (e.assembleSource ev source).2.program = e.program ∧
      (e.assembleSource ev source).2.machine = e.machine

theorem Fits.loadsProgram (h : e.Fits n) : e.LoadsProgram n := by
  obtain ⟨r, hr, -, hprog, hmem⟩ := h.reset
  refine ⟨h.program_size, h.layout.size_eq, h.length_le, h.binary_size, ⟨r, hr, hprog, hmem⟩,
    fun ev source p hp => ?_, fun ev source err herr => h.assemble_error ev source herr⟩
  obtain ⟨r', hasm, -, hprog', hmem'⟩ := h.assemble_ok ev source hp
  exact ⟨r', hasm, hprog', hmem'⟩

end Emulator

/-- The emulator's program always fits its machine. After any sequence of requests from a fresh
emulator with `n` words of memory (definitions, changes of strictness, assemblies that succeed or
fail, resets, ticks and runs), the program is laid out for `n` words and is no longer, its image
and the machine's memory have `n` words, every reset loads the image, and so does every assembly
that gives a program; an assembly fails only when assembling does, and then leaves the program
and the whole machine as they were. -/
theorem emulator_program_fits (ev : Evaluator) {n : Nat} {e : Emulator}
    (he : Emulator.create n = .ok e) (rs : List Emulator.Request) :
    (rs.foldl (Emulator.serve ev) e).LoadsProgram n :=
  ((Emulator.Fits.create he).serveAll ev rs).loadsProgram

/-- A fresh emulator of two hundred words that assembles a halt and runs it still loads its
program. -/
theorem halting_emulator_program_fits :
    let m : Machine := { memory := Array.replicate 200 0, sp := 200, rap := 99,
                         device := .tape { output := some (.buffer "") } }
    let e : Emulator := { machine := m, program := { statements := #[], size := 200 } }
    Emulator.create 200 = .ok e ∧
      ([Emulator.Request.assemble "HLT", .run 5].foldl (Emulator.serve Evaluator.inert) e).LoadsProgram
        200 :=
  ⟨rfl, emulator_program_fits Evaluator.inert (n := 200) rfl _⟩

end DecimalMachine
