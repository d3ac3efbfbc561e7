import Mathlib
import DecimalMachine.Emulator
import DecimalMachine.Proofs.Reassembly

/-!
# Finding the statement behind an address

`Program.locate?` walks the statements of a program in order and stops at the first whose words
cover an address. That is right only because of how an assembly lays its statements out: one
after another from address 0, without gaps, each with as many words as slots. For such a
program the search finds a statement exactly for the addresses below the program's length, the
statement it finds is the only one that covers the address, and the word it reports is the word
the memory image holds there.

* `Statement.Covers`, `Program.LaidOut` — a statement's words covering an address; the layout
  every assembled program has (`laidOut_of_assemble`).
* `locate?_eq_some_iff` — for any program, the search finds the first covering statement.
* `LaidOut.covers_unique`, `LaidOut.exists_covers_iff` — in a laid-out program at most one
  statement covers an address, and one does exactly below the program's length.
* `Program.lineAt`, `Emulator.lineNo_of_covers`, `Emulator.code_of_loaded` — what an emulator
  shows of the instruction at its program counter: its source line, and its word, which is the
  memory word there as long as that word still holds the program's image.
* `listing_lines` — in the program of a listing, line `k + 1` is the word at address `k`.
* `statement_lookup_agrees` — all of it for every assembled program.
-/

namespace DecimalMachine

/-- The words of statement `s` cover address `a`. -/
def Statement.Covers (s : Statement) (a : Int) : Prop :=
  s.ip ≤ a ∧ a < s.ip + s.words.length

instance (s : Statement) (a : Int) : Decidable (s.Covers a) :=
  inferInstanceAs (Decidable (_ ∧ _))

/-- The layout an assembly gives its program: statements placed one after another from address
0, each with as many words as it has slots. -/
structure Program.LaidOut (p : Program) : Prop where
  placed : Placed 0 p.statements.toList
  words_length : ∀ st ∈ p.statements.toList, st.words.length = st.mnemonic.slots

/-- The source line of the statement whose words cover address `a`, or 0 when none does. -/
def Program.lineAt (p : Program) (a : Int) : Nat :=
  match p.locate? a with
  | some (s, _) => s.lineNo
  | none => 0

theorem Emulator.lineNo_eq (e : Emulator) : e.lineNo = e.program.lineAt e.machine.pc := rfl

namespace Program

variable {p : Program} {a : Int}

theorem laidOut_of_assemble {ev : Evaluator} {settings : Settings} {source : String}
    (h : (assemble ev settings source).result = .ok p) : p.LaidOut := by
  obtain ⟨-, hp, hw, -⟩ := assemble_program_image h
  exact ⟨hp, hw⟩

/-- The search finds the first statement whose words cover the address, and the place of the
address among those words. -/
theorem locate?_eq_some_iff {s : Statement} {k : Nat} :
    p.locate? a = some (s, k) ↔
      ∃ i, ∃ hi : i < p.statements.size, p.statements[i] = s ∧ s.Covers a ∧
        (∀ j (hj : j < i), ¬p.statements[j].Covers a) ∧ k = (a - s.ip).toNat := by
  simp only [locate?, Option.map_eq_some_iff, Array.find?_eq_some_iff_getElem, Prod.mk.injEq,
    decide_eq_true_eq, Bool.not_eq_eq_eq_not, Bool.not_true, decide_eq_false_iff_not]
  constructor
  · rintro ⟨s', ⟨hcov, i, hi, rfl, hfirst⟩, rfl, rfl⟩
    exact ⟨i, hi, rfl, hcov, hfirst, rfl⟩
  · rintro ⟨i, hi, rfl, hcov, hfirst, rfl⟩
    exact ⟨_, ⟨hcov, i, hi, rfl, hfirst⟩, rfl, rfl⟩

theorem locate?_isSome_iff :
    (p.locate? a).isSome ↔ ∃ i, ∃ hi : i < p.statements.size, p.statements[i].Covers a := by
  simp only [locate?, Option.isSome_map, Array.find?_isSome, decide_eq_true_eq,
    Array.mem_iff_getElem]
  constructor
  · rintro ⟨_, ⟨i, hi, rfl⟩, hcov⟩
    exact ⟨i, hi, hcov⟩
  · rintro ⟨i, hi, hcov⟩
    exact ⟨_, ⟨i, hi, rfl⟩, hcov⟩

namespace LaidOut

variable (h : p.LaidOut)
include h

theorem words_length_getElem (i : Nat) (hi : i < p.statements.size) :
    p.statements[i].words.length = p.statements[i].mnemonic.slots :=
  h.words_length _ (by simp)

/-- No two statements of a laid-out program cover the same address. -/
theorem covers_unique {i j : Nat} (hi : i < p.statements.size) (hj : j < p.statements.size)
    (hci : p.statements[i].Covers a) (hcj : p.statements[j].Covers a) : i = j := by
  obtain ⟨hlo, hhi⟩ := hci
  obtain ⟨hlo', hhi'⟩ := hcj
  rw [h.words_length_getElem i hi] at hhi
  rw [h.words_length_getElem j hj] at hhi'
  -- both statements hold the address at its offset from their first word
  have hsame : p.statements.toList[i].ip + (a - p.statements[i].ip).toNat =
      p.statements.toList[j].ip + (a - p.statements[j].ip).toNat := by
    simp only [Array.getElem_toList]
    omega
  exact (h.placed.eq_of_ip_add_eq (by simpa using hi) (by simpa using hj)
    (by simp only [Array.getElem_toList]; omega) (by simp only [Array.getElem_toList]; omega)
    hsame).1

/-- Some statement covers an address exactly when the address lies below the program's
length. -/
theorem exists_covers_iff :
    (∃ i, ∃ hi : i < p.statements.size, p.statements[i].Covers a) ↔ 0 ≤ a ∧ a < p.length := by
  have hlen := Program.length_eq_totalSlots h.placed h.words_length
  constructor
  · rintro ⟨i, hi, hlo, hhi⟩
    -- a statement ends within the run of all statements
    have hend := h.placed.end_le _ (List.getElem_mem (l := p.statements.toList) (n := i)
      (by simpa using hi))
    rw [h.words_length_getElem i hi] at hhi
    simp only [Array.getElem_toList, Nat.zero_add] at hend
    omega
  · rintro ⟨h0, hlt⟩
    obtain ⟨i, hi, hlo, hhi⟩ := h.placed.exists_covering (a := a.toNat) (Nat.zero_le _)
      (by omega)
    simp only [Array.getElem_toList] at hlo hhi
    refine ⟨i, by simpa using hi, ?_, ?_⟩
    · omega
    · rw [h.words_length_getElem i (by simpa using hi)]
      omega

theorem locate?_isSome_iff_lt : (p.locate? a).isSome ↔ 0 ≤ a ∧ a < p.length :=
  locate?_isSome_iff.trans h.exists_covers_iff

/-- What the search finds in a laid-out program: the only statement covering the address, the
address's offset in it, and there the word of the memory image. -/
theorem locate?_eq_some {s : Statement} {k : Nat} (hloc : p.locate? a = some (s, k)) :
    ∃ i, ∃ hi : i < p.statements.size, p.statements[i] = s ∧ s.Covers a ∧
      (∀ j (hj : j < p.statements.size), p.statements[j].Covers a → j = i) ∧
      (k : Int) = a - s.ip ∧ s.words[k]? = p.binary[a.toNat]? := by
  obtain ⟨i, hi, rfl, hcov, -, rfl⟩ := locate?_eq_some_iff.mp hloc
  have hslots := h.words_length_getElem i hi
  have hword := Program.binary_getElem?_word h.placed h.words_length i hi
    (a - p.statements[i].ip).toNat (by obtain ⟨hlo, hhi⟩ := hcov; omega)
  have haddr : p.statements[i].ip + (a - p.statements[i].ip).toNat = a.toNat := by
    obtain ⟨hlo, -⟩ := hcov
    omega
  refine ⟨i, hi, rfl, hcov, fun j hj hcj => h.covers_unique hj hi hcj hcov, ?_, ?_⟩
  · obtain ⟨hlo, -⟩ := hcov
    omega
  · rw [← hword, haddr]

theorem lineAt_of_covers {i : Nat} (hi : i < p.statements.size) (hc : p.statements[i].Covers a) :
    p.lineAt a = p.statements[i].lineNo := by
  unfold Program.lineAt
  rcases hloc : p.locate? a with _ | ⟨s, k⟩
  · -- a covering statement is there to be found
    have hsome := locate?_isSome_iff.mpr ⟨i, hi, hc⟩
    rw [hloc] at hsome
    cases hsome
  · obtain ⟨j, hj, rfl, hcj, huniq, -⟩ := h.locate?_eq_some hloc
    obtain rfl := huniq i hi hc
    rfl

theorem lineAt_of_not_lt (hout : ¬(0 ≤ a ∧ a < p.length)) : p.lineAt a = 0 := by
  unfold Program.lineAt
  rcases hloc : p.locate? a with _ | ⟨s, k⟩
  · rfl
  · have hsome := h.locate?_isSome_iff_lt.mp (by rw [hloc]; rfl)
    exact absurd hsome hout

end LaidOut

end Program

namespace Emulator

variable {e : Emulator}

theorem lineNo_of_covers (h : e.program.LaidOut) {i : Nat} (hi : i < e.program.statements.size)
    (hc : e.program.statements[i].Covers e.machine.pc) : e.lineNo = e.program.statements[i].lineNo := by
  rw [lineNo_eq]
  exact h.lineAt_of_covers hi hc

theorem lineNo_of_not_lt (h : e.program.LaidOut)
    (hout : ¬(0 ≤ e.machine.pc ∧ e.machine.pc < e.program.length)) : e.lineNo = 0 := by
  rw [lineNo_eq]
  exact h.lineAt_of_not_lt hout

/-- Inside memory, the word an emulator shows at its program counter is the memory word there, as
long as that word still holds the program's image. -/
theorem code_of_loaded (h : e.program.LaidOut) (h0 : 0 ≤ e.machine.pc)
    (hlt : e.machine.pc < e.machine.size)
    (hmem : e.machine.read? e.machine.pc = e.program.binary[e.machine.pc.toNat]?) :
    e.machine.read? e.machine.pc = some e.code := by
  have hread : e.machine.read? e.machine.pc = some (e.machine.read e.machine.pc) := by
    simp only [Machine.read?, Machine.read, Machine.size] at hlt ⊢
    simp [show ¬e.machine.pc < 0 by omega, show e.machine.pc.toNat < e.machine.memory.size by omega]
  unfold Emulator.code
  rcases hloc : e.program.locate? e.machine.pc with _ | ⟨s, k⟩
  · simp only [hread, Option.getD_some]
  · -- the statement's word is the image's word, which memory still holds
    obtain ⟨-, -, -, -, -, -, hword⟩ := h.locate?_eq_some hloc
    rw [← hmem, hread] at hword
    simp only [hread, List.getD_eq_getElem?_getD, hword, Option.getD_some]

/-- Outside memory an emulator shows the word 0: its program lies inside memory. -/
theorem code_of_not_lt (h : e.program.LaidOut) (hlen : e.program.length ≤ e.machine.size)
    (hout : ¬(0 ≤ e.machine.pc ∧ e.machine.pc < e.machine.size)) : e.code = 0 := by
  have hnone : e.program.locate? e.machine.pc = none := by
    rw [← Option.not_isSome_iff_eq_none, h.locate?_isSome_iff_lt]
    omega
  have hread : e.machine.read? e.machine.pc = none := by
    simp only [Machine.read?, Machine.size] at hout ⊢
    split
    · rfl
    · exact Array.getElem?_eq_none (by omega)
  simp only [Emulator.code, hnone, hread, Option.getD_none]

end Emulator

/-- The program of a listing of `ws` puts the word on line `k + 1` at address `k`: the lookup
finds that line there, and the image holds that word. -/
theorem listing_lines (ev : Evaluator) (settings : Settings) {ws : List Int} (hw : ∀ w ∈ ws, -999 ≤ w ∧ w ≤ 999)
    (hlen : ws.length ≤ settings.size.toNat) :
    ∃ p, (assemble ev settings (String.intercalate "\n" (ws.map Word.render))).result = .ok p ∧
      ∀ k (hk : k < ws.length), p.lineAt k = k + 1 ∧ p.binary[k]? = some ws[k] := by
  obtain ⟨p, hasm, hlay, hws⟩ := assemble_listing_layout ev settings hw hlen
  have h := Program.laidOut_of_assemble hasm
  refine ⟨p, hasm, fun k hk => ⟨?_, ?_⟩⟩
  · -- the statement of the `k`-th word stands at address `k`, on line `k + 1`
    obtain ⟨st, hst, hip, hline, hslots⟩ := layout_listingGroups_getElem? ws 0 1 hk
    rw [← hlay, List.getElem?_map] at hst
    obtain ⟨st', hst', rfl⟩ := Option.map_eq_some_iff.mp hst
    obtain ⟨hi, heq⟩ := List.getElem?_eq_some_iff.mp hst'
    simp only [Array.length_toList, Array.getElem_toList] at hi heq
    have hwords := h.words_length st' (List.mem_of_getElem? hst')
    have hcov : p.statements[k].Covers k := by
      simp only [Statement.withoutWords] at hip hslots
      simp only [heq, Statement.Covers, hwords, hip, hslots]
      omega
    rw [h.lineAt_of_covers hi hcov, heq]
    simp only [Statement.withoutWords] at hline
    omega
  · -- the image begins with the words of the statements, which are the listing
    have hlt : k < (p.statements.toList.flatMap (·.words)).length := by rw [hws]; exact hk
    rw [← Array.getElem?_toList, Program.binary_toList h.placed h.words_length,
      List.getElem?_append_left hlt, hws]
    exact List.getElem?_eq_getElem hk

/-- What a client of program `p` relies on when it looks up addresses. The search finds a
statement exactly for the addresses in `[0, length)`; what it finds is the only statement whose
words cover the address, the position it reports is the address's offset in that statement, and
the statement's word there is the word of the memory image. An emulator whose program is `p`,
and whose memory holds all of it, shows at its program counter the source line of the statement
covering it (0 outside the program), and the word there: the memory word as long as that still
holds the image the last reset loaded, and 0 outside memory. -/
structure Program.LookupAgrees (p : Program) : Prop where
  isSome_iff : ∀ a : Int, (p.locate? a).isSome ↔ 0 ≤ a ∧ a < p.length
  found : ∀ (a : Int) (s : Statement) (k : Nat), p.locate? a = some (s, k) →
    ∃ i, ∃ hi : i < p.statements.size, p.statements[i] = s ∧ s.Covers a ∧
      (∀ j (hj : j < p.statements.size), p.statements[j].Covers a → j = i) ∧
      (k : Int) = a - s.ip ∧ s.words[k]? = p.binary[a.toNat]?
  lineNo_covers : ∀ e : Emulator, e.program = p → ∀ i (hi : i < p.statements.size),
    p.statements[i].Covers e.machine.pc → e.lineNo = p.statements[i].lineNo
  lineNo_outside : ∀ e : Emulator, e.program = p →
    ¬(0 ≤ e.machine.pc ∧ e.machine.pc < p.length) → e.lineNo = 0
  code_loaded : ∀ e : Emulator, e.program = p → 0 ≤ e.machine.pc →
    e.machine.pc < e.machine.size → e.machine.read? e.machine.pc = p.binary[e.machine.pc.toNat]? →
    e.machine.read? e.machine.pc = some e.code
  code_outside : ∀ e : Emulator, e.program = p → p.length ≤ e.machine.size →
    ¬(0 ≤ e.machine.pc ∧ e.machine.pc < e.machine.size) → e.code = 0

/-- Looking up the statement behind an address agrees with the memory image, for every program
an assembly gives. -/
theorem statement_lookup_agrees {ev : Evaluator} {settings : Settings} {source : String}
    {p : Program}
    (hp : (assemble ev settings source).result = .ok p) : p.LookupAgrees := by
  have h := Program.laidOut_of_assemble hp
  refine ⟨fun a => h.locate?_isSome_iff_lt, fun a s k hloc => h.locate?_eq_some hloc, ?_, ?_, ?_, ?_⟩
  · rintro e rfl i hi hc
    exact Emulator.lineNo_of_covers h hi hc
  · rintro e rfl
    exact Emulator.lineNo_of_not_lt h
  · rintro e rfl
    exact Emulator.code_of_loaded h
  · rintro e rfl hlen
    exact Emulator.code_of_not_lt h hlen

/-- A three-word listing assembles, and looking up its addresses agrees with its image. -/
theorem listing_lookup_agrees :
    ∃ p, (assemble Evaluator.inert { memorySize := 4 } "LDA 3\nHLT\nINP").result = .ok p ∧
      p.LookupAgrees := by
  have hsrc : String.intercalate "\n" (([503, 0, 901] : List Int).map Word.render) =
      "LDA 3\nHLT\nINP" := by decide
  obtain ⟨p, h, -⟩ :=
    @assemble_listing Evaluator.inert { memorySize := 4 } [503, 0, 901] (by decide) (by decide)
  rw [hsrc] at h
  exact ⟨p, h, statement_lookup_agrees h⟩

end DecimalMachine
