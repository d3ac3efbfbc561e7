import Mathlib
import DecimalMachine.Assembly.Mnemonic
import DecimalMachine.Proofs.Listing

/-!
# Encoding and decoding instruction words are inverse

The instruction set is written down twice: as the table of operations, which gives each a base
word and says whether it takes an operand (`Op.base`, `Op.hasOperand`), and as the ranges of
words that `Word.decode?` reads, where the operation is found by arithmetic on its number
(`w / 100`, `13 + (w - 920)`, `18 + (w - 930)`). This module proves that the two agree, over
every integer and every operation number.

* `Word.IsInstruction` lists the instruction words; `Word.isSome_decode?_iff` says exactly
  these decode.
* `Word.make_of_decode` — a decoded word is encoded back to itself.
* `Word.decode_encode_of_fits` — an operation encoded with an operand that fits decodes back
  to the operation, with the operand when it takes one and 0 otherwise.
* `Word.make_eq_error_iff` — encoding fails for a number outside the table, or for an operand
  outside `[0, 99]` of an operation that takes one, and for nothing else.
* `instruction_coding_inverse` puts these together.
-/

namespace DecimalMachine

namespace Op

/-- Operation numbers run from 0 to 23. -/
theorem ofIndex?_eq_none_iff {n : Int} : ofIndex? n = none ↔ n < 0 ∨ 23 < n := by
  unfold ofIndex?
  split
  · next hn => simp [hn]
  · next hn =>
    rw [List.getElem?_eq_none_iff, show all.length = 24 from rfl]
    omega

theorem isSome_ofIndex? {n : Int} (h0 : 0 ≤ n) (h23 : n ≤ 23) : (ofIndex? n).isSome := by
  cases hn : ofIndex? n with
  | none =>
    have := ofIndex?_eq_none_iff.mp hn
    omega
  | some _ => rfl

/-- An operand that fits gives the operation's word. -/
theorem encode_of_fits {op : Op} {arg : Int} (h : op.hasOperand = true → 0 ≤ arg ∧ arg ≤ 99) :
    op.encode arg = .ok (Word.encode op arg) := by
  unfold encode Word.encode
  cases ho : op.hasOperand
  · simp
  · have hfit := h ho
    simp only [Bool.not_true, Bool.false_eq_true, if_false, if_true]
    rw [if_neg (by omega)]

/-- The only failure of encoding an operation: an operand outside `[0, 99]` where the operation
takes one. -/
theorem encode_eq_error_iff {op : Op} {arg : Int} {e : Error} :
    op.encode arg = .error e ↔
      op.hasOperand = true ∧ (arg < 0 ∨ 99 < arg) ∧ e = .operandRange arg := by
  unfold encode
  cases ho : op.hasOperand
  · simp
  · by_cases harg : arg < 0 ∨ 99 < arg
    · simp only [Bool.not_true, Bool.false_eq_true, if_false, if_pos harg, Except.error.injEq]
      exact ⟨fun he => ⟨trivial, harg, he.symm⟩, fun ⟨_, _, he⟩ => he.symm⟩
    · simp [harg]

end Op

namespace Word

/-- The instruction words: `0`, `100`–`899`, `901`, `902`, `910`, `911`, `920`–`924` and
`930`–`935`. -/
def IsInstruction (w : Int) : Prop :=
  w = 0 ∨ (100 ≤ w ∧ w ≤ 899) ∨ w = 901 ∨ w = 902 ∨ w = 910 ∨ w = 911 ∨
    (920 ≤ w ∧ w ≤ 924) ∨ (930 ≤ w ∧ w ≤ 935)

instance (w : Int) : Decidable (IsInstruction w) :=
  inferInstanceAs (Decidable (w = 0 ∨ (100 ≤ w ∧ w ≤ 899) ∨ w = 901 ∨ w = 902 ∨ w = 910 ∨
    w = 911 ∨ (920 ≤ w ∧ w ≤ 924) ∨ (930 ≤ w ∧ w ≤ 935)))

/-- Exactly the instruction words decode: in each numbered range the operation number it
computes lies in the table. -/
theorem isSome_decode?_iff (w : Int) : (decode? w).isSome ↔ IsInstruction w := by
  unfold decode? IsInstruction
  split_ifs with h0 h1 h2 h3 h4 h5 h6 h7 <;>
    simp only [beq_iff_eq, Bool.and_eq_true, decide_eq_true_eq] at * <;>
    simp only [Option.isSome_some, Option.isSome_none, Option.isSome_map, Bool.false_eq_true,
      true_iff, false_iff]
  all_goals first
    | omega
    | constructor
      · intro; omega
      · intro; exact Op.isSome_ofIndex? (by omega) (by omega)

theorem decode_eq_ok_iff {w : Int} {r : Op × Int} : decode w = .ok r ↔ decode? w = some r := by
  unfold decode
  cases decode? w <;> simp

theorem decode_of_decode?_none {w : Int} (h : decode? w = none) : decode w = .error (.badWord w) := by
  simp [decode, h]

/-- Encoding by operation number is encoding the operation with that number. -/
theorem make_index (op : Op) (arg : Int) : make op.index arg = op.encode arg := by
  simp [make, Op.ofIndex?_index]

/-- A decoded word is encoded back to itself. -/
theorem make_of_decode {w : Int} {op : Op} {arg : Int} (h : decode w = .ok (op, arg)) :
    make op.index arg = .ok w := by
  obtain ⟨henc, hfit⟩ := encode_of_decode? (decode_eq_ok_iff.mp h)
  rw [make_index, Op.encode_of_fits hfit, henc]

/-- An operation encoded with an operand that fits decodes back to the operation, with the
operand when it takes one and 0 otherwise. -/
theorem decode_encode_of_fits {op : Op} {arg : Int}
    (h : op.hasOperand = true → 0 ≤ arg ∧ arg ≤ 99) :
    decode (encode op arg) = .ok (op, if op.hasOperand then arg else 0) := by
  rw [decode_eq_ok_iff]
  unfold encode
  cases ho : op.hasOperand
  · simpa using decode?_base op
  · simpa using decode?_encode ho (h ho)

/-- Encoding fails for a number outside the table, or for an operand outside `[0, 99]` of an
operation that takes one, and for nothing else. -/
theorem make_eq_error_iff {n arg : Int} {e : Error} :
    make n arg = .error e ↔
      (Op.ofIndex? n = none ∧ e = .unknownInstruction) ∨
      (Op.operandOfIndex n = true ∧ (arg < 0 ∨ 99 < arg) ∧ e = .operandRange arg) := by
  unfold make Op.operandOfIndex
  cases Op.ofIndex? n with
  | none => simp [eq_comm]
  | some op => simp [Op.encode_eq_error_iff]

end Word

/-- The instruction encoder and decoder are inverse, over every integer word and every
operation number. A word decodes exactly when it is an instruction word, and any other word is
reported as a bad word; a decoded word encodes back to itself; every operation, with an operand
in `[0, 99]` when it takes one, encodes to a word that decodes back to it, with that operand or
0; and encoding fails with an operand error exactly for an operation with an operand outside
`[0, 99]`, and as an unknown instruction exactly for a number outside `[0, 23]`. -/
theorem instruction_coding_inverse :
    (∀ w : Int, (∃ r, Word.decode w = .ok r) ↔ Word.IsInstruction w) ∧
    (∀ w : Int, ¬Word.IsInstruction w → Word.decode w = .error (.badWord w)) ∧
    (∀ (w : Int) (op : Op) (arg : Int),
      Word.decode w = .ok (op, arg) → Word.make op.index arg = .ok w) ∧
    (∀ (op : Op) (arg : Int), (op.hasOperand = true → 0 ≤ arg ∧ arg ≤ 99) →
      ∃ w, Word.make op.index arg = .ok w ∧
        Word.decode w = .ok (op, if op.hasOperand then arg else 0)) ∧
    (∀ n arg : Int, Word.make n arg = .error (.operandRange arg) ↔
      Op.operandOfIndex n = true ∧ (arg < 0 ∨ 99 < arg)) ∧
    (∀ n arg : Int, Word.make n arg = .error .unknownInstruction ↔ n < 0 ∨ 23 < n) := by
  refine ⟨fun w => ?_, fun w hw => ?_, fun w op arg h => Word.make_of_decode h,
    fun op arg h => ⟨_, Word.make_index op arg ▸ Op.encode_of_fits h,
      Word.decode_encode_of_fits h⟩, fun n arg => ?_, fun n arg => ?_⟩
  · -- decoding succeeds exactly where the partial decoder finds something
    rw [← Word.isSome_decode?_iff, Option.isSome_iff_exists]
    exact exists_congr fun r => Word.decode_eq_ok_iff
  · apply Word.decode_of_decode?_none
    rw [← Option.not_isSome_iff_eq_none, Word.isSome_decode?_iff]
    exact hw
  · rw [Word.make_eq_error_iff]
    simp
  · rw [Word.make_eq_error_iff, Op.ofIndex?_eq_none_iff]
    simp

example : Word.IsInstruction 935 ∧ ¬Word.IsInstruction 936 ∧ ¬Word.IsInstruction (-100) := by
  decide

end DecimalMachine
