import Mathlib
import DecimalMachine.Machine.Device
import DecimalMachine.Proofs.Listing

/-!
# Reading the words of a tape

A tape reads its input text a word at a time through a window of `windowBytes` bytes. When
every word fits the window together with the blank that ends it, successive reads give the
words of the text (`Text.wordsOf`, the split at blanks that source lines get too) in order:
each read gives the value of the next word, or reports that word as not a number and goes on
with the next one, and once the words are used up every read reports the channel empty. What a
tape writes is read back as the values written.

A word that fits the window on its own need not fit with its blank: a blank of several bytes
cut by the window's end makes the read fail as too long.

* `FitsWindow` — the texts in which every word fits the window with the blank after it, and a
  word that ends the text with a byte to spare: a grammar of blanks and words.
* `Reader.Yields r ws` — the reader `r` will read the words `ws` and then nothing.
  `FitsWindow.next` is the step lemma, one case per rule of the grammar, and
  `Reader.Yields.receives` the run lemma.
* `tape_reads_words` — the main statement.
-/

namespace DecimalMachine

open Text (isBlank wordsOf decimal digits readDecimal? fitsWord)

/-! ## The words of a text -/

namespace Text

/-- A run of characters all blank or all not, followed by text that starts otherwise, splits
off whole: a word when it is not blank. -/
theorem wordsOf_run_append {r m : List Char} {β : Bool} (hr : r ≠ [])
    (hrun : ∀ c ∈ r, isBlank c = β) (hm : ∀ c ∈ m.head?, isBlank c = !β) :
    wordsOf (r ++ m) = (if β then [] else [r]) ++ wordsOf m := by
  have hchain : r.IsChain fun a b => (isBlank a == isBlank b) = true :=
    (List.pairwise_of_forall_mem_list fun a ha b hb => by simp [hrun a ha, hrun b hb]).isChain
  rw [wordsOf, List.splitBy_append, List.splitBy_of_isChain hr hchain, List.singleton_append,
    List.filter_cons]
  · obtain ⟨c, cs, rfl⟩ := List.exists_cons_of_ne_nil hr
    cases β <;> simp [hrun c List.mem_cons_self, wordsOf]
  · -- the run's last character is unlike the first one after it
    intro x hx y hy
    have hx' := hrun x (List.mem_of_getLast? hx)
    have hy' := hm y hy
    cases β <;> simp_all

/-- Blanks before a text that starts with a word are no word. -/
theorem wordsOf_blanks_append {r m : List Char} (hr : ∀ c ∈ r, isBlank c = true)
    (hm : ∀ c ∈ m.head?, isBlank c = false) : wordsOf (r ++ m) = wordsOf m := by
  by_cases hnil : r = []
  · rw [hnil, List.nil_append]
  · rw [wordsOf_run_append hnil hr hm]
    simp

theorem isBlank_head_dropWhile (cs : List Char) :
    ∀ c ∈ (cs.dropWhile isBlank).head?, isBlank c = false := by
  intro c hc
  have h := List.head?_dropWhile_not isBlank cs
  rw [Option.mem_def.mp hc] at h
  exact h

/-- A blank is no part of a word. -/
theorem wordsOf_cons_blank {b : Char} (hb : isBlank b = true) (cs : List Char) :
    wordsOf (b :: cs) = wordsOf cs := by
  -- the blanks that open `cs` make one run with `b`
  have hsplit := List.takeWhile_append_dropWhile (p := isBlank) (l := cs)
  have hrun : ∀ c ∈ cs.takeWhile isBlank, isBlank c = true := fun c hc =>
    List.mem_takeWhile_imp hc
  calc wordsOf (b :: cs)
      = wordsOf ((b :: cs.takeWhile isBlank) ++ cs.dropWhile isBlank) := by
        rw [List.cons_append, hsplit]
    _ = wordsOf (cs.dropWhile isBlank) :=
        wordsOf_blanks_append (List.forall_mem_cons.mpr ⟨hb, hrun⟩) (isBlank_head_dropWhile cs)
    _ = wordsOf cs := by
        conv_rhs => rw [← hsplit]
        exact (wordsOf_blanks_append hrun (isBlank_head_dropWhile cs)).symm

/-- A word followed by a blank, or by nothing, is the first word. -/
theorem wordsOf_word_append {w m : List Char} (hw : w ≠ []) (hword : ∀ c ∈ w, isBlank c = false)
    (hm : ∀ c ∈ m.head?, isBlank c = true) : wordsOf (w ++ m) = w :: wordsOf m := by
  rw [wordsOf_run_append hw hword fun c hc => by simpa using hm c hc]
  simp

end Text

/-! ## Texts that fit the window -/

/-- The texts in which every word fits the tape's window together with the blank that ends it,
and a word that ends the text fits with a byte to spare. -/
inductive FitsWindow : List Char → Prop
  /-- The empty text. -/
  | nil : FitsWindow []
  /-- A blank before a text that fits. -/
  | blank {b : Char} {cs : List Char} : isBlank b = true → FitsWindow cs → FitsWindow (b :: cs)
  /-- A word that ends the text. -/
  | last {w : List Char} : w ≠ [] → (∀ c ∈ w, isBlank c = false) →
      (w.map charBytes).sum < windowBytes → FitsWindow w
  /-- A word, the blank that ends it, and a text that fits. -/
  | word {w cs : List Char} {b : Char} : w ≠ [] → (∀ c ∈ w, isBlank c = false) →
      isBlank b = true → (w.map charBytes).sum + charBytes b ≤ windowBytes → FitsWindow cs →
      FitsWindow (w ++ b :: cs)

/-! ## One read -/

namespace Reader

/-- The reader counts a word's bytes one character after another. -/
theorem size_eq (w : List Char) :
    w.foldl (fun n c => n + charBytes c) 0 = (w.map charBytes).sum := by
  rw [List.sum_eq_foldl_nat, List.foldl_map]

theorem next_nil : (reading []).next = (.error .channelEmpty, .finished .channelEmpty) := rfl

/-- Blanks before a word are skipped. -/
theorem next_blank {b : Char} (hb : isBlank b = true) (cs : List Char) :
    (reading (b :: cs)).next = (reading cs).next := by
  simp only [next, List.dropWhile_cons_of_pos hb]

section Word

variable {w : List Char} (hw : w ≠ []) (hword : ∀ c ∈ w, isBlank c = false)
include hw hword

/-- The text from a word on reads as it is, and the word is what it takes. -/
theorem dropWhile_word (m : List Char) : (w ++ m).dropWhile isBlank = w ++ m := by
  obtain ⟨c, w', rfl⟩ := List.exists_cons_of_ne_nil hw
  rw [List.cons_append, List.dropWhile_cons_of_neg (by simp [hword c List.mem_cons_self])]

/-- Reading a word and the blank after it: the word's value, with the reader after the blank,
when the two fit the window together, and a failure as too long when they do not. -/
theorem next_word_blank_eq {cs : List Char} {b : Char} (hb : isBlank b = true) :
    (reading (w ++ b :: cs)).next =
      if (w.map charBytes).sum + charBytes b ≤ windowBytes then (valueOf w, .reading cs)
      else (.error .tooLong, .overflowed (windowPrefix windowBytes (w ++ [b]))) := by
  have hnb : ∀ a ∈ w, (!isBlank a) = true := fun a ha => by simp [hword a ha]
  -- a word that starts with a character selects the reader's branch for a word
  obtain ⟨c, w', rfl⟩ := List.exists_cons_of_ne_nil hw
  have hstop : ¬(!isBlank b) = true := by simp [hb]
  simp only [next, dropWhile_word hw hword, List.takeWhile_append_of_pos hnb,
    List.dropWhile_append_of_pos hnb, List.takeWhile_cons_of_neg (p := fun c => !isBlank c) hstop,
    List.dropWhile_cons_of_neg (p := fun c => !isBlank c) hstop, List.append_nil, size_eq]

theorem next_word_blank {cs : List Char} {b : Char} (hb : isBlank b = true)
    (hfit : (w.map charBytes).sum + charBytes b ≤ windowBytes) :
    (reading (w ++ b :: cs)).next = (valueOf w, .reading cs) := by
  rw [next_word_blank_eq hw hword hb, if_pos hfit]

/-- A word and the blank after it that do not fit the window together fail as too long, even
when the word fits on its own. -/
theorem next_word_blank_tooLong {cs : List Char} {b : Char} (hb : isBlank b = true)
    (hbig : windowBytes < (w.map charBytes).sum + charBytes b) :
    (reading (w ++ b :: cs)).next.1 = .error .tooLong := by
  rw [next_word_blank_eq hw hword hb, if_neg (by omega)]

/-- Reading a word that ends the text, when it fits the window: its value, and nothing after
it. -/
theorem next_last (hfit : (w.map charBytes).sum < windowBytes) :
    (reading w).next = (valueOf w, .finished .channelEmpty) := by
  have hnb : ∀ a ∈ w, (!isBlank a) = true := fun a ha => by simp [hword a ha]
  have hdrop := dropWhile_word hw hword []
  rw [List.append_nil] at hdrop
  obtain ⟨c, w', rfl⟩ := List.exists_cons_of_ne_nil hw
  simp only [next, hdrop, List.takeWhile_eq_self_iff.mpr hnb,
    List.dropWhile_eq_nil_iff.mpr hnb, size_eq, if_pos hfit]

end Word

/-- The reader `r` will read the words `ws`, and after them nothing. -/
inductive Yields : Reader → List (List Char) → Prop
  /-- Reading a text that fits the window: its words. -/
  | reading {rest : List Char} {ws : List (List Char)} :
      FitsWindow rest → wordsOf rest = ws → Yields (.reading rest) ws
  /-- At the end of the text: nothing. -/
  | exhausted : Yields (.finished .channelEmpty) []

end Reader

open Reader

/-- The step lemma, one case for each rule of the grammar: a read from a text that fits the
window gives the value of the first word and a reader for the other words, or reports the
channel empty when there is no word. -/
theorem FitsWindow.next {rest : List Char} (h : FitsWindow rest) :
    match wordsOf rest with
    | [] => (reading rest).next.1 = .error .channelEmpty ∧ (reading rest).next.2.Yields []
    | w :: ws => (reading rest).next.1 = valueOf w ∧ (reading rest).next.2.Yields ws := by
  induction h with
  | nil => exact ⟨rfl, .exhausted⟩
  | blank hb _ ih => rwa [next_blank hb, Text.wordsOf_cons_blank hb]
  | last hw hword hfit =>
    rw [Text.wordsOf_of_nonblank hw hword, next_last hw hword hfit]
    exact ⟨rfl, .exhausted⟩
  | word hw hword hb hfit hcs _ =>
    rw [Text.wordsOf_word_append hw hword (by simp [hb]), Text.wordsOf_cons_blank hb,
      next_word_blank hw hword hb hfit]
    exact ⟨rfl, .reading hcs rfl⟩

namespace Reader.Yields

variable {r : Reader}

theorem next_nil (h : r.Yields []) : r.next.1 = .error .channelEmpty ∧ r.next.2.Yields [] := by
  cases h with
  | reading hfit hws =>
    have hstep := hfit.next
    rwa [hws] at hstep
  | exhausted => exact ⟨rfl, .exhausted⟩

theorem next_cons {w : List Char} {ws : List (List Char)} (h : r.Yields (w :: ws)) :
    r.next.1 = valueOf w ∧ r.next.2.Yields ws := by
  cases h with
  | reading hfit hws =>
    have hstep := hfit.next
    rwa [hws] at hstep

end Reader.Yields

/-! ## A run of reads -/

namespace Tape

/-- `n` reads in a row from a tape: the value each gives, in order. -/
def receives : Nat → Tape → List (Except Error Int)
  | 0, _ => []
  | n + 1, t => t.receive.1 :: receives n t.receive.2

theorem receive_of_input {t : Tape} {r : Reader} (ht : t.input = some r) :
    t.receive = (r.next.1, { t with input := some r.next.2 }) := by
  simp [receive, ht]

theorem receive_fst_of_input {t : Tape} {r : Reader} (ht : t.input = some r) :
    t.receive.1 = r.next.1 := by
  rw [receive_of_input ht]

end Tape

/-- The run lemma, by induction on the words: a tape whose reader yields `ws` reads their
values, then reports the channel empty on every read after. -/
theorem Reader.Yields.receives {r : Reader} {ws : List (List Char)} (h : r.Yields ws) {t : Tape}
    (ht : t.input = some r) (k : Nat) :
    t.receives (ws.length + k) = ws.map valueOf ++ List.replicate k (.error .channelEmpty) := by
  induction ws generalizing r t with
  | nil =>
    rw [List.length_nil, Nat.zero_add, List.map_nil, List.nil_append]
    induction k generalizing r t with
    | zero => rfl
    | succ k ih =>
      obtain ⟨h1, h2⟩ := h.next_nil
      rw [Tape.receives, Tape.receive_of_input ht, h1, ih h2 rfl, List.replicate_succ]
  | cons w ws ih =>
    obtain ⟨h1, h2⟩ := h.next_cons
    rw [List.length_cons, Nat.add_right_comm, Tape.receives, Tape.receive_of_input ht, h1,
      ih h2 rfl, List.map_cons, List.cons_append]

/-! ## Reading back what a tape wrote

A tape writes each value as its decimal numeral and a line break. A numeral of a value that fits
a 64-bit word has at most twenty characters, each a byte, so with its line break it fits the
window. -/

theorem Text.toList_decimal (v : Int) : (decimal v).toList = (toString v).toList := by
  rw [toList_toString_int]
  unfold decimal digits
  by_cases hv : v < 0
  · rw [if_pos hv, if_neg (by omega)]
    simp only [String.toList_append, String.toList_ofList]
    rw [show "-".toList = ['-'] from rfl, List.singleton_append]
    congr 2
    omega
  · rw [if_neg hv, if_pos (by omega)]
    simp only [String.toList_append, String.toList_ofList, String.toList_empty, List.nil_append]
    congr 1
    omega

theorem charBytes_of_listingChar {c : Char} (h : ListingChar c) : charBytes c = 1 := by
  have hsmall : c.toNat ≤ 90 := by
    rcases h with rfl | h | h
    · decide
    · omega
    · omega
  unfold charBytes Char.utf8Size
  rw [if_pos (by rw [UInt32.le_iff_toNat_le]; exact Nat.le_trans hsmall (by decide))]

theorem bounds_of_fitsWord {v : Int} (hv : fitsWord v = true) :
    -9223372036854775808 ≤ v ∧ v ≤ 9223372036854775807 := by
  simp only [fitsWord, Bool.and_eq_true] at hv
  exact ⟨of_decide_eq_true hv.1, of_decide_eq_true hv.2⟩

/-- The bytes of the numeral of a value that fits a 64-bit word: at most twenty. -/
theorem bytes_decimal_le {v : Int} (hv : fitsWord v = true) :
    ((decimal v).toList.map charBytes).sum ≤ 20 := by
  have hone : (decimal v).toList.map charBytes = List.replicate (decimal v).toList.length 1 := by
    rw [List.map_eq_replicate_iff]
    intro c hc
    rw [Text.toList_decimal] at hc
    exact charBytes_of_listingChar (listingChar_toString v c hc)
  have hbounds := bounds_of_fitsWord hv
  have hdigits : ∀ n : Nat, n < 10 ^ 19 → (Nat.toDigits 10 n).length ≤ 19 := fun n hn =>
    (Nat.length_toDigits_le_iff (by decide) (by decide)).mpr hn
  rw [hone, List.sum_replicate, smul_eq_mul, mul_one, Text.toList_decimal, toList_toString_int]
  split
  · have := hdigits v.toNat (by omega)
    omega
  · have := hdigits (-v).toNat (by omega)
    simp only [List.length_cons]
    omega

/-- The text a tape writes for values `vs`: each numeral followed by a line break. -/
theorem Tape.toList_foldl_send {t : Tape} {s : String} (ht : t.output = some (.buffer s))
    (vs : List Int) :
    (vs.foldl (fun (t : Tape) v => (t.send v).1) t).written.toList =
      s.toList ++ vs.flatMap fun v => (decimal v).toList ++ ['\n'] := by
  induction vs generalizing t s with
  | nil => simp [Tape.written, ht]
  | cons v vs ih =>
    have hsend : (t.send v).1.output = some (.buffer (s ++ (decimal v ++ "\n"))) := by
      simp [Tape.send, ht]
    rw [List.foldl_cons, ih hsend]
    simp

/-- What a tape writes for values that fit a 64-bit word fits the window, and its words are
the numerals of the values. -/
theorem fitsWindow_written {vs : List Int} (hvs : ∀ v ∈ vs, fitsWord v = true) :
    FitsWindow (vs.flatMap fun v => (decimal v).toList ++ ['\n']) ∧
      wordsOf (vs.flatMap fun v => (decimal v).toList ++ ['\n']) =
        vs.map fun v => (decimal v).toList := by
  induction vs with
  | nil => exact ⟨.nil, rfl⟩
  | cons v vs ih =>
    obtain ⟨hfit, hwords⟩ := ih fun u hu => hvs u (List.mem_cons_of_mem v hu)
    have hne : (decimal v).toList ≠ [] := by rw [Text.toList_decimal]; exact toString_int_ne_nil v
    have hword : ∀ c ∈ (decimal v).toList, isBlank c = false := fun c hc =>
      (listingChar_toString v c (Text.toList_decimal v ▸ hc)).isBlank_eq
    have hbytes := bytes_decimal_le (hvs v List.mem_cons_self)
    have hnl : isBlank '\n' = true := by decide
    simp only [List.flatMap_cons, List.append_assoc, List.singleton_append, List.map_cons]
    refine ⟨.word hne hword hnl ?_ hfit, ?_⟩
    · have : charBytes '\n' = 1 := by decide
      simp only [windowBytes, this]
      omega
    · rw [Text.wordsOf_word_append hne hword (by simp [hnl]), Text.wordsOf_cons_blank hnl, hwords]

/-- The numeral of a value that fits a 64-bit word reads back as that value. -/
theorem valueOf_decimal {v : Int} (hv : fitsWord v = true) :
    valueOf (decimal v).toList = .ok v := by
  have hnum : numeral? (decimal v) = some v := by
    have : decimal v = toString v := String.toList_inj.mp (Text.toList_decimal v)
    rw [this]
    exact numeral?_toString v
  simp [valueOf, String.ofList_toList, readDecimal?_of_numeral hnum, hv]

/-- Tape input reads the words of the text in order. For a text in which every word fits the
tape's window of 65536 bytes together with the blank that ends it (a word that ends the text
with a byte to spare), successive reads from a tape whose input is at the start of the text
give, for each word in turn, its value as a decimal integer that fits a 64-bit word, or report
the word as not a number and go on with the next word on the following read; once the words are
used up every read reports the channel empty. In particular a tape whose input is the text a
tape wrote into its buffer for values that fit a 64-bit word reads exactly those values, then
reports the channel empty. -/
theorem tape_reads_words :
    (∀ text : String, FitsWindow text.toList → ∀ t : Tape, t.input = some (.start text) →
      ∀ k : Nat, t.receives ((wordsOf text.toList).length + k) =
        (wordsOf text.toList).map (fun w =>
          match readDecimal? (String.ofList w) with
          | some v => .ok v
          | none => .error (.notANumber (String.ofList w))) ++
        List.replicate k (.error .channelEmpty)) ∧
    (∀ vs : List Int, (∀ v ∈ vs, fitsWord v = true) → ∀ k : Nat,
      ({ input := some (.start
          (vs.foldl (fun (t : Tape) v => (t.send v).1) { output := some (.buffer "") }).written) } :
        Tape).receives (vs.length + k) = vs.map .ok ++ List.replicate k (.error .channelEmpty)) := by
  refine ⟨fun text hfit t ht k => (Yields.reading hfit rfl).receives ht k, fun vs hvs k => ?_⟩
  obtain ⟨hfit, hwords⟩ := fitsWindow_written hvs
  have htext := Tape.toList_foldl_send (t := { output := some (.buffer "") }) rfl vs
  rw [String.toList_empty, List.nil_append] at htext
  have hyields : (Reader.start
      (vs.foldl (fun (t : Tape) v => (t.send v).1) { output := some (.buffer "") }).written).Yields
      (vs.map fun v => (decimal v).toList) := by
    rw [Reader.start, htext]
    exact .reading hfit hwords
  have hrun := hyields.receives (t := { input := some _ }) rfl k
  -- each written numeral reads back as its value
  have hvalues : (vs.map fun v => (decimal v).toList).map valueOf = vs.map .ok := by
    rw [List.map_map]
    refine List.map_congr_left fun v hv => ?_
    rw [Function.comp_apply]
    exact valueOf_decimal (hvs v hv)
  rw [List.length_map, hvalues] at hrun
  exact hrun

/-- Reading `42 4x2` and a line break gives 42, reports `4x2` as not a number, then reports the
channel empty; reading back what a tape wrote for 7 and -999 gives 7 and -999, then the channel
empty. -/
theorem tape_reads_sample :
    FitsWindow "42 4x2\n".toList ∧
      ({ input := some (.start "42 4x2\n") } : Tape).receives 3 =
        [.ok 42, .error (.notANumber "4x2"), .error .channelEmpty] ∧
      ({ input := some (.start
          ([7, -999].foldl (fun (t : Tape) v => (t.send v).1) { output := some (.buffer "") }).written) } :
        Tape).receives 3 = [.ok 7, .ok (-999), .error .channelEmpty] := by
  have htext : "42 4x2\n".toList = ['4', '2'] ++ ' ' :: (['4', 'x', '2'] ++ '\n' :: []) := by
    decide
  have hfit : FitsWindow "42 4x2\n".toList := by
    rw [htext]
    exact .word (by simp) (by simp [isBlank]) (by decide) (by decide)
      (.word (by simp) (by simp [isBlank]) (by decide) (by decide) .nil)
  have hwords : wordsOf "42 4x2\n".toList = [['4', '2'], ['4', 'x', '2']] := by decide
  have hread := tape_reads_words.1 _ hfit { input := some (.start "42 4x2\n") } rfl 1
  have hback := tape_reads_words.2 [7, -999] (by decide) 1
  rw [hwords] at hread
  exact ⟨hfit, hread.trans (by decide), hback⟩

-- stated for every length so that the kernel never unfolds a long run of one character
theorem bytes_replicate_append (n : Nat) (c d : Char) :
    ((List.replicate n c ++ [d]).map charBytes).sum = n * charBytes c + charBytes d := by
  rw [List.map_append, List.sum_append, List.map_replicate, List.sum_replicate_nat,
    List.map_singleton, List.sum_singleton]

/-- Reading words shorter than the window is not enough: a numeral of 65535 bytes followed by a
no-break space (two bytes) and `5` has two words, each shorter than 65536 bytes, yet the first
read fails as too long instead of giving the numeral's value or reporting it as not a
number. -/
theorem long_word_before_wide_blank_too_long :
    let w := List.replicate 65534 '0' ++ ['1']
    let text := String.ofList (w ++ '\u00A0' :: ['5'])
    wordsOf text.toList = [w, ['5']] ∧ (∀ u ∈ wordsOf text.toList, (u.map charBytes).sum < 65536) ∧
      ({ input := some (.start text) } : Tape).receive.1 = .error .tooLong := by
  intro w text
  have hw : w ≠ [] := List.append_ne_nil_of_right_ne_nil _ (List.cons_ne_nil '1' [])
  have hword : ∀ c ∈ w, isBlank c = false := by
    intro c hc
    simp only [w, List.mem_append, List.mem_replicate, List.mem_singleton] at hc
    rcases hc with ⟨-, rfl⟩ | rfl <;> decide
  have hbytes : (w.map charBytes).sum = 65535 := by
    have h0 : charBytes '0' = 1 := by decide
    have h1 : charBytes '1' = 1 := by decide
    rw [bytes_replicate_append, h0, h1]
  have hnbsp : isBlank '\u00A0' = true := by decide
  have hwords : wordsOf text.toList = [w, ['5']] := by
    rw [String.toList_ofList, Text.wordsOf_word_append hw hword (by simp [hnbsp]),
      Text.wordsOf_cons_blank hnbsp, Text.wordsOf_of_nonblank (by simp) (by simp [isBlank])]
  refine ⟨hwords, ?_, ?_⟩
  · rw [hwords]
    intro u hu
    simp only [List.mem_cons, List.mem_nil_iff, or_false] at hu
    rcases hu with h | h <;> rw [h]
    · rw [hbytes]
      decide
    · decide
  · have hwide : windowBytes < (w.map charBytes).sum + charBytes '\u00A0' := by
      rw [hbytes]
      decide
    -- the tape reads from the first word on; the read itself is far too long to evaluate
    have hin : ({ input := some (.start text) } : Tape).input =
        some (Reader.reading (w ++ '\u00A0' :: ['5'])) := by
      simp only [Reader.start, text, String.toList_ofList]
    exact (Tape.receive_fst_of_input hin).trans (next_word_blank_tooLong hw hword hnbsp hwide)

end DecimalMachine
