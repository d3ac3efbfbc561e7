import Mathlib
import DecimalMachine.Proofs.ProgramImage

/-!
# Listings read back

The listing of a program writes each of its words on a line of its own, as the machine shows
it (`Word.render`): the mnemonic and operand of an instruction word, `DAT` and the word for any
other. This module reads a listing back through the scan: its lines are the words' texts, and
each line reads as one statement that expands to its word again.

* Words. `Word.encode_of_decode?` inverts decoding: a word that decodes is the encoding of what
  it decodes to. `numeral?_toString` reads the text of an integer back as that integer.
* Lines. The text of a word is one or two listing words (`words_render`): `Word.group` is the
  statement it reads as, well formed for every word in `[-999, 999]` (`wellFormed_group`) and
  expanding to that word again (`expand_group`).
* Scan. A listing line has no comment, no expression and no line break, so scanning the lines
  joined by line breaks gives their words, line by line (`scanSource_intercalate`).
-/

namespace DecimalMachine

/-! ## Listing characters

A listing writes capital letters, digits and minus signs, with a space between a mnemonic and
its operand. None of them is a line break, a comment, an expression or a carriage return, and
only the space is blank. -/

/-- A character a listing writes inside a word: a minus sign, a digit or a capital letter. -/
def ListingChar (c : Char) : Prop :=
  c = '-' ∨ (48 ≤ c.toNat ∧ c.toNat ≤ 57) ∨ (65 ≤ c.toNat ∧ c.toNat ≤ 90)

namespace ListingChar

variable {c : Char} (h : ListingChar c)
include h

theorem isBlank_eq : Text.isBlank c = false := by
  rcases h with rfl | h | h
  · rfl
  · simp [Text.isBlank]; omega
  · simp [Text.isBlank]; omega

theorem ne_newline : c ≠ '\n' := by
  rintro rfl; simp [ListingChar] at h

theorem ne_semicolon : c ≠ ';' := by
  rintro rfl; simp [ListingChar] at h

theorem ne_dollar : c ≠ '$' := by
  rintro rfl; simp [ListingChar] at h

theorem ne_return : c ≠ '\r' := by
  rintro rfl; simp [ListingChar] at h

end ListingChar

theorem listingChar_of_isDigit {c : Char} (h : c.isDigit = true) : ListingChar c :=
  Or.inr (Or.inl (toNat_of_isDigit h))

theorem Op.listingChar_name (o : Op) : ∀ c ∈ o.name.toList, ListingChar c := by
  cases o <;> simp [Op.name, ListingChar]

theorem Op.name_ne_nil (o : Op) : o.name.toList ≠ [] := by
  cases o <;> simp [Op.name]

/-! ## Integers as text -/

/-- The decimal digits of a natural number read back as that number. -/
theorem digitString?_toDigits (n : Nat) : digitString? (Nat.toDigits 10 n) = some n := by
  have hdig : (Nat.toDigits 10 n).all Char.isDigit = true :=
    List.all_eq_true.mpr fun c hc => Nat.isDigit_of_mem_toDigits (by decide) (by decide) hc
  have hval : decimalValue (Nat.toDigits 10 n) = Nat.ofDigitChars 10 (Nat.toDigits 10 n) 0 := by
    simp only [decimalValue, Nat.ofDigitChars_eq_foldl, Nat.mul_comm]
  rw [digitString?_eq_some]
  exact ⟨Nat.toDigits_ne_nil, hdig, by rw [hval, Nat.ofDigitChars_ten_toDigits]⟩

theorem toList_toString_int (v : Int) :
    (toString v).toList =
      if 0 ≤ v then Nat.toDigits 10 v.toNat else '-' :: Nat.toDigits 10 (-v).toNat := by
  rw [Int.toString_eq_repr, Int.repr_eq_if]
  split <;> simp [Nat.toList_repr]

/-- The text of an integer reads back as that integer. -/
theorem numeral?_toString (v : Int) : numeral? (toString v) = some v := by
  unfold numeral?
  rw [toList_toString_int]
  by_cases hv : 0 ≤ v
  · rw [if_pos hv]
    obtain ⟨d, ds, hds⟩ :=
      List.exists_cons_of_ne_nil (Nat.toDigits_ne_nil (n := v.toNat) (b := 10))
    have hd : d.isDigit = true :=
      Nat.isDigit_of_mem_toDigits (b := 10) (n := v.toNat) (by decide) (by decide) (by simp [hds])
    -- the first digit is no minus sign, so the number reads unsigned
    rw [hds]
    split
    · next h =>
      simp only [List.cons.injEq] at h
      rw [h.1] at hd
      exact absurd hd (by decide)
    · rw [← hds, digitString?_toDigits]
      simp only [Option.map_some, Option.some.injEq]
      omega
  · rw [if_neg hv]
    simp only [digitString?_toDigits, Option.map_some, Option.some.injEq]
    omega

@[simp] theorem numeral?_repr (v : Int) : numeral? v.repr = some v :=
  numeral?_toString v

theorem toString_int_ne_nil (v : Int) : (toString v).toList ≠ [] := by
  rw [toList_toString_int]
  split
  · exact Nat.toDigits_ne_nil
  · exact List.cons_ne_nil _ _

theorem listingChar_toString (v : Int) : ∀ c ∈ (toString v).toList, ListingChar c := by
  intro c hc
  rw [toList_toString_int] at hc
  split at hc
  · exact listingChar_of_isDigit (Nat.isDigit_of_mem_toDigits (by decide) (by decide) hc)
  · rcases List.mem_cons.mp hc with rfl | hc
    · exact Or.inl rfl
    · exact listingChar_of_isDigit (Nat.isDigit_of_mem_toDigits (by decide) (by decide) hc)

/-- An integer of at most three digits is written with at most four characters. -/
theorem length_toString_le {v : Int} (hv : -999 ≤ v ∧ v ≤ 999) : (toString v).toList.length ≤ 4 := by
  have hdigits : ∀ n : Nat, n < 1000 → (Nat.toDigits 10 n).length ≤ 3 := fun n hn =>
    (Nat.length_toDigits_le_iff (by decide) (by decide)).mpr hn
  rw [toList_toString_int]
  split
  · have := hdigits v.toNat (by omega)
    omega
  · have := hdigits (-v).toNat (by omega)
    simp only [List.length_cons]
    omega

/-! ## Decoding inverted -/

namespace Op

theorem map_index_all : all.map index = List.range 24 := rfl

/-- The operation with a number is the one whose number it is. -/
theorem index_of_ofIndex? {n : Int} {op : Op} (h : ofIndex? n = some op) :
    (op.index : Int) = n := by
  unfold ofIndex? at h
  split at h
  · simp at h
  · next hn =>
    have hmap : (all.map index)[n.toNat]? = some op.index := by
      rw [List.getElem?_map, h, Option.map_some]
    have hlt : n.toNat < 24 := (List.getElem?_eq_some_iff.mp h).1
    rw [map_index_all, List.getElem?_range hlt, Option.some.injEq] at hmap
    omega

/-- The base words by number: a hundred times the number for the addressed operations, and
`907` or `912` past the number for the stack operations and the arithmetic on the stack. -/
theorem base_of_index (op : Op) :
    (1 ≤ op.index ∧ op.index ≤ 8 → op.hasOperand = true ∧ op.base = 100 * (op.index : Int)) ∧
    (13 ≤ op.index ∧ op.index ≤ 17 → op.hasOperand = false ∧ op.base = 907 + (op.index : Int)) ∧
    (18 ≤ op.index ∧ op.index ≤ 23 → op.hasOperand = false ∧ op.base = 912 + (op.index : Int)) := by
  cases op <;> decide

end Op

namespace Word

/-- A word that decodes to an operation and operand is the encoding of them, with an operand
in `[0, 99]` when the operation takes one. -/
theorem encode_of_decode? {w : Int} {op : Op} {arg : Int} (h : decode? w = some (op, arg)) :
    encode op arg = w ∧ (op.hasOperand = true → 0 ≤ arg ∧ arg ≤ 99) := by
  -- the single words of `HLT`, `INP`, `OUT`, `JAL` and `RET`
  have single : ∀ o : Op, o.hasOperand = false → w = o.base → some (o, (0 : Int)) = some (op, arg) →
      encode op arg = w ∧ (op.hasOperand = true → 0 ≤ arg ∧ arg ≤ 99) := by
    intro o ho hw heq
    simp only [Option.some.injEq, Prod.mk.injEq] at heq
    obtain ⟨rfl, rfl⟩ := heq
    simp [encode, ho, hw]
  -- a range of words numbered in order, whose operations are found by number
  have ranged : ∀ n a : Int, (Op.ofIndex? n).map (fun o => (o, a)) = some (op, arg) →
      ((op.index : Int) = n → encode op a = w ∧ (op.hasOperand = true → 0 ≤ a ∧ a ≤ 99)) →
      encode op arg = w ∧ (op.hasOperand = true → 0 ≤ arg ∧ arg ≤ 99) := by
    intro n a hmap hk
    obtain ⟨o, ho, hpair⟩ := Option.map_eq_some_iff.mp hmap
    simp only [Prod.mk.injEq] at hpair
    obtain ⟨rfl, rfl⟩ := hpair
    exact hk (Op.index_of_ofIndex? ho)
  unfold decode? at h
  repeat' split at h
  next h0 => exact single .halt rfl (by simpa [Op.base] using h0) h
  next h1 =>
    simp only [Bool.and_eq_true, decide_eq_true_eq] at h1
    refine ranged _ _ h fun hidx => ?_
    obtain ⟨hop, hbase⟩ := (Op.base_of_index op).1 (by omega)
    simp only [encode, hop, if_true, hbase, hidx]
    omega
  next h2 => exact single .input rfl (by simpa [Op.base] using h2) h
  next h3 => exact single .output rfl (by simpa [Op.base] using h3) h
  next h4 => exact single .call rfl (by simpa [Op.base] using h4) h
  next h5 => exact single .ret rfl (by simpa [Op.base] using h5) h
  next h6 =>
    simp only [Bool.and_eq_true, decide_eq_true_eq] at h6
    refine ranged _ _ h fun hidx => ?_
    obtain ⟨hop, hbase⟩ := (Op.base_of_index op).2.1 (by omega)
    simp only [encode, hop, Bool.false_eq_true, if_false, hbase, hidx, false_imp_iff, and_true]
    omega
  next h7 =>
    simp only [Bool.and_eq_true, decide_eq_true_eq] at h7
    refine ranged _ _ h fun hidx => ?_
    obtain ⟨hop, hbase⟩ := (Op.base_of_index op).2.2 (by omega)
    simp only [encode, hop, Bool.false_eq_true, if_false, hbase, hidx, false_imp_iff, and_true]
    omega
  next => simp at h

end Word

/-! ## The words of a listing line

A line splits into its words at blanks. A listing line is one word, or two with a space
between them. -/

namespace Text

theorem isChain_of_nonblank {cs : List Char} (h : ∀ c ∈ cs, isBlank c = false) :
    cs.IsChain fun a b => (isBlank a == isBlank b) = true :=
  (List.pairwise_of_forall_mem_list fun a ha b hb => by simp [h a ha, h b hb]).isChain

/-- Characters none of which is blank make one word. -/
theorem wordsOf_of_nonblank {cs : List Char} (hne : cs ≠ [])
    (h : ∀ c ∈ cs, isBlank c = false) : wordsOf cs = [cs] := by
  obtain ⟨c, cs', rfl⟩ := List.exists_cons_of_ne_nil hne
  rw [wordsOf, List.splitBy_of_isChain hne (isChain_of_nonblank h)]
  simp [h c (by simp)]

/-- Two runs of non-blank characters with a blank between them make two words. -/
theorem wordsOf_blank_between {xs ys : List Char} (hx : xs ≠ []) (hy : ys ≠ [])
    (hxb : ∀ c ∈ xs, isBlank c = false) (hyb : ∀ c ∈ ys, isBlank c = false) {b : Char}
    (hb : isBlank b = true) : wordsOf (xs ++ b :: ys) = [xs, ys] := by
  rw [wordsOf, List.splitBy_append, show b :: ys = [b] ++ ys from rfl, List.splitBy_append,
    List.splitBy_of_isChain hx (isChain_of_nonblank hxb),
    List.splitBy_of_isChain hy (isChain_of_nonblank hyb),
    List.splitBy_of_isChain (List.cons_ne_nil b []) (by simp)]
  · obtain ⟨x, xs', rfl⟩ := List.exists_cons_of_ne_nil hx
    obtain ⟨y, ys', rfl⟩ := List.exists_cons_of_ne_nil hy
    simp [hxb x (by simp), hyb y (by simp), hb]
  · -- the blank is unlike the first character after it
    intro x hx y hy
    simp only [List.getLast?_singleton, Option.mem_def, Option.some.injEq] at hx
    subst hx
    simp [hb, hyb _ (List.mem_of_mem_head? hy)]
  · -- and unlike the last character before it
    intro x hx y hy
    simp only [List.head?_cons, Option.mem_def, Option.some.injEq] at hy
    subst hy
    simp [hb, hxb _ (List.mem_of_getLast? hx)]

end Text

/-- A word of listing characters is one word. -/
theorem words_listing {s : String} (hne : s.toList ≠ []) (h : ∀ c ∈ s.toList, ListingChar c) :
    Text.words s = [s] := by
  rw [Text.words, Text.wordsOf_of_nonblank hne fun c hc => (h c hc).isBlank_eq]
  simp

/-- Two words of listing characters with a space between them are two words. -/
theorem words_listing_two {s t : String} (hs : s.toList ≠ []) (ht : t.toList ≠ [])
    (hsc : ∀ c ∈ s.toList, ListingChar c) (htc : ∀ c ∈ t.toList, ListingChar c) :
    Text.words (s ++ " " ++ t) = [s, t] := by
  have hlist : (s ++ " " ++ t).toList = s.toList ++ ' ' :: t.toList := by simp
  rw [Text.words, hlist, Text.wordsOf_blank_between hs ht (fun c hc => (hsc c hc).isBlank_eq)
    (fun c hc => (htc c hc).isBlank_eq) (by decide)]
  simp

/-! ## The statement of a listing line -/

/-- The statement the listing line of word `w` reads as, at line `lineNo`: `DAT` with the word
itself for a data word, else the mnemonic of its operation with its operand, when it takes
one. -/
def Word.group (w : Int) (lineNo : Nat) : WordGroup :=
  match Word.decode? w with
  | none =>
    { label := none, word := ⟨"DAT", lineNo⟩, mnemonic := .data,
      arg := some ⟨toString w, lineNo⟩ }
  | some (op, arg) =>
    { label := none, word := ⟨op.name, lineNo⟩, mnemonic := .op op,
      arg := if op.hasOperand then some ⟨toString arg, lineNo⟩ else none }

theorem Mnemonic.ofString?_name (o : Op) : Mnemonic.ofString? o.name = some (.op o) := by
  cases o <;> rfl

/-- The listing line of a word splits into the words of its statement. -/
theorem words_render (w : Int) (n : Nat) :
    (Text.words (Word.render w)).map (fun t => (⟨t, n⟩ : SourceWord)) = (Word.group w n).words := by
  unfold Word.render Word.group
  cases hd : Word.decode? w with
  | none =>
    have hdat : ∀ c ∈ "DAT".toList, ListingChar c := by simp [ListingChar]
    rw [show "DAT " ++ toString w = "DAT" ++ " " ++ toString w by simp,
      words_listing_two (by simp) (toString_int_ne_nil w) hdat (listingChar_toString w)]
    rfl
  | some r =>
    obtain ⟨op, arg⟩ := r
    cases hop : op.hasOperand
    · simp only [hop, Bool.false_eq_true, if_false]
      rw [words_listing op.name_ne_nil op.listingChar_name]
      rfl
    · simp only [hop, if_true]
      rw [words_listing_two op.name_ne_nil (toString_int_ne_nil arg) op.listingChar_name
        (listingChar_toString arg)]
      rfl

/-- The statement of a word in `[-999, 999]` is well formed. -/
theorem wellFormed_group {w : Int} (hw : -999 ≤ w ∧ w ≤ 999) (n : Nat) :
    (Word.group w n).WellFormed := by
  unfold Word.group
  cases hd : Word.decode? w with
  | none =>
    refine ⟨⟨by simp, rfl, rfl⟩, ?_⟩
    intro a ha v hv
    simp only [Option.mem_def, Option.some.injEq] at ha
    subst ha
    rw [numeral?_toString, Option.some.injEq] at hv
    exact hv ▸ hw
  | some r =>
    obtain ⟨op, arg⟩ := r
    have harg := (Word.encode_of_decode? hd).2
    dsimp only
    refine ⟨⟨by simp, Mnemonic.ofString?_name op,
      by cases hop : op.hasOperand <;> simp [hop, Mnemonic.argRequired]⟩, ?_⟩
    intro a ha v hv
    -- only an operation with an operand has an argument, and its operand is in `[0, 99]`
    cases hop : op.hasOperand
    · simp [hop] at ha
    · simp only [hop, if_true, Option.mem_def, Option.some.injEq] at ha
      subst ha
      rw [numeral?_toString, Option.some.injEq] at hv
      have := harg hop
      omega

/-- The statement of a word refers to no label, and its mnemonic expands its value back to the
word. -/
theorem expand_group (w : Int) (n : Nat) :
    (Word.group w n).link = none ∧
      (Word.group w n).mnemonic.expand (Word.group w n).value = .ok [w] := by
  unfold Word.group
  cases hd : Word.decode? w with
  | none => exact ⟨by simp [WordGroup.link], by simp [WordGroup.value, Mnemonic.expand]⟩
  | some r =>
    obtain ⟨op, arg⟩ := r
    obtain ⟨henc, harg⟩ := Word.encode_of_decode? hd
    cases hop : op.hasOperand
    · -- one fixed word, whatever the value
      refine ⟨by simp [WordGroup.link, hop], ?_⟩
      simp only [Word.encode, hop, Bool.false_eq_true, if_false] at henc
      simp [Mnemonic.expand, Op.encode, hop, henc, bind, Except.bind, pure, Except.pure]
    · -- the operand, in `[0, 99]`, is added to the base word
      refine ⟨by simp [WordGroup.link, hop], ?_⟩
      simp only [Word.encode, hop, if_true] at henc
      have hr := harg hop
      have hin : ¬(arg < 0 ∨ 99 < arg) := by omega
      simp [WordGroup.value, Mnemonic.expand, Op.encode, hop, hin, henc, bind, Except.bind, pure,
        Except.pure]

/-! ## Scanning a listing

A listing line holds no `;`, so no comment, and no `$`, so no expression: the scan reads its
words as they stand. It holds no line break and does not end in a carriage return, so the lines
of a listing are the lines it was joined from. -/

/-- A line of a listing: not empty, short, and written with listing characters and spaces. -/
structure ListingLine (r : String) : Prop where
  ne_nil : r.toList ≠ []
  chars : ∀ c ∈ r.toList, ListingChar c ∨ c = ' '
  short : r.toList.length ≤ 16

namespace ListingLine

variable {r : String} (h : ListingLine r)
include h

theorem not_mem {x : Char} (hx : x ≠ ' ') (hlist : ∀ {c}, ListingChar c → c ≠ x) :
    x ∉ r.toList := fun hmem => by
  rcases h.chars x hmem with hc | rfl
  · exact hlist hc rfl
  · exact hx rfl

theorem no_newline : '\n' ∉ r.toList :=
  h.not_mem (by decide) ListingChar.ne_newline

theorem no_semicolon : ';' ∉ r.toList :=
  h.not_mem (by decide) ListingChar.ne_semicolon

theorem no_dollar : '$' ∉ r.toList :=
  h.not_mem (by decide) ListingChar.ne_dollar

theorem getLast?_ne_return : r.toList.getLast? ≠ some '\r' := fun hlast =>
  h.not_mem (by decide) ListingChar.ne_return (List.mem_of_getLast? hlast)

theorem utf8ByteSize_lt : r.utf8ByteSize < readerWindow := by
  have hbytes : ∀ l : List Char, (String.ofList l).utf8ByteSize ≤ 4 * l.length := by
    intro l
    induction l with
    | nil => simp
    | cons c l ih =>
      rw [String.ofList_cons, String.utf8ByteSize_append, String.utf8ByteSize_singleton]
      have := Char.utf8Size_le_four c
      simp only [List.length_cons]
      omega
  have := hbytes r.toList
  rw [String.ofList_toList] at this
  have := h.short
  simp only [readerWindow]
  omega

end ListingLine

/-- The listing line of a word in `[-999, 999]`. -/
theorem listingLine_render {w : Int} (hw : -999 ≤ w ∧ w ≤ 999) : ListingLine (Word.render w) := by
  -- a word, or two with a space between them, of listing characters
  have one : ∀ s : String, s.toList ≠ [] → (∀ c ∈ s.toList, ListingChar c) →
      s.toList.length ≤ 16 → ListingLine s := fun s hne hc hlen =>
    ⟨hne, fun c hmem => Or.inl (hc c hmem), hlen⟩
  have two : ∀ s t : String, s.toList ≠ [] → (∀ c ∈ s.toList, ListingChar c) →
      (∀ c ∈ t.toList, ListingChar c) → s.toList.length + t.toList.length ≤ 15 →
      ListingLine (s ++ " " ++ t) := fun s t hne hs ht hlen => by
    refine ⟨by simp [hne], fun c hmem => ?_, by simp; omega⟩
    simp only [String.toList_append, List.mem_append] at hmem
    rcases hmem with (hmem | hmem) | hmem
    · exact Or.inl (hs c hmem)
    · exact Or.inr (by simpa using hmem)
    · exact Or.inl (ht c hmem)
  have hname : ∀ o : Op, o.name.toList.length ≤ 5 := by
    intro o
    cases o <;> simp [Op.name]
  unfold Word.render
  cases hd : Word.decode? w with
  | none =>
    rw [show "DAT " ++ toString w = "DAT" ++ " " ++ toString w by simp]
    have hlen := length_toString_le hw
    have hdat : "DAT".toList.length = 3 := by simp
    exact two _ _ (by simp) (by simp [ListingChar]) (listingChar_toString w) (by omega)
  | some r =>
    obtain ⟨op, arg⟩ := r
    have harg := (Word.encode_of_decode? hd).2
    dsimp only
    cases hop : op.hasOperand
    · simp only [Bool.false_eq_true, if_false]
      exact one _ op.name_ne_nil op.listingChar_name (by have := hname op; omega)
    · simp only [if_true]
      have := length_toString_le (v := arg) (by have := harg hop; omega)
      have := hname op
      exact two _ _ op.name_ne_nil op.listingChar_name (listingChar_toString arg) (by omega)

/-- A line without `;` has no comment to cut. -/
theorem withoutComment_of_not_mem {r : String} (h : ';' ∉ r.toList) : withoutComment r = r := by
  unfold withoutComment
  rw [List.takeWhile_eq_self_iff.mpr fun c hc => by
    simpa using fun heq : c = ';' => h (heq ▸ hc), String.ofList_toList]

/-- Characters without `$` are read as plain text, with what was read before them. -/
theorem segmentsOf_go_plain (cs acc : List Char) (fuel : Nat) (h : '$' ∉ cs)
    (hfuel : cs.length < fuel) :
    segmentsOf.go fuel cs acc =
      if acc.reverse ++ cs = [] then [] else [.plain (String.ofList (acc.reverse ++ cs))] := by
  induction cs generalizing acc fuel with
  | nil =>
    cases fuel with
    | zero => simp at hfuel
    | succ fuel => simp [segmentsOf.go, List.isEmpty_iff]
  | cons c cs ih =>
    cases fuel with
    | zero => simp at hfuel
    | succ fuel =>
      have hc : c ≠ '$' := fun heq => h (heq ▸ List.mem_cons_self)
      have hstep : segmentsOf.go (fuel + 1) (c :: cs) acc = segmentsOf.go fuel cs (c :: acc) := by
        simp [segmentsOf.go, hc]
      rw [hstep, ih (c :: acc) fuel (fun hm => h (List.mem_cons_of_mem c hm))
        (by simp at hfuel; omega)]
      simp

/-- A line without `$` has no expression: its text is what it is, with nothing printed and
nothing failing. -/
theorem substituteLine_plain {ev : Evaluator} (equates : List (String × String)) {r : String}
    (h : '$' ∉ r.toList) : substituteLine ev equates (segmentsOf r.toList) = (r, none, #[]) := by
  unfold segmentsOf
  rw [segmentsOf_go_plain _ _ _ h (Nat.lt_succ_self _)]
  by_cases hr : r.toList = []
  · simp only [List.reverse_nil, List.nil_append, hr, if_true]
    simp [substituteLine, String.toList_eq_nil_iff.mp hr]
  · simp [hr, substituteLine]

/-- Listing lines are read one by one, each whole. -/
theorem sourceLines_take_listing {ls : List String} (h : ∀ l ∈ ls, ListingLine l) :
    sourceLines.take (ls.map String.toList) = (ls, false) := by
  induction ls with
  | nil => rfl
  | cons l ls ih =>
    have hl := h l List.mem_cons_self
    have hshort : ¬l.utf8ByteSize ≥ readerWindow := Nat.not_le.mpr hl.utf8ByteSize_lt
    have hlast : (l.toList.getLast? == some '\r') = false := by
      simpa using hl.getLast?_ne_return
    simp only [List.map_cons, sourceLines.take, String.ofList_toList, hshort, if_false, hlast,
      Bool.false_eq_true, ih fun l' hl' => h l' (List.mem_cons_of_mem l hl')]

/-- Listing lines joined by line breaks read back as those lines, and reading them never stops
at a long line. -/
theorem sourceLines_intercalate {ls : List String} (h : ∀ l ∈ ls, ListingLine l) :
    sourceLines (String.intercalate "\n" ls) = (ls, false) := by
  rcases List.eq_nil_or_concat ls with rfl | ⟨init, last, hls⟩
  · -- an empty text is one empty piece, which is no line
    rfl
  · rw [List.concat_eq_append] at hls
    subst hls
    have hsplit : (String.intercalate "\n" (init ++ [last])).toList.splitOn '\n' =
        (init ++ [last]).map String.toList := by
      rw [String.toList_intercalate]
      refine List.splitOn_intercalate '\n' ?_ (by simp)
      intro cs hcs
      obtain ⟨l, hl, rfl⟩ := List.mem_map.mp hcs
      exact (h l hl).no_newline
    have hlast : ((init ++ [last]).map String.toList).getLast? = some last.toList := by simp
    have hne : (some last.toList == some ([] : List Char)) = false := by
      simpa using (h last (by simp)).ne_nil
    unfold sourceLines
    simp only [hsplit, hlast, hne, Bool.false_eq_true, if_false]
    exact sourceLines_take_listing h

/-- Scanning listing lines reads them as they stand: line `n` of the run gives its words at
line number `n`. -/
theorem scanSource_go_listing (ev : Evaluator) (settings : Settings)
    (equates : List (String × String))
    {ls : List String} (h : ∀ l ∈ ls, ListingLine l) (n : Nat) (read : Array String)
    (trace : Array TraceLine) (words : Array SourceWord) :
    ∃ trace', scanSource.go ev settings equates false ls n read trace words =
      (read ++ ls.toArray, trace', .ok (words ++ ((ls.zipIdx (n + 1)).flatMap fun (l, k) =>
        (Text.words l).map fun w => (⟨w, k⟩ : SourceWord)).toArray)) := by
  induction ls generalizing n read trace words with
  | nil => exact ⟨trace, by simp [scanSource.go]⟩
  | cons l ls ih =>
    have hl := h l List.mem_cons_self
    rw [scanSource.go]
    simp only [withoutComment_of_not_mem hl.no_semicolon, substituteLine_plain _ hl.no_dollar]
    obtain ⟨trace', htr⟩ := ih (fun l' hl' => h l' (List.mem_cons_of_mem l hl')) (n + 1)
      (read.push l) _ _
    refine ⟨trace', ?_⟩
    rw [htr]
    simp [List.zipIdx_cons]

/-- The scan of a listing: its lines, and the words of line `n` at line number `n`. -/
theorem scanSource_intercalate (ev : Evaluator) (settings : Settings)
    (equates : List (String × String))
    {ls : List String} (h : ∀ l ∈ ls, ListingLine l) :
    ∃ trace, scanSource ev settings equates (String.intercalate "\n" ls) =
      (ls.toArray, trace, .ok ((ls.zipIdx 1).flatMap fun (l, k) =>
        (Text.words l).map fun w => (⟨w, k⟩ : SourceWord)).toArray) := by
  obtain ⟨trace, htr⟩ := scanSource_go_listing ev settings equates h 0 #[] #[] #[]
  refine ⟨trace, ?_⟩
  unfold scanSource
  simp only [sourceLines_intercalate h]
  rw [htr]
  simp

end DecimalMachine
