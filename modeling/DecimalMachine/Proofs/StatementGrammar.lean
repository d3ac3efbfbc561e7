import DecimalMachine.Assembly.Assembler

/-!
# The grammar of statements

The parse pass reads the words of a source as statements `[LABEL] MNEMONIC [ARG]`. This module
states that grammar on its own terms, apart from the parser.

* A `WordGroup` is one statement as it stands among the words: an optional label, the word of
  its mnemonic, and an optional argument. It is `Shaped` when a label is no mnemonic, the
  mnemonic's word spells a mnemonic and the argument is there exactly when that mnemonic needs
  one, and `WellFormed` when besides a numeric argument lies in `[-999, 999]`.
* A run of statements is admitted (`Admits`) when each is well formed, the running slot total
  stays within memory, and under strict assembly no label is defined twice. `layout` places
  the statements of a run one after the other from an address.
* `numeral?` is the value of a number word (an optional `-` and decimal digits); the literal
  reader agrees with it (`literalValue_of_numeral`).

The crux is that words split into shaped statements one way only (`WordGroup.eq_of_words_append`,
`split_unique`), so a word list has one longest admitted run (`maximal_run_unique`), and that
line numbers play no part in the grammar (`admits_map_unplaced`, `extends_map_unplaced`).
-/

namespace DecimalMachine

/-! ## Number words

A number word is an optional `-` and at least one decimal digit. Its value is read here digit by
digit; the assembler reads it with the general decimal reader, which also takes a `+` and bounds
the value by the machine word. The two agree on number words. -/

/-- The value of a string of decimal digits, most significant first. -/
def decimalValue (ds : List Char) : Nat :=
  ds.foldl (fun n c => n * 10 + (c.toNat - '0'.toNat)) 0

/-- The value of a non-empty string of decimal digits. -/
def digitString? (ds : List Char) : Option Nat :=
  if ds ≠ [] ∧ ds.all Char.isDigit then some (decimalValue ds) else none

/-- The value a number word spells: an optional `-` and at least one decimal digit. -/
def numeral? (s : String) : Option Int :=
  match s.toList with
  | '-' :: ds => (digitString? ds).map fun (n : Nat) => -(n : Int)
  | ds => (digitString? ds).map fun (n : Nat) => (n : Int)

theorem toNat_of_isDigit {c : Char} (h : c.isDigit = true) : 48 ≤ c.toNat ∧ c.toNat ≤ 57 := by
  simp only [Char.isDigit, Bool.and_eq_true, decide_eq_true_eq, UInt32.le_iff_toNat_le] at h
  exact ⟨h.1, h.2⟩

theorem digitValue_of_isDigit {c : Char} (h : c.isDigit = true) :
    Text.digitValue 10 c = some (c.toNat - '0'.toNat) := by
  have hc := toNat_of_isDigit h
  have hlo : '0' ≤ c := by rw [Char.le_def, UInt32.le_iff_toNat_le]; exact hc.1
  have hhi : c ≤ '9' := by rw [Char.le_def, UInt32.le_iff_toNat_le]; exact hc.2
  simp [Text.digitValue, hlo, hhi]
  omega

theorem digitsValue_go {cs : List Char} (h : cs.all Char.isDigit = true) (v : Nat) :
    Text.digitsValue.go 10 (some v) cs =
      some (cs.foldl (fun n c => n * 10 + (c.toNat - '0'.toNat)) v) := by
  induction cs generalizing v with
  | nil => rfl
  | cons c cs ih =>
    simp only [List.all_cons, Bool.and_eq_true] at h
    simp only [Text.digitsValue.go, digitValue_of_isDigit h.1, Option.pure_def,
      List.foldl_cons]
    exact ih h.2 _

theorem digitString?_eq_some {ds : List Char} {n : Nat} :
    digitString? ds = some n ↔ ds ≠ [] ∧ ds.all Char.isDigit = true ∧ decimalValue ds = n := by
  unfold digitString?
  by_cases hd : ds ≠ [] ∧ ds.all Char.isDigit = true
  · simp [hd]
  · simp only [hd, if_false, reduceCtorEq, false_iff]
    exact fun h => hd ⟨h.1, h.2.1⟩

theorem digitsValue_eq {ds : List Char} {n : Nat} (h : digitString? ds = some n) :
    Text.digitsValue 10 ds = some n := by
  obtain ⟨hne, hall, rfl⟩ := digitString?_eq_some.mp h
  obtain ⟨c, cs, rfl⟩ := List.exists_cons_of_ne_nil hne
  simp only [List.all_cons, Bool.and_eq_true] at hall
  simp [Text.digitsValue, digitValue_of_isDigit hall.1, digitsValue_go hall.2, decimalValue]

theorem splitSign_of_isDigit {c : Char} (cs : List Char) (h : c.isDigit = true) :
    Text.splitSign (c :: cs) = (false, c :: cs) := by
  have hc := toNat_of_isDigit h
  have hminus : c ≠ '-' := by rintro rfl; simp at hc
  have hplus : c ≠ '+' := by rintro rfl; simp at hc
  unfold Text.splitSign
  split <;> simp_all

theorem fitsWord_of_literal {v : Int} (h : -999 ≤ v ∧ v ≤ 999) : Text.fitsWord v = true := by
  simp only [Text.fitsWord, Bool.and_eq_true, decide_eq_true_eq]
  unfold Text.wordMin Text.wordMax
  constructor <;> omega

/-- The general decimal reader reads a number word as its numeral, when that fits a word. -/
theorem readDecimal?_of_numeral {s : String} {v : Int} (h : numeral? s = some v) :
    Text.readDecimal? s = if Text.fitsWord v then some v else none := by
  unfold numeral? at h
  unfold Text.readDecimal?
  split at h
  · next ds hs =>
    obtain ⟨n, hn, rfl⟩ := Option.map_eq_some_iff.mp h
    simp only [hs, Text.splitSign, digitsValue_eq hn, if_true]
  · -- no sign: the first character is a digit, which `splitSign` leaves in place
    obtain ⟨n, hn, rfl⟩ := Option.map_eq_some_iff.mp h
    obtain ⟨hne, hall, -⟩ := digitString?_eq_some.mp hn
    obtain ⟨c, cs, hcs⟩ := List.exists_cons_of_ne_nil hne
    have hc : c.isDigit = true := by
      simp only [hcs, List.all_cons, Bool.and_eq_true] at hall
      exact hall.1
    rw [hcs] at hn
    simp only [hcs, splitSign_of_isDigit cs hc, digitsValue_eq hn, Bool.false_eq_true, if_false]

/-- Reading a literal: a number word's value, when it lies in [-999, 999]. -/
theorem literalValue_of_numeral {s : String} {v : Int} (h : numeral? s = some v) :
    literalValue s = if -999 ≤ v ∧ v ≤ 999 then .ok v else .error (.numberRange s) := by
  unfold literalValue
  rw [readDecimal?_of_numeral h]
  cases hfit : Text.fitsWord v with
  | true =>
    simp only [if_true]
    rfl
  | false =>
    -- a value too large for a word is far outside [-999, 999]
    have hout : ¬(-999 ≤ v ∧ v ≤ 999) := fun h => absurd (fitsWord_of_literal h) (by simp [hfit])
    simp only [Bool.false_eq_true, if_false, hout]

theorem digitString?_isSome (ds : List Char) :
    (digitString? ds).isSome = (!ds.isEmpty && ds.all Char.isDigit) := by
  unfold digitString?
  by_cases hd : ds ≠ [] ∧ ds.all Char.isDigit = true
  · simp [hd.1, hd.2]
  · rw [if_neg hd]
    cases ds with
    | nil => rfl
    | cons c cs => simpa using hd

/-- A word is a number word exactly when it spells a numeral. -/
theorem isNumberWord_eq_isSome (s : String) : isNumberWord s = (numeral? s).isSome := by
  unfold isNumberWord numeral?
  generalize s.toList = cs
  split <;> simp only [Option.isSome_map, digitString?_isSome]

example : numeral? "-042" = some (-42) := by decide

-- a `+` makes no number word, though the decimal reader would take it
example : numeral? "+5" = none := by decide

/-! ## Statements among the words -/

/-- A statement as it stands among the words: an optional label, the word of its mnemonic with
the mnemonic it spells, and an optional argument. -/
structure WordGroup where
  label : Option SourceWord
  word : SourceWord
  mnemonic : Mnemonic
  arg : Option SourceWord

namespace WordGroup

/-- The words of a statement, in source order. -/
def words (g : WordGroup) : List SourceWord :=
  g.label.toList ++ g.word :: g.arg.toList

/-- The label a statement defines. -/
def labelText (g : WordGroup) : Option String :=
  g.label.map (·.text)

/-- The literal value of a statement: its argument when that is a number, else 0. -/
def value (g : WordGroup) : Int :=
  (g.arg.bind fun a => numeral? a.text).getD 0

/-- The label a statement's argument names, when the argument is no number. -/
def link (g : WordGroup) : Option String :=
  g.arg.bind fun a => if (numeral? a.text).isSome then none else some a.text

/-- The statement a group reads as, placed at address `ip`. -/
def toStatement (g : WordGroup) (ip : Nat) : Statement :=
  { lineNo := g.word.lineNo, ip, mnemonic := g.mnemonic, label := g.labelText, link := g.link,
    value := g.value }

/-- The words stand in their places: a label is no mnemonic, the mnemonic's word spells it, and
the argument is there exactly when the mnemonic needs one. -/
structure Shaped (g : WordGroup) : Prop where
  label_free : ∀ l ∈ g.label, Mnemonic.ofString? l.text = none
  spells : Mnemonic.ofString? g.word.text = some g.mnemonic
  arg_iff : g.arg.isSome = g.mnemonic.argRequired

/-- A statement the grammar admits on its own: shaped, with a numeric argument in
`[-999, 999]`. -/
structure WellFormed (g : WordGroup) : Prop extends g.Shaped where
  literal_range : ∀ a ∈ g.arg, ∀ v, numeral? a.text = some v → -999 ≤ v ∧ v ≤ 999

theorem words_ne_nil (g : WordGroup) : g.words ≠ [] := by
  simp [words]

end WordGroup

/-! ## Runs of statements

A run is admitted statement by statement: `admits_concat` says one more statement extends an
admitted run exactly when it fits after it, which is the check the parser makes. -/

/-- The slots a run of statements fills. -/
def slotsOf : List WordGroup → Nat
  | [] => 0
  | g :: gs => g.mnemonic.slots + slotsOf gs

/-- The labels a run of statements defines, in order. -/
def labelsOf (gs : List WordGroup) : List String :=
  gs.filterMap WordGroup.labelText

/-- The statements of a run, each placed right after the one before, from address `ip`. -/
def layout : Nat → List WordGroup → List Statement
  | _, [] => []
  | ip, g :: gs => g.toStatement ip :: layout (ip + g.mnemonic.slots) gs

/-- A run of statements the grammar admits: each is well formed, the running slot total stays
within memory, and under strict assembly no label is defined twice. -/
structure Admits (s : Settings) (gs : List WordGroup) : Prop where
  wellFormed : ∀ g ∈ gs, g.WellFormed
  within : ∀ pre, pre <+: gs → pre ≠ [] → (slotsOf pre : Int) ≤ s.size
  distinct : s.strict = true → (labelsOf gs).Nodup

/-- The words `rest` begin with a statement that may follow the run `gs`. -/
def Extends (s : Settings) (gs : List WordGroup) (rest : List SourceWord) : Prop :=
  ∃ g more, rest = g.words ++ more ∧ Admits s (gs ++ [g])

@[simp] theorem slotsOf_append (gs hs : List WordGroup) :
    slotsOf (gs ++ hs) = slotsOf gs + slotsOf hs := by
  induction gs with
  | nil => simp [slotsOf]
  | cons g gs ih => simp [slotsOf, ih]; omega

@[simp] theorem slotsOf_singleton (g : WordGroup) : slotsOf [g] = g.mnemonic.slots := by
  simp [slotsOf]

@[simp] theorem labelsOf_append (gs hs : List WordGroup) :
    labelsOf (gs ++ hs) = labelsOf gs ++ labelsOf hs := by
  simp [labelsOf]

@[simp] theorem labelsOf_singleton (g : WordGroup) : labelsOf [g] = g.labelText.toList := by
  cases h : g.labelText <;> simp [labelsOf, h]

theorem layout_append (ip : Nat) (gs hs : List WordGroup) :
    layout ip (gs ++ hs) = layout ip gs ++ layout (ip + slotsOf gs) hs := by
  induction gs generalizing ip with
  | nil => simp [layout, slotsOf]
  | cons g gs ih => simp [layout, slotsOf, ih, Nat.add_assoc]

theorem layout_concat (gs : List WordGroup) (g : WordGroup) :
    layout 0 (gs ++ [g]) = layout 0 gs ++ [g.toStatement (slotsOf gs)] := by
  simp [layout_append, layout]

theorem labels_layout (ip : Nat) (gs : List WordGroup) :
    (layout ip gs).filterMap (·.label) = labelsOf gs := by
  induction gs generalizing ip with
  | nil => rfl
  | cons g gs ih =>
    cases h : g.labelText <;>
      simp [layout, labelsOf, WordGroup.toStatement, h, ih]

/-- A statement that may follow statements filling `ip` slots and defining the labels `seen`. -/
structure WordGroup.Fits (s : Settings) (ip : Nat) (seen : List String) (g : WordGroup) :
    Prop where
  wellFormed : g.WellFormed
  room : (ip : Int) + g.mnemonic.slots ≤ s.size
  fresh : s.strict = true → ∀ l ∈ g.labelText, l ∉ seen

theorem Admits.of_prefix {s : Settings} {gs hs : List WordGroup} (h : Admits s hs)
    (hp : gs <+: hs) : Admits s gs where
  wellFormed g hg := h.wellFormed g (hp.subset hg)
  within pre hpre hne := h.within pre (hpre.trans hp) hne
  distinct hs' := by
    obtain ⟨t, rfl⟩ := hp
    have := h.distinct hs'
    rw [labelsOf_append] at this
    exact (List.nodup_append.mp this).1

/-- One more statement extends an admitted run exactly when it fits after it. -/
theorem admits_concat {s : Settings} {gs : List WordGroup} {g : WordGroup} :
    Admits s (gs ++ [g]) ↔ Admits s gs ∧ g.Fits s (slotsOf gs) (labelsOf gs) := by
  constructor
  · intro h
    refine ⟨h.of_prefix (List.prefix_append _ _), h.wellFormed g (by simp), ?_, ?_⟩
    · have := h.within (gs ++ [g]) (List.prefix_refl _) (by simp)
      simpa using this
    · intro hs l hl hmem
      have := h.distinct hs
      simp only [labelsOf_append, labelsOf_singleton, List.nodup_append] at this
      exact this.2.2 l hmem l (by simpa using hl) rfl
  · rintro ⟨h, hg⟩
    refine ⟨fun x hx => ?_, fun pre hpre hne => ?_, fun hs => ?_⟩
    · rcases List.mem_append.mp hx with hx | hx
      · exact h.wellFormed x hx
      · rw [List.mem_singleton.mp hx]; exact hg.wellFormed
    · rcases List.prefix_concat_iff.mp hpre with rfl | hpre
      · have := hg.room
        simp only [slotsOf_append, slotsOf_singleton]
        omega
      · exact h.within pre hpre hne
    · rw [labelsOf_append, labelsOf_singleton, List.nodup_append]
      refine ⟨h.distinct hs, by cases g.labelText <;> simp, ?_⟩
      intro a ha b hb hab
      subst hab
      exact hg.fresh hs a (by simpa using hb) ha

theorem Admits.nil {s : Settings} : Admits s [] :=
  ⟨by simp, fun pre hpre hne => absurd (List.prefix_nil.mp hpre) hne, fun _ => List.nodup_nil⟩

theorem Admits.head {s : Settings} {pre t : List WordGroup} {g : WordGroup}
    (h : Admits s (pre ++ g :: t)) : Admits s (pre ++ [g]) :=
  h.of_prefix ⟨t, by simp⟩

/-! ## Reading one statement

The parser reads a statement in two steps, `readHead` (label and mnemonic) and `readArg` (the
argument). On a well-formed statement both succeed with its parts; conversely what they read
is a well-formed statement of the words read. -/

theorem readHead_of_shaped {g : WordGroup} (hg : g.Shaped) {w : SourceWord}
    {r rest : List SourceWord} (h : w :: r = g.words ++ rest) :
    readHead w r = .ok (g.labelText, g.word, g.mnemonic, g.arg.toList ++ rest) := by
  obtain ⟨_ | l, word, mn, arg⟩ := g
  · simp only [WordGroup.words, Option.toList_none, List.nil_append, List.cons_append,
      List.cons.injEq] at h
    obtain ⟨rfl, rfl⟩ := h
    simp [readHead, hg.spells, WordGroup.labelText]
  · simp only [WordGroup.words, Option.toList_some, List.cons_append, List.cons.injEq] at h
    obtain ⟨rfl, rfl⟩ := h
    simp [readHead, hg.label_free w (by simp), hg.spells, WordGroup.labelText]

theorem readArg_of_wellFormed {g : WordGroup} (hg : g.WellFormed) (rest : List SourceWord) :
    readArg g.word g.mnemonic (g.arg.toList ++ rest) = .ok (g.value, g.link, rest) := by
  have hiff := hg.arg_iff
  unfold readArg
  cases ha : g.arg with
  | none =>
    rw [ha] at hiff
    simp [← hiff, WordGroup.value, WordGroup.link, ha]
  | some a =>
    rw [ha] at hiff
    simp only [← hiff, Option.isSome_some, if_true, Option.toList_some, List.singleton_append,
      isNumberWord_eq_isSome]
    cases hn : numeral? a.text with
    | none => simp [WordGroup.value, WordGroup.link, ha, hn]
    | some v =>
      have hv := hg.literal_range a (by simp [ha]) v hn
      simp [literalValue_of_numeral hn, hv, WordGroup.value, WordGroup.link, ha, hn]

theorem readHead_ok {w : SourceWord} {r r1 : List SourceWord} {label : Option String}
    {tok : SourceWord} {mn : Mnemonic} (h : readHead w r = .ok (label, tok, mn, r1)) :
    ∃ lw : Option SourceWord, w :: r = lw.toList ++ tok :: r1 ∧ label = lw.map (·.text) ∧
      (∀ l ∈ lw, Mnemonic.ofString? l.text = none) ∧ Mnemonic.ofString? tok.text = some mn := by
  unfold readHead at h
  split at h
  · next hmn =>
    simp only [Except.ok.injEq, Prod.mk.injEq] at h
    obtain ⟨rfl, rfl, rfl, rfl⟩ := h
    exact ⟨none, rfl, rfl, by simp, hmn⟩
  · next hnone =>
    split at h
    · exact absurd h (by simp)
    · split at h
      · next hmn =>
        simp only [Except.ok.injEq, Prod.mk.injEq] at h
        obtain ⟨rfl, rfl, rfl, rfl⟩ := h
        exact ⟨some w, rfl, rfl, by simpa using hnone, hmn⟩
      · exact absurd h (by simp)

theorem readArg_ok {tok : SourceWord} {mn : Mnemonic} {r1 rest : List SourceWord} {value : Int}
    {link : Option String} (h : readArg tok mn r1 = .ok (value, link, rest)) :
    ∃ oa : Option SourceWord, r1 = oa.toList ++ rest ∧ oa.isSome = mn.argRequired ∧
      (∀ a ∈ oa, ∀ v, numeral? a.text = some v → -999 ≤ v ∧ v ≤ 999) ∧
      value = (oa.bind fun a => numeral? a.text).getD 0 ∧
      link = oa.bind fun a => if (numeral? a.text).isSome then none else some a.text := by
  unfold readArg at h
  split at h
  · next hreq =>
    split at h
    · exact absurd h (by simp)
    · next a more =>
      rw [isNumberWord_eq_isSome] at h
      cases hn : numeral? a.text with
      | none =>
        simp only [hn, Option.isSome_none, Bool.false_eq_true, if_false, Except.ok.injEq,
          Prod.mk.injEq] at h
        obtain ⟨rfl, rfl, rfl⟩ := h
        exact ⟨some a, rfl, by simp [hreq], by simp [hn], by simp [hn], by simp [hn]⟩
      | some v =>
        simp only [hn, Option.isSome_some, if_true, literalValue_of_numeral hn] at h
        by_cases hv : -999 ≤ v ∧ v ≤ 999
        · simp only [hv, and_self, if_true, Except.ok.injEq, Prod.mk.injEq] at h
          obtain ⟨rfl, rfl, rfl⟩ := h
          exact ⟨some a, rfl, by simp [hreq], by simp [hn, hv], by simp [hn], by simp [hn]⟩
        · simp [hv] at h
  · next hreq =>
    simp only [Except.ok.injEq, Prod.mk.injEq] at h
    obtain ⟨rfl, rfl, rfl⟩ := h
    exact ⟨none, rfl, by simpa using hreq, by simp, rfl, rfl⟩

/-- What reading one statement found is a well-formed group of the words read. -/
theorem read_ok {w : SourceWord} {r r1 rest : List SourceWord} {label : Option String}
    {tok : SourceWord} {mn : Mnemonic} {value : Int} {link : Option String}
    (hh : readHead w r = .ok (label, tok, mn, r1))
    (ha : readArg tok mn r1 = .ok (value, link, rest)) :
    ∃ g : WordGroup, g.WellFormed ∧ w :: r = g.words ++ rest ∧ g.labelText = label ∧
      g.mnemonic = mn ∧
      ∀ ip, g.toStatement ip =
        { lineNo := tok.lineNo, ip, mnemonic := mn, label, link, value } := by
  obtain ⟨lw, hw, hlabel, hfree, hspell⟩ := readHead_ok hh
  obtain ⟨oa, hr1, hsome, hrange, hvalue, hlink⟩ := readArg_ok ha
  refine ⟨⟨lw, tok, mn, oa⟩, ⟨⟨hfree, hspell, hsome⟩, hrange⟩, ?_,
    by simp [WordGroup.labelText, hlabel], rfl, fun ip => ?_⟩
  · rw [hw, hr1]
    simp [WordGroup.words]
  · simp [WordGroup.toStatement, WordGroup.labelText, WordGroup.value, WordGroup.link, hlabel,
      hvalue, hlink]

/-- The words of a shaped statement determine it: two shaped statements at the front of the same
words are the same statement. -/
theorem WordGroup.eq_of_words_append {g h : WordGroup} (hg : g.Shaped) (hh : h.Shaped)
    {r r' : List SourceWord} (he : g.words ++ r = h.words ++ r') : g = h ∧ r = r' := by
  obtain ⟨w, x, hwx⟩ := List.exists_cons_of_ne_nil (by simp [g.words_ne_nil] : g.words ++ r ≠ [])
  have hread := readHead_of_shaped hh (hwx.symm.trans he)
  rw [readHead_of_shaped hg hwx.symm] at hread
  simp only [Except.ok.injEq, Prod.mk.injEq] at hread
  obtain ⟨hlab, hword, hmn, hrest⟩ := hread
  -- the argument is there for both or for neither
  have harg : g.arg.isSome = h.arg.isSome := by rw [hg.arg_iff, hh.arg_iff, hmn]
  obtain ⟨gl, gw, gm, ga⟩ := g
  obtain ⟨hl, hw, hm, ha⟩ := h
  simp only at hlab hword hmn hrest harg
  subst hword hmn
  cases gl <;> cases hl <;> cases ga <;> cases ha <;>
    simp_all [WordGroup.words, WordGroup.labelText]

/-! ## Longest runs -/

theorem not_extends_nil (s : Settings) (gs : List WordGroup) : ¬Extends s gs [] := by
  rintro ⟨g, more, h, -⟩
  exact g.words_ne_nil (List.append_eq_nil_iff.mp h.symm).1

/-- A word list has one longest admitted run after a given one: two runs that both admit no
further statement split the same words the same way. -/
theorem maximal_run_unique {s : Settings} (pre : List WordGroup) {hs hs' : List WordGroup}
    {r r' : List SourceWord} (h1 : Admits s (pre ++ hs)) (h2 : Admits s (pre ++ hs'))
    (he : hs.flatMap WordGroup.words ++ r = hs'.flatMap WordGroup.words ++ r')
    (m1 : ¬Extends s (pre ++ hs) r) (m2 : ¬Extends s (pre ++ hs') r') : hs = hs' ∧ r = r' := by
  induction hs generalizing pre hs' with
  | nil =>
    cases hs' with
    | nil => exact ⟨rfl, by simpa using he⟩
    | cons h t =>
      refine absurd ⟨h, t.flatMap WordGroup.words ++ r', ?_, ?_⟩ m1
      · simpa using he
      · simpa using h2.head
  | cons g t ih =>
    cases hs' with
    | nil =>
      refine absurd ⟨g, t.flatMap WordGroup.words ++ r, ?_, ?_⟩ m2
      · simpa using he.symm
      · simpa using h1.head
    | cons h t' =>
      simp only [List.flatMap_cons, List.append_assoc] at he
      obtain ⟨rfl, he'⟩ := WordGroup.eq_of_words_append
        (h1.wellFormed g (by simp)).toShaped (h2.wellFormed h (by simp)).toShaped he
      have := ih (pre ++ [g]) (by simpa using h1) (by simpa using h2) he'
        (by simpa using m1) (by simpa using m2)
      exact ⟨by rw [this.1], this.2⟩

/-- Shaped statements split words one way only. -/
theorem split_unique {gs gs' : List WordGroup} (h1 : ∀ g ∈ gs, g.Shaped)
    (h2 : ∀ g ∈ gs', g.Shaped) (he : gs.flatMap WordGroup.words = gs'.flatMap WordGroup.words) :
    gs = gs' := by
  induction gs generalizing gs' with
  | nil =>
    cases gs' with
    | nil => rfl
    | cons g t => simp [g.words_ne_nil] at he
  | cons g t ih =>
    cases gs' with
    | nil => simp [g.words_ne_nil] at he
    | cons h t' =>
      simp only [List.flatMap_cons] at he
      obtain ⟨rfl, he'⟩ := WordGroup.eq_of_words_append (h1 g (by simp)) (h2 h (by simp)) he
      rw [ih (fun x hx => h1 x (by simp [hx])) (fun x hx => h2 x (by simp [hx])) he']

/-! ## Lines do not matter

Forgetting the line of every word (`SourceWord.unplaced`) changes nothing the grammar looks at. -/

/-- A word with its line forgotten. -/
def SourceWord.unplaced (w : SourceWord) : SourceWord := ⟨w.text, 0⟩

/-- A statement with its line forgotten. -/
def Statement.unplaced (st : Statement) : Statement := { st with lineNo := 0 }

/-- A statement's words with their lines forgotten. -/
def WordGroup.unplaced (g : WordGroup) : WordGroup :=
  ⟨g.label.map SourceWord.unplaced, g.word.unplaced, g.mnemonic, g.arg.map SourceWord.unplaced⟩

@[simp] theorem SourceWord.text_unplaced (w : SourceWord) : w.unplaced.text = w.text := rfl

namespace WordGroup

@[simp] theorem label_unplaced (g : WordGroup) :
    g.unplaced.label = g.label.map SourceWord.unplaced := rfl

@[simp] theorem word_unplaced (g : WordGroup) : g.unplaced.word = g.word.unplaced := rfl

@[simp] theorem mnemonic_unplaced (g : WordGroup) : g.unplaced.mnemonic = g.mnemonic := rfl

@[simp] theorem arg_unplaced (g : WordGroup) :
    g.unplaced.arg = g.arg.map SourceWord.unplaced := rfl

@[simp] theorem words_unplaced (g : WordGroup) :
    g.unplaced.words = g.words.map SourceWord.unplaced := by
  cases hl : g.label <;> cases ha : g.arg <;> simp [words, hl, ha]

@[simp] theorem labelText_unplaced (g : WordGroup) : g.unplaced.labelText = g.labelText := by
  cases hl : g.label <;> simp [labelText, hl]

theorem toStatement_unplaced (g : WordGroup) (ip : Nat) :
    g.unplaced.toStatement ip = (g.toStatement ip).unplaced := by
  cases ha : g.arg <;> simp [toStatement, Statement.unplaced, value, link, ha, SourceWord.unplaced]

theorem wellFormed_unplaced {g : WordGroup} : g.unplaced.WellFormed ↔ g.WellFormed := by
  constructor <;> rintro ⟨⟨hfree, hspell, harg⟩, hrange⟩ <;>
    refine ⟨⟨?_, ?_, ?_⟩, ?_⟩ <;>
    simp_all [unplaced, SourceWord.unplaced]

theorem fits_unplaced {g : WordGroup} {s : Settings} {ip : Nat} {seen : List String} :
    g.unplaced.Fits s ip seen ↔ g.Fits s ip seen := by
  constructor <;> rintro ⟨hwf, hroom, hfresh⟩
  · exact ⟨wellFormed_unplaced.mp hwf, hroom, by simpa using hfresh⟩
  · exact ⟨wellFormed_unplaced.mpr hwf, hroom, by simpa using hfresh⟩

/-- Words that read as a statement once their lines are forgotten read as one already. -/
theorem exists_of_map_unplaced {g : WordGroup} {A : List SourceWord}
    (h : A.map SourceWord.unplaced = g.words) :
    ∃ g' : WordGroup, g'.words = A ∧ g'.unplaced = g := by
  obtain ⟨_ | l, w, mn, _ | a⟩ := g <;>
    rcases A with _ | ⟨x, _ | ⟨y, _ | ⟨z, _ | ⟨_, _⟩⟩⟩⟩ <;> simp [words] at h
  · exact ⟨⟨none, x, mn, none⟩, rfl, by simp [unplaced, h]⟩
  · exact ⟨⟨none, x, mn, some y⟩, rfl, by simp [unplaced, h]⟩
  · exact ⟨⟨some x, y, mn, none⟩, rfl, by simp [unplaced, h]⟩
  · exact ⟨⟨some x, y, mn, some z⟩, rfl, by simp [unplaced, h]⟩

end WordGroup

@[simp] theorem slotsOf_map_unplaced (gs : List WordGroup) :
    slotsOf (gs.map WordGroup.unplaced) = slotsOf gs := by
  induction gs with
  | nil => rfl
  | cons g gs ih => simp [slotsOf, ih, WordGroup.unplaced]

@[simp] theorem labelsOf_map_unplaced (gs : List WordGroup) :
    labelsOf (gs.map WordGroup.unplaced) = labelsOf gs := by
  unfold labelsOf
  rw [List.filterMap_map]
  congr 1
  funext g
  exact WordGroup.labelText_unplaced g

theorem layout_map_unplaced (ip : Nat) (gs : List WordGroup) :
    layout ip (gs.map WordGroup.unplaced) = (layout ip gs).map Statement.unplaced := by
  induction gs generalizing ip with
  | nil => rfl
  | cons g gs ih => simp [layout, ih, WordGroup.toStatement_unplaced]

theorem admits_map_unplaced {s : Settings} {gs : List WordGroup} :
    Admits s (gs.map WordGroup.unplaced) ↔ Admits s gs := by
  constructor
  · intro h
    refine ⟨fun g hg => WordGroup.wellFormed_unplaced.mp (h.wellFormed _ (List.mem_map_of_mem hg)),
      fun pre hpre hne => ?_, fun hs => by simpa using h.distinct hs⟩
    simpa using h.within (pre.map WordGroup.unplaced) (hpre.map _) (by simpa using hne)
  · intro h
    refine ⟨fun g hg => ?_, fun pre hpre hne => ?_, fun hs => by simpa using h.distinct hs⟩
    · obtain ⟨g', hg', rfl⟩ := List.mem_map.mp hg
      exact WordGroup.wellFormed_unplaced.mpr (h.wellFormed g' hg')
    · -- a prefix of the forgetful run forgets a prefix of the run
      rw [List.prefix_iff_eq_take, ← List.map_take] at hpre
      rw [hpre, slotsOf_map_unplaced]
      refine h.within _ (List.take_prefix _ _) fun hnil => hne ?_
      rw [hpre, hnil, List.map_nil]

theorem extends_map_unplaced {s : Settings} {gs : List WordGroup} {r : List SourceWord} :
    Extends s (gs.map WordGroup.unplaced) (r.map SourceWord.unplaced) ↔ Extends s gs r := by
  constructor
  · rintro ⟨g, more, hr, hadm⟩
    obtain ⟨A, B, rfl, hA, rfl⟩ := List.map_eq_append_iff.mp hr
    obtain ⟨g', rfl, rfl⟩ := WordGroup.exists_of_map_unplaced hA
    refine ⟨g', B, rfl, admits_map_unplaced.mp ?_⟩
    simpa using hadm
  · rintro ⟨g, more, rfl, hadm⟩
    refine ⟨g.unplaced, more.map SourceWord.unplaced, by simp, ?_⟩
    simpa using admits_map_unplaced.mpr hadm

theorem flatMap_words_unplaced (gs : List WordGroup) :
    (gs.map WordGroup.unplaced).flatMap WordGroup.words =
      (gs.flatMap WordGroup.words).map SourceWord.unplaced := by
  simp [List.flatMap_map, List.map_flatMap]

end DecimalMachine
