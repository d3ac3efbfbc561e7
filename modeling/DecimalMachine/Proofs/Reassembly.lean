import Mathlib
import DecimalMachine.Proofs.Listing

/-!
# Reassembling a listing

The listing of a program is the text of each word it fills, one per line. Assembled again with
the same memory size, it gives a program of the same length and the same memory image, as long
as every word lies in `[-999, 999]`: that is where a literal must lie, and every word does for a
memory of at most 1000 words.

* `assemble_listing`: the listing of any words in `[-999, 999]` that fit in memory assembles to
  a program whose words are those words. The scan reads the lines back (`scanSource_intercalate`),
  they form an admitted run of one-word statements (`admits_listingGroups`), which the parse
  reads as it stands (`parseWords_of_admits`), and each statement expands to its word again.
* `assemble_word_range`: an assembly for at most 1000 words makes no word outside
  `[-999, 999]`.
* `listing_reassembles` puts the two together.
-/

namespace DecimalMachine

/-- The listing of a program: the text of each word it fills, one per line. -/
def Program.listing (p : Program) : String :=
  String.intercalate "\n" ((p.binary.toList.take p.length).map Word.render)

/-- The statements the listing of words `ws` reads as, the first at line `n`. -/
def listingGroups (ws : List Int) (n : Nat) : List WordGroup :=
  (ws.zipIdx n).map fun (w, k) => Word.group w k

@[simp] theorem listingGroups_nil (n : Nat) : listingGroups [] n = [] := rfl

@[simp] theorem listingGroups_cons (w : Int) (ws : List Int) (n : Nat) :
    listingGroups (w :: ws) n = Word.group w n :: listingGroups ws (n + 1) := by
  simp [listingGroups, List.zipIdx_cons]

@[simp] theorem Word.label_group (w : Int) (n : Nat) : (Word.group w n).label = none := by
  unfold Word.group
  cases Word.decode? w <;> rfl

@[simp] theorem Word.slots_group (w : Int) (n : Nat) : (Word.group w n).mnemonic.slots = 1 := by
  unfold Word.group
  cases Word.decode? w <;> rfl

theorem Word.lineNo_group (w : Int) (n : Nat) : (Word.group w n).word.lineNo = n := by
  unfold Word.group
  cases Word.decode? w <;> rfl

/-- In the layout of a listing, the statement of the `k`-th word stands at address `ip + k`, on
line `n + k`, and takes one slot. -/
theorem layout_listingGroups_getElem? (ws : List Int) (ip n : Nat) {k : Nat} (hk : k < ws.length) :
    ∃ st, (layout ip (listingGroups ws n))[k]? = some st ∧ st.ip = ip + k ∧ st.lineNo = n + k ∧
      st.mnemonic.slots = 1 := by
  induction ws generalizing ip n k with
  | nil => exact absurd hk (Nat.not_lt_zero k)
  | cons w ws ih =>
    rw [listingGroups_cons, layout, Word.slots_group]
    cases k with
    | zero => exact ⟨_, rfl, rfl, Word.lineNo_group w n, Word.slots_group w n⟩
    | succ k =>
      obtain ⟨st, hst, hip, hline, hslots⟩ := ih (ip + 1) (n + 1) (by simpa using hk)
      exact ⟨st, hst, by omega, by omega, hslots⟩

theorem slotsOf_listingGroups (ws : List Int) (n : Nat) :
    slotsOf (listingGroups ws n) = ws.length := by
  induction ws generalizing n with
  | nil => rfl
  | cons w ws ih => simp [slotsOf, ih, Nat.add_comm]

theorem labelsOf_listingGroups (ws : List Int) (n : Nat) : labelsOf (listingGroups ws n) = [] := by
  induction ws generalizing n with
  | nil => rfl
  | cons w ws ih =>
    rw [listingGroups_cons, ← List.singleton_append, labelsOf_append, ih]
    simp [WordGroup.labelText]

/-- The scanned words of a listing are the words of its statements. -/
theorem flatMap_words_listing (ws : List Int) (n : Nat) :
    ((ws.map Word.render).zipIdx n).flatMap (fun (l, k) =>
        (Text.words l).map fun t => (⟨t, k⟩ : SourceWord)) =
      (listingGroups ws n).flatMap WordGroup.words := by
  induction ws generalizing n with
  | nil => rfl
  | cons w ws ih => simp only [List.map_cons, List.zipIdx_cons, List.flatMap_cons,
      listingGroups_cons, words_render, ih]

/-- The statements of a listing of words in `[-999, 999]` that fit in memory are an admitted
run: each is well formed, one slot long, and defines no label. -/
theorem admits_listingGroups {s : Settings} {ws : List Int}
    (hw : ∀ w ∈ ws, -999 ≤ w ∧ w ≤ 999) (hlen : ws.length ≤ s.size.toNat) (n : Nat) :
    Admits s (listingGroups ws n) := by
  refine ⟨?_, ?_, fun _ => by simp [labelsOf_listingGroups]⟩
  · intro g hg
    obtain ⟨⟨w, k⟩, hwk, rfl⟩ := List.mem_map.mp hg
    exact wellFormed_group (hw w (List.fst_mem_of_mem_zipIdx hwk)) k
  · -- a run's slots only grow along it, and the whole run fills one slot a word
    rintro pre ⟨post, hpost⟩ hne
    have hslots := congrArg slotsOf hpost
    rw [slotsOf_append, slotsOf_listingGroups] at hslots
    have hpos : 0 < slotsOf pre := by
      obtain ⟨g, gs, rfl⟩ := List.exists_cons_of_ne_nil hne
      have := g.mnemonic.slots_pos
      simp only [slotsOf]
      omega
    omega

/-! ## Parsing an admitted run -/

/-- The words of an admitted run of statements parse as that run, laid out from address 0. -/
theorem parseWords_of_admits (s : Settings) (lines : Array String) {gs : List WordGroup}
    (hadm : Admits s gs) :
    let W := gs.flatMap WordGroup.words
    (parseWords s lines (W.length + 1) W {}).2 = none ∧
      (parseWords s lines (W.length + 1) W {}).1.statements.toList = layout 0 gs := by
  intro W
  have hok := (parseWords_ok_iff s lines W).mpr ⟨gs, rfl, hadm⟩
  obtain ⟨gs', rest, hW, hadm', hreads, herr, -⟩ := parseWords_longest_run s lines W
  have hrest : rest = [] := herr.mp hok
  rw [hrest, List.append_nil] at hW
  -- the run the parse reads splits the same words, so it is `gs`
  have hsame : gs' = gs := split_unique (fun g hg => (hadm'.wellFormed g hg).toShaped)
    (fun g hg => (hadm.wellFormed g hg).toShaped) hW.symm
  exact ⟨hok, by rw [hreads.statements_eq, hsame]⟩

/-! ## Generating the words of a listing -/

/-- What generation needs of a statement read from a listing line: no label to resolve, and a
value its mnemonic expands to the word `w`. -/
def ListsWord (st : Statement) (w : Int) : Prop :=
  st.link = none ∧ st.mnemonic.expand st.value = .ok [w]

theorem listsWord_layout (ws : List Int) (ip n : Nat) :
    List.Forall₂ ListsWord (layout ip (listingGroups ws n)) ws := by
  induction ws generalizing ip n with
  | nil => exact List.Forall₂.nil
  | cons w ws ih =>
    rw [listingGroups_cons, layout]
    exact List.Forall₂.cons (expand_group w n) (ih _ _)

/-- What a listing statement needs does not look at its words. -/
theorem forall₂_listsWord_withoutWords {sts : List Statement} {ws : List Int} :
    List.Forall₂ ListsWord (sts.map Statement.withoutWords) ws ↔ List.Forall₂ ListsWord sts ws := by
  rw [List.forall₂_map_left_iff]
  rfl

theorem ListsWord.not_fails {st : Statement} {w : Int} (h : ListsWord st w)
    (labels : List (String × Nat)) (e : Error) : ¬st.Fails labels e := by
  rintro (⟨l, hl, -, -⟩ | ⟨v, hv, htakes, hrange, -⟩)
  · rw [h.1] at hl
    exact absurd hl (by simp)
  · have hv' : v = st.value := by simpa [Statement.operand?, h.1] using hv.symm
    have herr := Mnemonic.expand_error.mpr ⟨htakes, hrange, rfl⟩
    rw [hv', h.2] at herr
    exact absurd herr (by simp)

theorem ListsWord.words_eq {st : Statement} {w : Int} (h : ListsWord st w)
    {labels : List (String × Nat)} (hg : st.Generated labels) : st.words = [w] := by
  obtain ⟨v, hv, hexp⟩ := hg
  have hv' : v = st.value := by simpa [Statement.operand?, h.1] using hv.symm
  rw [hv', h.2] at hexp
  exact (Except.ok.inj hexp).symm

theorem exists_listsWord {sts : List Statement} {ws : List Int}
    (hl : List.Forall₂ ListsWord sts ws) : ∀ st ∈ sts, ∃ w, ListsWord st w := by
  induction hl with
  | nil => simp
  | @cons st w sts ws hst _ ih =>
    intro x hx
    rcases List.mem_cons.mp hx with rfl | hx
    · exact ⟨w, hst⟩
    · exact ih x hx

theorem flatMap_words_of_generated {labels : List (String × Nat)} {sts : List Statement}
    {ws : List Int} (hl : List.Forall₂ ListsWord sts ws) (hg : ∀ st ∈ sts, st.Generated labels) :
    sts.flatMap (·.words) = ws := by
  induction hl with
  | nil => rfl
  | @cons st w sts ws hst _ ih =>
    rw [List.flatMap_cons, hst.words_eq (hg st List.mem_cons_self),
      ih fun x hx => hg x (List.mem_cons_of_mem st hx)]
    rfl

/-- The listing of words in `[-999, 999]` that fit in memory assembles to one statement per
line, laid out as the listing reads, and the program's statements hold exactly those words. -/
theorem assemble_listing_layout (ev : Evaluator) (settings : Settings) {ws : List Int}
    (hw : ∀ w ∈ ws, -999 ≤ w ∧ w ≤ 999) (hlen : ws.length ≤ settings.size.toNat) :
    ∃ p, (assemble ev settings (String.intercalate "\n" (ws.map Word.render))).result = .ok p ∧
      p.statements.toList.map Statement.withoutWords = layout 0 (listingGroups ws 1) ∧
      p.statements.toList.flatMap (·.words) = ws := by
  have hlines : ∀ l ∈ ws.map Word.render, ListingLine l := by
    intro l hl
    obtain ⟨w, hmem, rfl⟩ := List.mem_map.mp hl
    exact listingLine_render (hw w hmem)
  obtain ⟨trace, hscan⟩ := scanSource_intercalate ev settings settings.equates hlines
  rw [flatMap_words_listing] at hscan
  have hadm := admits_listingGroups hw hlen 1
  obtain ⟨hparse, hsts⟩ := parseWords_of_admits settings (ws.map Word.render).toArray hadm
  set W := (listingGroups ws 1).flatMap WordGroup.words
  have hparse' : (parseWords settings (ws.map Word.render).toArray (W.toArray.size + 1)
      W.toArray.toList {}).2 = none := by
    rwa [List.size_toArray, List.toList_toArray]
  obtain ⟨pre, -, hout, hshape, hgen, hend⟩ := assemble_after_parse hscan hparse'
  simp only [List.size_toArray, hsts] at hout hshape hend
  have hl := listsWord_layout ws 0 1
  rcases hend with ⟨hres, hlen⟩ | ⟨st, e, hget, hfails, -⟩
  · -- every statement got its words: the one word it was read from
    have hall : pre.map Statement.withoutWords = (layout 0 (listingGroups ws 1)).map
        Statement.withoutWords := by
      rw [hshape, hlen, List.take_length]
    have hpre : List.Forall₂ ListsWord pre ws := by
      rw [← forall₂_listsWord_withoutWords, hall, forall₂_listsWord_withoutWords]
      exact hl
    have hkeep : (pre ++ List.drop pre.length (layout 0 (listingGroups ws 1))) = pre := by
      rw [hlen, List.drop_length, List.append_nil]
    refine ⟨_, hres, ?_, ?_⟩
    · rw [hout, hkeep, hall, layout_withoutWords]
    · rw [hout, hkeep]
      exact flatMap_words_of_generated hpre hgen
  · -- no statement of a listing fails
    obtain ⟨w, hw⟩ := exists_listsWord hl st (List.mem_of_getElem? hget)
    exact absurd hfails (hw.not_fails _ _)

/-- The listing of words in `[-999, 999]` that fit in memory assembles, and the program's
statements hold exactly those words. -/
theorem assemble_listing (ev : Evaluator) (settings : Settings) {ws : List Int}
    (hw : ∀ w ∈ ws, -999 ≤ w ∧ w ≤ 999) (hlen : ws.length ≤ settings.size.toNat) :
    ∃ p, (assemble ev settings (String.intercalate "\n" (ws.map Word.render))).result = .ok p ∧
      p.statements.toList.flatMap (·.words) = ws := by
  obtain ⟨p, h, -, hws⟩ := assemble_listing_layout ev settings hw hlen
  exact ⟨p, h, hws⟩

/-! ## The range of assembled words

A literal lies in `[-999, 999]`, a label's address below the memory size, and an instruction
word in `[0, 935]`: for a memory of at most 1000 words every word of a program lies in
`[-999, 999]`. -/

theorem Op.base_range (o : Op) : 0 ≤ o.base ∧ o.base ≤ 935 := by
  cases o <;> decide

/-- Every instruction word lies in `[0, 935]`. -/
theorem Word.range_of_decode? {w : Int} {r : Op × Int} (h : Word.decode? w = some r) :
    0 ≤ w ∧ w ≤ 935 := by
  obtain ⟨op, arg⟩ := r
  obtain ⟨henc, harg⟩ := Word.encode_of_decode? h
  rw [← henc, Word.encode]
  have hbase := op.base_range
  cases hop : op.hasOperand
  · simpa using hbase
  · obtain ⟨hb, -, hidx⟩ := Op.base_of_hasOperand hop
    have := harg hop
    simp only [if_true]
    omega

theorem isSome_of_map_decode? {words : List Int} {l : List (Option (Op × Int))}
    (h : words.map Word.decode? = l) (hl : ∀ x ∈ l, x.isSome) {w : Int} (hw : w ∈ words) :
    (Word.decode? w).isSome :=
  hl _ (h ▸ List.mem_map_of_mem hw)

/-- The words of every mnemonic but `DAT` are instruction words. -/
theorem Mnemonic.decodes_of_encodes {mn : Mnemonic} {v : Int} {words : List Int}
    (h : mn.Encodes v words) (hmn : mn ≠ .data) : ∀ w ∈ words, (Word.decode? w).isSome := by
  intro w hw
  cases mn with
  | data => exact absurd rfl hmn
  | coffeeBreak => exact isSome_of_map_decode? h (by simp) hw
  | op o =>
    cases ho : o.hasOperand
    · simp only [Encodes, ho, Bool.false_eq_true, if_false] at h
      exact isSome_of_map_decode? h (by simp) hw
    · simp only [Encodes, ho, if_true] at h
      exact isSome_of_map_decode? h.2.2 (by simp) hw
  | pushImmediate => exact isSome_of_map_decode? h.2.2 (by simp) hw
  | callRoutine => exact isSome_of_map_decode? h.2.2 (by simp) hw

theorem WordGroup.WellFormed.value_range {g : WordGroup} (hg : g.WellFormed) :
    -999 ≤ g.value ∧ g.value ≤ 999 := by
  unfold WordGroup.value
  cases ha : g.arg with
  | none => simp
  | some a =>
    cases hv : numeral? a.text with
    | none => simp [hv]
    | some v => simpa [hv] using hg.literal_range a ha v hv

theorem value_range_layout {gs : List WordGroup} (hgs : ∀ g ∈ gs, g.WellFormed) (ip : Nat) :
    ∀ st ∈ layout ip gs, -999 ≤ st.value ∧ st.value ≤ 999 := by
  induction gs generalizing ip with
  | nil => simp [layout]
  | cons g gs ih =>
    intro st hst
    rcases List.mem_cons.mp hst with rfl | hst
    · exact (hgs g List.mem_cons_self).value_range
    · exact ih (fun g' hg' => hgs g' (List.mem_cons_of_mem g hg')) _ st hst

/-- A statement ends within the run it is placed in. -/
theorem Placed.end_le {ip : Nat} {sts : List Statement} (h : Placed ip sts) :
    ∀ st ∈ sts, st.ip + st.mnemonic.slots ≤ ip + totalSlots sts := by
  induction sts generalizing ip with
  | nil => simp
  | cons st sts ih =>
    obtain ⟨hst, hrest⟩ := h
    intro x hx
    rcases List.mem_cons.mp hx with rfl | hx
    · simp only [totalSlots_cons]
      omega
    · have := ih hrest x hx
      simp only [totalSlots_cons]
      omega

section Range

variable {ev : Evaluator} {settings : Settings} {source : String}

/-- Every literal an assembly reads lies in `[-999, 999]`. -/
theorem assemble_value_range :
    ∀ st ∈ (assemble ev settings source).statements.toList, -999 ≤ st.value ∧ st.value ≤ 999 := by
  obtain ⟨gs, hadm, hgs⟩ := assemble_statements_laid_out ev settings source
  intro st hst
  have hmem : st.withoutWords ∈ layout 0 gs := hgs ▸ List.mem_map_of_mem hst
  exact value_range_layout hadm.wellFormed 0 st.withoutWords hmem

/-- The operand of a statement of a program is a literal in `[-999, 999]` or the address of a
statement, below the memory size. -/
theorem assemble_operand_range {p : Program} (h : (assemble ev settings source).result = .ok p)
    {st : Statement} (hst : st ∈ (assemble ev settings source).statements.toList) {v : Int}
    (hv : st.operand? (assemble ev settings source).labels = some v) :
    (-999 ≤ v ∧ v ≤ 999) ∨ (0 ≤ v ∧ v < settings.size) := by
  obtain ⟨hsts, hplaced, -, -, hle, -⟩ := assemble_program_image h
  obtain ⟨-, hlookup, -⟩ := assemble_program h
  unfold Statement.operand? at hv
  cases hl : st.link with
  | none =>
    simp only [hl, Option.some.injEq] at hv
    exact Or.inl (hv ▸ assemble_value_range st hst)
  | some l =>
    -- a label's address is that of the first statement defining it
    simp only [hl, hlookup l, Option.map_map, Option.map_eq_some_iff] at hv
    obtain ⟨st', hfind, hip⟩ := hv
    have hmem : st' ∈ p.statements.toList := hsts ▸ List.mem_of_find?_eq_some hfind
    have hend := hplaced.end_le st' hmem
    have hpos := st'.mnemonic.slots_pos
    have htotal := assemble_totalSlots_le ev settings source
    rw [← hsts] at htotal
    simp only [Function.comp_apply] at hip
    omega

/-- An assembly makes no word below `-999` or above both `999` and the last address of memory:
a word is an instruction, a literal, the address of a statement or a zero. -/
theorem assemble_word_bound {p : Program} (h : (assemble ev settings source).result = .ok p) :
    ∀ w ∈ p.binary.toList, -999 ≤ w ∧ w ≤ max 999 (settings.size - 1) := by
  obtain ⟨hsts, hplaced, hwords, -, -, -⟩ := assemble_program_image h
  obtain ⟨-, -, hexp⟩ := assemble_program h
  intro w hw
  rw [Program.binary_toList hplaced hwords, List.mem_append] at hw
  rcases hw with hw | hw
  · obtain ⟨st, hst, hwst⟩ := List.mem_flatMap.mp hw
    rw [hsts] at hst
    obtain ⟨v, hv, -, henc⟩ := hexp st hst
    by_cases hdata : st.mnemonic = .data
    · -- a data word is its operand
      have hwords : st.words = [v] := by
        rw [hdata] at henc
        exact henc
      rw [hwords, List.mem_singleton] at hwst
      have := assemble_operand_range h hst hv
      omega
    · obtain ⟨r, hr⟩ := Option.isSome_iff_exists.mp
        (Mnemonic.decodes_of_encodes henc hdata w hwst)
      have := Word.range_of_decode? hr
      omega
  · rw [List.eq_of_mem_replicate hw]
    omega

/-- An assembly for a memory of at most 1000 words makes no word outside `[-999, 999]`. -/
theorem assemble_word_range {p : Program} (h : (assemble ev settings source).result = .ok p)
    (hsize : settings.size ≤ 1000) : ∀ w ∈ p.binary.toList, -999 ≤ w ∧ w ≤ 999 := by
  intro w hw
  have := assemble_word_bound h w hw
  omega

end Range

/-! ## Reassembly -/

/-- Reassembling a listing. An assembly for a memory size of at most 1000 makes every word of
its image lie in `[-999, 999]`. When the words a program fills do, its listing assembles under
any settings with the same memory size, strict or not, to a program of the same length and the
same image: listing and assembler agree on every word, data words that read as instructions and
words that read as nothing included. A listing has no expressions, so the evaluator it is
reassembled with does not matter. -/
theorem listing_reassembles (ev : Evaluator) (settings : Settings) (source : String) {p : Program}
    (h : (assemble ev settings source).result = .ok p) :
    (settings.memorySize ≤ 1000 → ∀ w ∈ p.binary.toList, -999 ≤ w ∧ w ≤ 999) ∧
    ((∀ w ∈ p.binary.toList.take p.length, -999 ≤ w ∧ w ≤ 999) →
      ∀ (ev' : Evaluator) (settings' : Settings), settings'.memorySize = settings.memorySize →
        ∃ p', (assemble ev' settings' p.listing).result = .ok p' ∧ p'.length = p.length ∧
          p'.binary = p.binary) := by
  refine ⟨fun hm => assemble_word_range h ?_, fun hw ev' settings' hmem => ?_⟩
  · -- a memory size of 0 stands for the default of 1000 words
    unfold Settings.size
    split <;> simp_all [defaultMemory]
  obtain ⟨-, hplaced, hwords, hlen, hle, himg⟩ := assemble_program_image h
  have hsize : settings'.size = settings.size := by simp only [Settings.size, hmem]
  -- the words a listing shows are the statements' words
  have htake : p.binary.toList.take p.length = p.statements.toList.flatMap (·.words) := by
    rw [Program.binary_toList hplaced hwords, hlen, ← length_flatMap_words hwords,
      List.take_left]
  have hfit : (p.binary.toList.take p.length).length ≤ settings'.size.toNat := by
    rw [htake, length_flatMap_words hwords, ← hlen, hsize]
    exact hle
  obtain ⟨p', hres, hws⟩ := assemble_listing ev' settings' hw hfit
  obtain ⟨-, hplaced', hwords', hlen', -, himg'⟩ := assemble_program_image hres
  have hslots : totalSlots p'.statements.toList = totalSlots p.statements.toList := by
    rw [← length_flatMap_words hwords', ← length_flatMap_words hwords, hws, htake]
  refine ⟨p', hres, by rw [hlen', hlen, hslots], ?_⟩
  rw [← Array.toList_inj, Program.binary_toList hplaced' hwords',
    Program.binary_toList hplaced hwords, hws, htake, himg', himg, hsize, hslots]

/-- The listing "LDA 3", "HLT", "INP" assembles to its three words, and its program's listing
reassembles under strict assembly to the same image. -/
theorem three_word_listing_reassembles :
    ∃ p, (assemble Evaluator.inert { memorySize := 4 } "LDA 3\nHLT\nINP").result = .ok p ∧
      p.statements.toList.flatMap (·.words) = [503, 0, 901] ∧
      ∃ p', (assemble Evaluator.inert { memorySize := 4, strict := true } p.listing).result = .ok p' ∧
        p'.length = p.length ∧ p'.binary = p.binary := by
  have hsrc : String.intercalate "\n" (([503, 0, 901] : List Int).map Word.render) =
      "LDA 3\nHLT\nINP" := by decide
  obtain ⟨p, h, hws⟩ :=
    @assemble_listing Evaluator.inert { memorySize := 4 } [503, 0, 901] (by decide) (by decide)
  rw [hsrc] at h
  have hrange := (listing_reassembles _ _ _ h).1 (by decide)
  exact ⟨p, h, hws,
    (listing_reassembles _ _ _ h).2 (fun w hw => hrange w (List.mem_of_mem_take hw)) _ _ rfl⟩

end DecimalMachine
