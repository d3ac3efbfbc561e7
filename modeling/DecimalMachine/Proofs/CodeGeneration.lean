import Mathlib.Control.Monad.Basic
import DecimalMachine.Proofs.ParsePass

/-!
# Code generation and label resolution

The third pass of the assembler gives each parsed statement its words. This module proves what
those words are and where generation stops.

* `Mnemonic.Encodes` says what the words of a mnemonic are for a value: the value itself for
  `DAT`, otherwise instruction words that decode (`Word.decode?`) to the mnemonic's operations;
  `encodes_of_expand` proves every expansion meets it, and `expand_error` that an expansion
  fails exactly for an operand outside `[0, 99]`.
* `generateWords_run` follows generation statement by statement: the statements before the
  first failing one get their words, and it and every later one keep none.
* `assemble_resolves_labels` puts this together with the parse pass: labels resolve to their
  first definitions, and a failing generation reports the first failing statement at its line.
-/

namespace DecimalMachine

/-! ## Encoded words decode back

An operation with an operand is encoded as a hundred times its number plus the operand, so a
word in `[100, 899]` decodes by division; every other operation has one fixed word. -/

namespace Op

/-- An operation with an operand is numbered 1 to 8, and its base word is a hundred times its
number. -/
theorem base_of_hasOperand {o : Op} (h : o.hasOperand = true) :
    o.base = 100 * (o.index : Int) ∧ 1 ≤ o.index ∧ o.index ≤ 8 := by
  cases o <;> simp_all [base, index, hasOperand]

end Op

namespace Word

/-- The base word of an operation decodes to it, with operand 0. -/
theorem decode?_base (o : Op) : decode? o.base = some (o, 0) := by
  cases o <;> rfl

/-- The word of an operation with an operand in `[0, 99]` decodes to the operation and the
operand. -/
theorem decode?_encode {o : Op} (h : o.hasOperand = true) {v : Int} (hv : 0 ≤ v ∧ v ≤ 99) :
    decode? (o.base + v) = some (o, v) := by
  obtain ⟨hbase, hlo, hhi⟩ := Op.base_of_hasOperand h
  have hdiv : (o.base + v) / 100 = o.index := by rw [hbase]; omega
  have hmod : (o.base + v) % 100 = v := by rw [hbase]; omega
  have hne : (o.base + v == 0) = false := by rw [hbase]; simp; omega
  have hrange : (100 ≤ o.base + v && o.base + v ≤ 899) = true := by
    rw [hbase]; simp; omega
  simp [decode?, hne, hrange, hdiv, hmod, Op.ofIndex?_index]

end Word

namespace Mnemonic

/-- Whether the mnemonic's words carry its value as a two-digit operand. -/
def takesOperand : Mnemonic → Bool
  | op o => o.hasOperand
  | pushImmediate | callRoutine => true
  | coffeeBreak | data => false

/-- The words of mnemonic `mn` for value `v`: the word `v` itself for `DAT`; otherwise
instruction words that decode to the mnemonic's instructions, a two-digit operand carrying `v`
and every other operand 0. -/
def Encodes (mn : Mnemonic) (v : Int) (words : List Int) : Prop :=
  match mn with
  | data => words = [v]
  | coffeeBreak => words.map Word.decode? = [some (.halt, 0)]
  | op o =>
    if o.hasOperand then 0 ≤ v ∧ v ≤ 99 ∧ words.map Word.decode? = [some (o, v)]
    else words.map Word.decode? = [some (o, 0)]
  | pushImmediate =>
    0 ≤ v ∧ v ≤ 99 ∧ words.map Word.decode? = [some (.loadImmediate, v), some (.push, 0)]
  | callRoutine =>
    0 ≤ v ∧ v ≤ 99 ∧
      words.map Word.decode? = [some (.loadImmediate, v), some (.push, 0), some (.call, 0)]

theorem encode_ok {o : Op} {v w : Int} (h : o.encode v = .ok w) :
    if o.hasOperand then 0 ≤ v ∧ v ≤ 99 ∧ w = o.base + v else w = o.base := by
  unfold Op.encode at h
  cases ho : o.hasOperand <;> simp only [ho, Bool.not_false, Bool.not_true, if_true,
    Bool.false_eq_true, if_false] at h ⊢
  · simpa using h.symm
  · split at h
    · simp at h
    · next hv =>
      simp only [Except.ok.injEq] at h
      exact ⟨by omega, by omega, h.symm⟩

/-- The words a mnemonic expands to are its instructions. -/
theorem encodes_of_expand {mn : Mnemonic} {v : Int} {words : List Int}
    (h : mn.expand v = .ok words) : mn.Encodes v words := by
  cases mn with
  | data =>
    simp only [expand, Except.ok.injEq] at h
    exact h.symm
  | coffeeBreak =>
    cases he : Op.halt.encode v with
    | error e => simp [expand, he] at h
    | ok w =>
      have hw : w = Op.halt.base := by simpa [Op.hasOperand] using encode_ok he
      simp [expand, he] at h
      subst h hw
      simp [Encodes, Word.decode?_base]
  | op o =>
    cases he : o.encode v with
    | error e => simp [expand, he] at h
    | ok w =>
      have hw := encode_ok he
      simp [expand, he] at h
      subst h
      cases ho : o.hasOperand
      · simp only [ho, Bool.false_eq_true, if_false] at hw
        simp [Encodes, ho, hw, Word.decode?_base]
      · simp only [ho, if_true] at hw
        obtain ⟨hlo, hhi, rfl⟩ := hw
        simp [Encodes, ho, hlo, hhi, Word.decode?_encode ho ⟨hlo, hhi⟩]
  | pushImmediate =>
    cases he : Op.loadImmediate.encode v with
    | error e => simp [expand, he] at h
    | ok w =>
      have hw := encode_ok he
      simp [expand, he] at h
      subst h
      simp only [Op.hasOperand, if_true] at hw
      obtain ⟨hlo, hhi, rfl⟩ := hw
      simp [Encodes, hlo, hhi, Word.decode?_encode (o := .loadImmediate) rfl ⟨hlo, hhi⟩,
        Word.decode?_base]
  | callRoutine =>
    cases he : Op.loadImmediate.encode v with
    | error e => simp [expand, he] at h
    | ok w =>
      have hw := encode_ok he
      simp [expand, he] at h
      subst h
      simp only [Op.hasOperand, if_true] at hw
      obtain ⟨hlo, hhi, rfl⟩ := hw
      simp [Encodes, hlo, hhi, Word.decode?_encode (o := .loadImmediate) rfl ⟨hlo, hhi⟩,
        Word.decode?_base]

theorem encode_error {o : Op} {v : Int} {e : Error} :
    o.encode v = .error e ↔ o.hasOperand = true ∧ (v < 0 ∨ 99 < v) ∧ e = .operandRange v := by
  unfold Op.encode
  cases ho : o.hasOperand
  · simp
  · by_cases hv : v < 0 ∨ 99 < v
    · simp [hv, eq_comm]
    · simp [hv]

/-- Expansion fails only for an operand outside `[0, 99]`, and then says so. -/
theorem expand_error {mn : Mnemonic} {v : Int} {e : Error} :
    mn.expand v = .error e ↔ mn.takesOperand = true ∧ (v < 0 ∨ 99 < v) ∧ e = .operandRange v := by
  cases mn with
  | data => simp [expand, takesOperand]
  | coffeeBreak => simp [expand, takesOperand, Op.encode, Op.hasOperand]
  | op o =>
    rw [takesOperand, ← encode_error]
    cases he : o.encode v <;> simp [expand, he]
  | pushImmediate | callRoutine =>
    -- both load their value with `LDI`, the only step that can fail
    have hload := encode_error (o := .loadImmediate) (v := v) (e := e)
    simp only [Op.hasOperand, true_and] at hload
    simp only [takesOperand, true_and, ← hload]
    cases he : Op.loadImmediate.encode v <;> simp [expand, he]

end Mnemonic

/-! ## Generating one statement

A statement's words are made from its operand: the address of the label it names, or its
literal. `generateWords` takes the statements in order and stops at the first whose label is
not defined or whose expansion fails. -/

namespace Statement

/-- The value a statement's words are made from: the address of the label its argument names,
or its literal value; nothing when that label is not defined. -/
def operand? (labels : List (String × Nat)) (st : Statement) : Option Int :=
  match st.link with
  | some l => (labels.lookup l).map fun (ip : Nat) => (ip : Int)
  | none => some st.value

/-- A statement whose words are generated: they are its mnemonic's expansion of its operand. -/
def Generated (labels : List (String × Nat)) (st : Statement) : Prop :=
  ∃ v, st.operand? labels = some v ∧ st.mnemonic.expand v = .ok st.words

/-- Why no words can be generated for a statement: the label it names is not defined, or its
mnemonic carries the value as an operand and the value lies outside `[0, 99]`. -/
def Fails (labels : List (String × Nat)) (st : Statement) (e : Error) : Prop :=
  (∃ l, st.link = some l ∧ labels.lookup l = none ∧ e = .missingLabel l) ∨
    ∃ v, st.operand? labels = some v ∧ st.mnemonic.takesOperand = true ∧ (v < 0 ∨ 99 < v) ∧
      e = .operandRange v

/-- A statement without its words. -/
def withoutWords (st : Statement) : Statement := { st with words := [] }

@[simp] theorem operand?_withWords (labels : List (String × Nat)) (st : Statement)
    (ws : List Int) : ({ st with words := ws } : Statement).operand? labels = st.operand? labels :=
  rfl

@[simp] theorem withoutWords_withWords (st : Statement) (ws : List Int) :
    ({ st with words := ws } : Statement).withoutWords = st.withoutWords := rfl

/-- Every statement either has words or a reason why not. -/
theorem generates_or_fails (labels : List (String × Nat)) (st : Statement) :
    (∃ v ws, st.operand? labels = some v ∧ st.mnemonic.expand v = .ok ws) ∨
      ∃ e, st.Fails labels e := by
  cases hv : st.operand? labels with
  | none =>
    -- only a named label can be missing
    right
    unfold operand? at hv
    split at hv
    · next l hl => exact ⟨_, Or.inl ⟨l, hl, Option.map_eq_none_iff.mp hv, rfl⟩⟩
    · simp at hv
  | some v =>
    cases he : st.mnemonic.expand v with
    | ok ws => exact Or.inl ⟨v, ws, rfl, he⟩
    | error e =>
      obtain ⟨htakes, hrange, rfl⟩ := Mnemonic.expand_error.mp he
      exact Or.inr ⟨_, Or.inr ⟨v, hv, htakes, hrange, rfl⟩⟩

end Statement

section Generate

variable (s : Settings) (lines : Array String) (labels : List (String × Nat))

theorem generateWords_cons_ok {st : Statement} {v : Int} {ws : List Int}
    (hv : st.operand? labels = some v) (hw : st.mnemonic.expand v = .ok ws)
    (rest : List Statement) (done : Array Statement) (trace : Array TraceLine) :
    ∃ trace', generateWords s lines labels (st :: rest) done trace =
      generateWords s lines labels rest (done.push { st with words := ws }) trace' := by
  rw [generateWords]
  cases hl : st.link with
  | some l =>
    simp only [Statement.operand?, hl] at hv
    obtain ⟨ip, hip, rfl⟩ := Option.map_eq_some_iff.mp hv
    simp [hip, hw]
  | none =>
    simp only [Statement.operand?, hl, Option.some.injEq] at hv
    subst hv
    simp [hw]

theorem generateWords_cons_fails {st : Statement} {e : Error} (hf : st.Fails labels e)
    (rest : List Statement) (done : Array Statement) (trace : Array TraceLine) :
    generateWords s lines labels (st :: rest) done trace =
      (done ++ (st :: rest).toArray, trace, some (atSourceLine lines st.lineNo e)) := by
  rw [generateWords]
  rcases hf with ⟨l, hl, hnone, rfl⟩ | ⟨v, hv, htakes, hrange, rfl⟩
  · simp [hl, hnone]
  · have he : st.mnemonic.expand v = .error (.operandRange v) :=
      Mnemonic.expand_error.mpr ⟨htakes, hrange, rfl⟩
    cases hl : st.link with
    | some l =>
      simp only [Statement.operand?, hl] at hv
      obtain ⟨ip, hip, rfl⟩ := Option.map_eq_some_iff.mp hv
      simp [hip, he]
    | none =>
      simp only [Statement.operand?, hl, Option.some.injEq] at hv
      subst hv
      simp [he]

/-- Generation fills in the words of statements in order up to the first that has none: those
before it get their words, it and every later statement stay as they were, and the failure is
that statement's, at its line. -/
theorem generateWords_run (sts : List Statement) (done : Array Statement)
    (trace : Array TraceLine) :
    ∃ pre : List Statement,
      (generateWords s lines labels sts done trace).1.toList =
        done.toList ++ pre ++ sts.drop pre.length ∧
      pre.map Statement.withoutWords = (sts.take pre.length).map Statement.withoutWords ∧
      (∀ st ∈ pre, st.Generated labels) ∧
      (((generateWords s lines labels sts done trace).2.2 = none ∧ pre.length = sts.length) ∨
        ∃ st e, sts[pre.length]? = some st ∧ st.Fails labels e ∧
          (generateWords s lines labels sts done trace).2.2 =
            some (atSourceLine lines st.lineNo e)) := by
  induction sts generalizing done trace with
  | nil => exact ⟨[], by simp [generateWords], rfl, by simp, Or.inl ⟨rfl, rfl⟩⟩
  | cons st rest ih =>
    rcases st.generates_or_fails labels with ⟨v, ws, hv, hw⟩ | ⟨e, hf⟩
    · -- `st` gets its words, and generation goes on with the rest
      obtain ⟨trace', htr⟩ := generateWords_cons_ok s lines labels hv hw rest done trace
      obtain ⟨pre, hout, hshape, hgen, hend⟩ := ih (done.push { st with words := ws }) trace'
      refine ⟨{ st with words := ws } :: pre, ?_, ?_, ?_, ?_⟩
      · simp [htr, hout]
      · simp [hshape]
      · intro x hx
        rcases List.mem_cons.mp hx with rfl | hx
        · exact ⟨v, hv, hw⟩
        · exact hgen x hx
      · simpa [htr] using hend
    · -- `st` stops generation, and nothing after it gets words
      refine ⟨[], ?_, rfl, by simp, Or.inr ⟨st, e, rfl, hf, ?_⟩⟩
      · simp [generateWords_cons_fails s lines labels hf]
      · simp [generateWords_cons_fails s lines labels hf]

end Generate

/-- Statements laid out by the parse have no words yet. -/
theorem layout_words (ip : Nat) (gs : List WordGroup) : ∀ st ∈ layout ip gs, st.words = [] := by
  induction gs generalizing ip with
  | nil => simp [layout]
  | cons g gs ih =>
    intro st hst
    rcases List.mem_cons.mp hst with rfl | hst
    · rfl
    · exact ih _ st hst

/-- Parsed statements have no words yet, and each label maps to the first statement defining
it. -/
theorem parsed_statements (settings : Settings) (lines : Array String) (W : List SourceWord) :
    let parsed := (parseWords settings lines (W.length + 1) W {}).1
    (∀ st ∈ parsed.statements.toList, st.words = []) ∧
      ∀ l, parsed.labels.lookup l =
        (parsed.statements.toList.find? fun st => st.label = some l).map (·.ip) := by
  intro parsed
  obtain ⟨gs, -, -, -, hreads, -, -⟩ := parseWords_longest_run settings lines W
  refine ⟨?_, fun l => by rw [hreads.lookup_eq, hreads.statements_eq]⟩
  rw [hreads.statements_eq]
  exact layout_words 0 gs

/-! ## The assembly -/

section Assembly

variable {ev : Evaluator} {settings : Settings} {source : String}

/-- After a scan and a parse that succeed, an assembly is what generation makes of the parsed
statements. -/
theorem assemble_of_parsed {lines : Array String} {trace : Array TraceLine}
    {words : Array SourceWord}
    (hscan : scanSource ev settings settings.equates source = (lines, trace, .ok words))
    (hparse : (parseWords settings lines (words.size + 1) words.toList {}).2 = none) :
    let parsed := (parseWords settings lines (words.size + 1) words.toList {}).1
    let g := generateWords settings lines parsed.labels parsed.statements.toList #[] trace
    (assemble ev settings source).statements = g.1 ∧
      (assemble ev settings source).labels = parsed.labels ∧
      (assemble ev settings source).result = match g.2.2 with
        | some e => .error e
        | none => .ok { statements := g.1, size := settings.size } := by
  intro parsed g
  have hpair : parseWords settings lines (words.size + 1) words.toList {} = (parsed, none) :=
    Prod.ext rfl hparse
  simp only [assemble, hscan, hpair]
  exact ⟨rfl, trivial, rfl⟩

/-- After a scan and a parse that succeed, the assembly's statements are the parsed ones, the
first of them with their words generated; it gives a program when all of them have words, and
otherwise fails at the first of the rest. -/
theorem assemble_after_parse {lines : Array String} {trace : Array TraceLine}
    {words : Array SourceWord}
    (hscan : scanSource ev settings settings.equates source = (lines, trace, .ok words))
    (hparse : (parseWords settings lines (words.size + 1) words.toList {}).2 = none) :
    let parsed := (parseWords settings lines (words.size + 1) words.toList {}).1
    let sts := parsed.statements.toList
    ∃ pre : List Statement,
      (assemble ev settings source).labels = parsed.labels ∧
      (assemble ev settings source).statements.toList = pre ++ sts.drop pre.length ∧
      pre.map Statement.withoutWords = (sts.take pre.length).map Statement.withoutWords ∧
      (∀ st ∈ pre, st.Generated parsed.labels) ∧
      (((assemble ev settings source).result =
          .ok { statements := (assemble ev settings source).statements, size := settings.size } ∧
          pre.length = sts.length) ∨
        ∃ st e, sts[pre.length]? = some st ∧ st.Fails parsed.labels e ∧
          (assemble ev settings source).result = .error (atSourceLine lines st.lineNo e)) := by
  intro parsed sts
  obtain ⟨hst, hlab, hres⟩ := assemble_of_parsed hscan hparse
  obtain ⟨pre, hout, hshape, hgen, hend⟩ :=
    generateWords_run settings lines parsed.labels sts #[] trace
  refine ⟨pre, hlab, by rw [hst, hout]; simp, hshape, hgen, ?_⟩
  rcases hend with ⟨hnone, hlen⟩ | ⟨st, e, hget, hf, hsome⟩
  · exact Or.inl ⟨by rw [hres, hnone, hst], hlen⟩
  · exact Or.inr ⟨st, e, hget, hf, by rw [hres, hsome]⟩

/-- An assembly that gives a program has scanned and parsed its source. -/
theorem scanned_of_assemble_ok {prog : Program} (h : (assemble ev settings source).result = .ok prog) :
    ∃ lines trace words, scanSource ev settings settings.equates source = (lines, trace, .ok words) ∧
      (parseWords settings lines (words.size + 1) words.toList {}).2 = none := by
  unfold assemble at h
  rcases hs : scanSource ev settings settings.equates source with ⟨lines, trace, _ | words⟩
  · simp [hs] at h
  · rcases hp : parseWords settings lines (words.size + 1) words.toList {} with ⟨parsed, _ | e⟩
    · exact ⟨lines, trace, words, rfl, by simp [hp]⟩
    · simp [hs, hp] at h

/-- Finding a statement by its label, and reading its address, does not look at words. -/
theorem find?_label_ip {xs ys : List Statement}
    (h : xs.map Statement.withoutWords = ys.map Statement.withoutWords) (l : String) :
    (xs.find? fun st => st.label = some l).map (·.ip) =
      (ys.find? fun st => st.label = some l).map (·.ip) := by
  have hforget : ∀ zs : List Statement, (zs.find? fun st => st.label = some l).map (·.ip) =
      ((zs.map Statement.withoutWords).find? fun st => st.label = some l).map (·.ip) := by
    intro zs
    rw [List.find?_map, Option.map_map]
    rfl
  rw [hforget xs, hforget ys, h]

/-- A program's labels are those of their first definitions, and every statement's words are
the expansion of its operand, decoding to its instructions. -/
theorem assemble_program {prog : Program} (h : (assemble ev settings source).result = .ok prog) :
    prog.statements = (assemble ev settings source).statements ∧
    (∀ l, (assemble ev settings source).labels.lookup l =
      ((assemble ev settings source).statements.toList.find? fun st => st.label = some l).map
        (·.ip)) ∧
    ∀ st ∈ (assemble ev settings source).statements.toList,
      ∃ v, st.operand? (assemble ev settings source).labels = some v ∧
        st.mnemonic.expand v = .ok st.words ∧ st.mnemonic.Encodes v st.words := by
  obtain ⟨lines, trace, words, hscan, hparse⟩ := scanned_of_assemble_ok h
  obtain ⟨-, hfirst⟩ := parsed_statements settings lines words.toList
  rw [Array.length_toList] at hfirst
  obtain ⟨pre, hlab, hout, hshape, hgen, hend⟩ := assemble_after_parse hscan hparse
  rcases hend with ⟨hres, hlen⟩ | ⟨_, _, -, -, hres⟩
  · -- every statement got its words
    rw [hres, Except.ok.injEq] at h
    have hall : (assemble ev settings source).statements.toList = pre := by
      rw [hout, hlen, List.drop_length, List.append_nil]
    refine ⟨by rw [← h], fun l => ?_, fun st hst => ?_⟩
    · rw [hlab, hfirst, hall]
      refine find?_label_ip ?_ l
      rw [hshape, hlen, List.take_length]
    · rw [hall] at hst
      obtain ⟨v, hv, hw⟩ := hgen st hst
      exact ⟨v, by rw [hlab]; exact hv, hw, Mnemonic.encodes_of_expand hw⟩
  · rw [hres] at h
    exact absurd h (by simp)

/-- When scan and parse succeed but generation does not, the assembly fails at the first
statement whose label is not defined or whose operand lies outside `[0, 99]`; the statements
before it have their words, and neither it nor any later statement has any. -/
theorem assemble_generation_failure {lines : Array String} {trace : Array TraceLine}
    {words : Array SourceWord}
    (hscan : scanSource ev settings settings.equates source = (lines, trace, .ok words))
    (hparse : (parseWords settings lines (words.size + 1) words.toList {}).2 = none)
    {e : Error} (he : (assemble ev settings source).result = .error e) :
    ∃ i st err, (assemble ev settings source).statements.toList[i]? = some st ∧
      (∀ st' ∈ (assemble ev settings source).statements.toList.take i,
        st'.Generated (assemble ev settings source).labels) ∧
      st.Fails (assemble ev settings source).labels err ∧ e = atSourceLine lines st.lineNo err ∧
      ∀ st' ∈ (assemble ev settings source).statements.toList.drop i, st'.words = [] := by
  obtain ⟨hnil, -⟩ := parsed_statements settings lines words.toList
  rw [Array.length_toList] at hnil
  obtain ⟨pre, hlab, hout, -, hgen, hend⟩ := assemble_after_parse hscan hparse
  rcases hend with ⟨hres, -⟩ | ⟨st, err, hget, hf, hres⟩
  · rw [hres] at he
    exact absurd he (by simp)
  · rw [hres, Except.error.injEq] at he
    rw [hlab, hout]
    refine ⟨pre.length, st, err, ?_, ?_, hf, he.symm, ?_⟩
    · rw [List.getElem?_append_right (Nat.le_refl _), Nat.sub_self, List.getElem?_drop,
        Nat.add_zero]
      exact hget
    · simpa using hgen
    · -- what follows the generated statements is the parse's own, still without words
      intro st' hst'
      rw [List.drop_left] at hst'
      exact hnil st' (List.mem_of_mem_drop hst')

/-- Label resolution and code generation. An assembly that gives a program maps each label to
the address of the first statement defining it, and gives every statement the words its
mnemonic expands its operand to, which decode back to its instructions. When the scan and the
parse succeed but generation does not, the assembly fails at the line of the first statement
whose label is not defined or whose operand lies outside `[0, 99]`, and that statement and all
later ones have no words. -/
theorem assemble_resolves_labels (ev : Evaluator) (settings : Settings) (source : String) :
    let a := assemble ev settings source
    (∀ prog, a.result = .ok prog →
      prog.statements = a.statements ∧
      (∀ l, a.labels.lookup l =
        (a.statements.toList.find? fun st => st.label = some l).map (·.ip)) ∧
      ∀ st ∈ a.statements.toList, ∃ v, st.operand? a.labels = some v ∧
        st.mnemonic.expand v = .ok st.words ∧ st.mnemonic.Encodes v st.words) ∧
    ∀ lines trace words, scanSource ev settings settings.equates source = (lines, trace, .ok words) →
      (parseWords settings lines (words.size + 1) words.toList {}).2 = none →
      ∀ e, a.result = .error e →
        ∃ i st err, a.statements.toList[i]? = some st ∧
          (∀ st' ∈ a.statements.toList.take i, st'.Generated a.labels) ∧
          st.Fails a.labels err ∧ e = atSourceLine lines st.lineNo err ∧
          ∀ st' ∈ a.statements.toList.drop i, st'.words = [] :=
  ⟨fun _ h => assemble_program h,
    fun _ _ _ hscan hparse _ he => assemble_generation_failure hscan hparse he⟩

end Assembly

end DecimalMachine
