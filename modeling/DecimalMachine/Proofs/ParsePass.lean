import DecimalMachine.Proofs.StatementGrammar

/-!
# The parse pass follows the grammar

`parseWords` reads statements from the words one at a time. This module proves that it reads
exactly the grammar of `DecimalMachine.Proofs.StatementGrammar`.

* `Parsed.Reads p gs` is the invariant of the parse state: its statements are the run `gs` laid
  out from address 0, and each label maps to the address of the first statement defining it.
* One step either reads a statement that may follow the run (`parseWords_group`) or stops with
  the state it had (`parseWords_stuck`); by induction on the fuel the parse reads the longest
  admitted run (`parseWords_reads`).
* `parseWords_follows_grammar` collects what this means for a whole word list.
-/

namespace DecimalMachine

/-! ## The parse state -/

/-- The parse state after reading the run `gs`: its statements are the run laid out from
address 0, and each label maps to the address of the first statement that defines it. -/
structure Parsed.Reads (p : Parsed) (gs : List WordGroup) : Prop where
  statements_eq : p.statements.toList = layout 0 gs
  lookup_eq : ∀ l, p.labels.lookup l =
    ((layout 0 gs).find? fun st => st.label = some l).map (·.ip)

/-- The parse state after one more statement, read from the group `g`. -/
def Parsed.record (p : Parsed) (g : WordGroup) : Parsed :=
  { statements := p.statements.push (g.toStatement p.nextIp)
    labels := match g.labelText with
      | some l => if (p.labels.lookup l).isSome then p.labels else p.labels ++ [(l, p.nextIp)]
      | none => p.labels }

namespace Parsed.Reads

variable {p : Parsed} {gs : List WordGroup}

theorem empty : ({} : Parsed).Reads [] := ⟨rfl, fun _ => rfl⟩

theorem nextIp_eq (h : p.Reads gs) : p.nextIp = slotsOf gs := by
  unfold Parsed.nextIp
  rw [← Array.getLast?_toList, h.statements_eq]
  rcases List.eq_nil_or_concat gs with rfl | ⟨hs, g, rfl⟩
  · rfl
  · simp [layout_concat, WordGroup.toStatement]

theorem isSome_lookup (h : p.Reads gs) (l : String) :
    (p.labels.lookup l).isSome ↔ l ∈ labelsOf gs := by
  rw [h.lookup_eq, Option.isSome_map, List.find?_isSome, ← labels_layout 0, List.mem_filterMap]
  simp

theorem record (h : p.Reads gs) (g : WordGroup) : (p.record g).Reads (gs ++ [g]) where
  statements_eq := by simp [Parsed.record, h.statements_eq, layout_concat, h.nextIp_eq]
  lookup_eq l := by
    rw [layout_concat, List.find?_append, Option.map_or, ← h.lookup_eq]
    cases hlab : g.labelText with
    | none => simp [Parsed.record, hlab, WordGroup.toStatement]
    | some l0 =>
      -- a label defined before keeps its first address; a new one gets the next address
      by_cases hknown : (p.labels.lookup l0).isSome
      · simp only [Parsed.record, hlab, hknown, if_true]
        by_cases heq : l = l0
        · subst heq
          obtain ⟨x, hx⟩ := Option.isSome_iff_exists.mp hknown
          simp [hx]
        · simp [WordGroup.toStatement, hlab, Ne.symm heq]
      · simp only [Parsed.record, hlab, hknown, Bool.false_eq_true, if_false, List.lookup_append]
        by_cases heq : l = l0
        · subst heq
          simp [WordGroup.toStatement, hlab, h.nextIp_eq]
        · have hne : (l == l0) = false := by simpa using heq
          simp [List.lookup_cons, WordGroup.toStatement, hlab, hne, Ne.symm heq]

end Parsed.Reads

/-! ## One step of the parse -/

section Step

variable (s : Settings) (lines : Array String)

/-- A statement that may follow the run read so far is read, and parsing goes on after it. -/
theorem parseWords_group {p : Parsed} {gs : List WordGroup} (hp : p.Reads gs) {g : WordGroup}
    (hadm : Admits s (gs ++ [g])) (fuel : Nat) (rest : List SourceWord) :
    parseWords s lines (fuel + 1) (g.words ++ rest) p =
      parseWords s lines fuel rest (p.record g) := by
  have hfit := (admits_concat.mp hadm).2
  obtain ⟨w, r, hwr⟩ := List.exists_cons_of_ne_nil (by simp [g.words_ne_nil] : g.words ++ rest ≠ [])
  rw [hwr, parseWords, readHead_of_shaped hfit.wellFormed.toShaped hwr.symm]
  dsimp only
  rw [readArg_of_wellFormed hfit.wellFormed]
  dsimp only
  have hroom : ¬((p.nextIp : Int) + g.mnemonic.slots > s.size) := by
    rw [hp.nextIp_eq]
    exact Int.not_lt.mpr hfit.room
  rw [if_neg hroom]
  -- the label: new, or (only without strict assembly) defined before
  cases hlab : g.labelText with
  | none => simp [Parsed.record, WordGroup.toStatement, hlab]
  | some l =>
    by_cases hknown : (p.labels.lookup l).isSome
    · obtain ⟨ip0, hip⟩ := Option.isSome_iff_exists.mp hknown
      have hstrict : s.strict = false := by
        cases hs : s.strict
        · rfl
        · exact absurd ((hp.isSome_lookup l).mp hknown) (hfit.fresh hs l (by simp [hlab]))
      simp [hip, hstrict, Parsed.record, WordGroup.toStatement, hlab]
    · have hnone : p.labels.lookup l = none := Option.not_isSome_iff_eq_none.mp hknown
      simp [hnone, Parsed.record, WordGroup.toStatement, hlab]

/-- Words that begin with no statement that may follow the run read so far stop the parse,
which keeps the state it had. -/
theorem parseWords_stuck {p : Parsed} {gs : List WordGroup} (hp : p.Reads gs)
    (hgs : Admits s gs) (fuel : Nat) {w : SourceWord} {r : List SourceWord}
    (hno : ¬Extends s gs (w :: r)) :
    ∃ e, parseWords s lines (fuel + 1) (w :: r) p = (p, some e) := by
  rw [parseWords]
  cases hh : readHead w r with
  | error ne => exact ⟨_, rfl⟩
  | ok head =>
    obtain ⟨label, tok, mn, r1⟩ := head
    dsimp only
    cases ha : readArg tok mn r1 with
    | error ne => exact ⟨_, rfl⟩
    | ok arg =>
      obtain ⟨value, link, rest⟩ := arg
      dsimp only
      obtain ⟨g, hwf, hwords, hlabel, hmn, -⟩ := read_ok hh ha
      -- a parse that went on would have extended the run by `g`
      have extend : (p.nextIp : Int) + mn.slots ≤ s.size →
          (s.strict = true → ∀ l ∈ label, l ∉ labelsOf gs) → False := by
        intro hroom hfresh
        apply hno
        refine ⟨g, rest, hwords, admits_concat.mpr ⟨hgs, hwf, ?_, ?_⟩⟩
        · rw [← hp.nextIp_eq, hmn]
          exact hroom
        · rw [hlabel]
          exact hfresh
      split
      · exact ⟨_, rfl⟩
      · next hroom =>
        split
        · split
          · exact ⟨_, rfl⟩
          · next hstrict => exact (extend (by omega) (fun hs => absurd hs hstrict)).elim
        · next label hnot =>
          refine (extend (by omega) fun _ l hl hmem => ?_).elim
          obtain ⟨ip0, hip⟩ := Option.isSome_iff_exists.mp ((hp.isSome_lookup l).mpr hmem)
          rw [Option.mem_def] at hl
          exact hnot l ip0 hl (by simp [hl, hip])

/-- With fuel to spare, parsing from a state that has read an admitted run reads the longest
run of statements that may follow it, and fails exactly when words are left over. -/
theorem parseWords_reads {p : Parsed} {gs : List WordGroup} (hp : p.Reads gs) (hgs : Admits s gs)
    {fuel : Nat} {W : List SourceWord} (hfuel : W.length < fuel) :
    ∃ hs rest, W = hs.flatMap WordGroup.words ++ rest ∧ Admits s (gs ++ hs) ∧
      (parseWords s lines fuel W p).1.Reads (gs ++ hs) ∧
      ((parseWords s lines fuel W p).2 = none ↔ rest = []) ∧ ¬Extends s (gs ++ hs) rest := by
  induction fuel generalizing W p gs with
  | zero => exact absurd hfuel (Nat.not_lt_zero _)
  | succ fuel ih =>
    cases W with
    | nil =>
      refine ⟨[], [], rfl, by simpa using hgs, ?_, by simp [parseWords], by
        simpa using not_extends_nil s gs⟩
      simpa [parseWords] using hp
    | cons w r =>
      by_cases hext : Extends s gs (w :: r)
      · obtain ⟨g, more, hW, hadm⟩ := hext
        have hlen : more.length < fuel := by
          have hpos : 0 < g.words.length := List.length_pos_iff.mpr g.words_ne_nil
          have := congrArg List.length hW
          simp only [List.length_cons, List.length_append] at this hfuel
          omega
        obtain ⟨hs, rest, hmore, hadm', hreads, herr, hmax⟩ := ih (hp.record g) hadm hlen
        rw [hW, parseWords_group s lines hp hadm]
        refine ⟨g :: hs, rest, by simp [hmore], ?_⟩
        rw [show gs ++ g :: hs = gs ++ [g] ++ hs by simp]
        exact ⟨hadm', hreads, herr, hmax⟩
      · obtain ⟨e, he⟩ := parseWords_stuck s lines hp hgs fuel hext
        refine ⟨[], w :: r, rfl, by simpa using hgs, ?_, by simp [he], by simpa using hext⟩
        simpa [he] using hp

end Step

/-! ## The grammar of the parse -/

section Grammar

variable (s : Settings) (lines : Array String)

/-- The parse reads the longest admitted run of statements at the front of the words, lays them
out from address 0, and fails exactly when words are left over. -/
theorem parseWords_longest_run (W : List SourceWord) :
    ∃ gs rest, W = gs.flatMap WordGroup.words ++ rest ∧ Admits s gs ∧
      (parseWords s lines (W.length + 1) W {}).1.Reads gs ∧
      ((parseWords s lines (W.length + 1) W {}).2 = none ↔ rest = []) ∧ ¬Extends s gs rest := by
  simpa using parseWords_reads s lines Parsed.Reads.empty Admits.nil (Nat.lt_succ_self W.length)

/-- The parse succeeds exactly when the whole word list is an admitted run of statements. -/
theorem parseWords_ok_iff (W : List SourceWord) :
    (parseWords s lines (W.length + 1) W {}).2 = none ↔
      ∃ gs, W = gs.flatMap WordGroup.words ∧ Admits s gs := by
  obtain ⟨hs, rest, hW, hadm, -, herr, hmax⟩ := parseWords_longest_run s lines W
  rw [herr]
  constructor
  · rintro rfl
    exact ⟨hs, by simpa using hW, hadm⟩
  · rintro ⟨gs, hgs, hadm'⟩
    -- the whole list is a longest run too, so it is the one the parse found
    have := maximal_run_unique [] (by simpa using hadm) (by simpa using hadm')
      (show hs.flatMap WordGroup.words ++ rest = gs.flatMap WordGroup.words ++ [] by
        rw [List.append_nil, ← hgs, ← hW])
      (by simpa using hmax) (by simpa using not_extends_nil s gs)
    exact this.2

/-- Where the words stand on lines changes the statements read only in their line numbers, and
not whether the parse succeeds. -/
theorem parseWords_unplaced (lines' : Array String) {W W' : List SourceWord}
    (hW : W'.map (·.text) = W.map (·.text)) :
    (parseWords s lines' (W'.length + 1) W' {}).1.statements.toList.map Statement.unplaced =
        (parseWords s lines (W.length + 1) W {}).1.statements.toList.map Statement.unplaced ∧
      ((parseWords s lines' (W'.length + 1) W' {}).2 = none ↔
        (parseWords s lines (W.length + 1) W {}).2 = none) := by
  obtain ⟨hs, rest, hW1, hadm, hreads, herr, hmax⟩ := parseWords_longest_run s lines W
  obtain ⟨hs', rest', hW1', hadm', hreads', herr', hmax'⟩ := parseWords_longest_run s lines' W'
  have hforget : ∀ V : List SourceWord,
      V.map SourceWord.unplaced = (V.map (·.text)).map fun t => ⟨t, 0⟩ := by
    intro V
    simp [Function.comp_def, SourceWord.unplaced]
  -- with lines forgotten both word lists are the same, and so are their longest runs
  have hsame : W'.map SourceWord.unplaced = W.map SourceWord.unplaced := by
    rw [hforget, hforget W, hW]
  have hsplit := maximal_run_unique [] (by simpa using admits_map_unplaced.mpr hadm')
    (by simpa using admits_map_unplaced.mpr hadm)
    (by rw [flatMap_words_unplaced, flatMap_words_unplaced, ← List.map_append, ← List.map_append,
      ← hW1, ← hW1', hsame])
    (by simpa using mt extends_map_unplaced.mp hmax')
    (by simpa using mt extends_map_unplaced.mp hmax)
  constructor
  · rw [hreads.statements_eq, hreads'.statements_eq, ← layout_map_unplaced, ← layout_map_unplaced,
      hsplit.1]
  · rw [herr, herr', ← List.map_eq_nil_iff (f := SourceWord.unplaced), hsplit.2,
      List.map_eq_nil_iff]

/-- The parser accepts exactly its grammar. The statements read are those of the longest
admitted run of statements at the front of the words, each at the address after the ones before
it; the parse succeeds exactly when that run covers every word; shaped statements split words
one way only; and where the words stand on lines changes nothing but line numbers. -/
theorem parseWords_follows_grammar (W : List SourceWord) :
    let r := parseWords s lines (W.length + 1) W {}
    (∃ gs rest, W = gs.flatMap WordGroup.words ++ rest ∧ Admits s gs ∧
      r.1.statements.toList = layout 0 gs ∧ (r.2 = none ↔ rest = []) ∧ ¬Extends s gs rest) ∧
    (r.2 = none ↔ ∃ gs, W = gs.flatMap WordGroup.words ∧ Admits s gs) ∧
    (∀ gs gs' : List WordGroup, W = gs.flatMap WordGroup.words → W = gs'.flatMap WordGroup.words →
      (∀ g ∈ gs, g.Shaped) → (∀ g ∈ gs', g.Shaped) → gs = gs') ∧
    ∀ (W' : List SourceWord) (lines' : Array String), W'.map (·.text) = W.map (·.text) →
      let r' := parseWords s lines' (W'.length + 1) W' {}
      r'.1.statements.toList.map Statement.unplaced =
        r.1.statements.toList.map Statement.unplaced ∧ (r'.2 = none ↔ r.2 = none) := by
  intro r
  refine ⟨?_, parseWords_ok_iff s lines W, ?_,
    fun W' lines' hW => parseWords_unplaced s lines lines' hW⟩
  · obtain ⟨gs, rest, hW, hadm, hreads, herr, hmax⟩ := parseWords_longest_run s lines W
    exact ⟨gs, rest, hW, hadm, hreads.statements_eq, herr, hmax⟩
  · rintro gs gs' rfl he h1 h2
    exact split_unique h1 h2 he

end Grammar

end DecimalMachine
