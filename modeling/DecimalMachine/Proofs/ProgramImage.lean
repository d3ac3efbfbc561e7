import Mathlib
import DecimalMachine.Proofs.CodeGeneration

/-!
# The memory image of an assembled program

An assembly places its statements one after the other from address 0, and the memory image of
a program holds their words at their addresses and zeros everywhere else. This module proves
that layout for every assembly.

* `Placed ip sts` says the statements `sts` follow each other without gaps from `ip`. Every
  assembly, whether it gives a program or not, leaves its statements placed from 0
  (`assemble_placed`), with no more slots than memory (`assemble_totalSlots_le`).
* `Mnemonic.length_expand`: a mnemonic expands to as many words as it has slots, so a program
  is as long as its slots add up to (`Program.length_eq_totalSlots`).
* `Program.binary_toList`: the image is the statements' words in order, padded with zeros. It
  follows that each statement's words stand at its address, every other word is zero, and no
  two statements share an address (`assemble_layout`).

A negative memory size leaves no room for any statement: only the empty program assembles,
and its image is empty (`empty_image_of_negative_size`).
-/

namespace DecimalMachine

/-! ## Statements placed one after another -/

/-- The slots a list of statements fills. -/
def totalSlots : List Statement → Nat
  | [] => 0
  | st :: sts => st.mnemonic.slots + totalSlots sts

@[simp] theorem totalSlots_nil : totalSlots [] = 0 := rfl

@[simp] theorem totalSlots_cons (st : Statement) (sts : List Statement) :
    totalSlots (st :: sts) = st.mnemonic.slots + totalSlots sts := rfl

@[simp] theorem totalSlots_append (xs ys : List Statement) :
    totalSlots (xs ++ ys) = totalSlots xs + totalSlots ys := by
  induction xs with
  | nil => simp
  | cons st xs ih => simp [ih, Nat.add_assoc]

/-- Statements each as long as their slots have as many words together as slots. -/
theorem length_flatMap_words {sts : List Statement}
    (hw : ∀ st ∈ sts, st.words.length = st.mnemonic.slots) :
    (sts.flatMap (·.words)).length = totalSlots sts := by
  induction sts with
  | nil => rfl
  | cons st sts ih =>
    rw [List.flatMap_cons, List.length_append, hw st (by simp),
      ih fun x hx => hw x (by simp [hx]), totalSlots_cons]

/-- The statements `sts` follow each other from address `ip`: each begins where the one before
it ends. -/
def Placed : Nat → List Statement → Prop
  | _, [] => True
  | ip, st :: sts => st.ip = ip ∧ Placed (ip + st.mnemonic.slots) sts

namespace Placed

variable {ip : Nat} {sts : List Statement}

theorem append {xs ys : List Statement} :
    Placed ip (xs ++ ys) ↔ Placed ip xs ∧ Placed (ip + totalSlots xs) ys := by
  induction xs generalizing ip with
  | nil => simp [Placed]
  | cons st xs ih => simp [Placed, ih, Nat.add_assoc, and_assoc]

/-- Statement `i` begins after the slots of the statements before it. -/
theorem ip_eq (h : Placed ip sts) (i : Nat) (hi : i < sts.length) :
    sts[i].ip = ip + totalSlots (sts.take i) := by
  induction sts generalizing ip i with
  | nil => simp at hi
  | cons st sts ih =>
    obtain ⟨hst, hrest⟩ := h
    cases i with
    | zero => simp [hst]
    | succ i =>
      rw [List.getElem_cons_succ, ih hrest i (by simpa using hi)]
      simp [Nat.add_assoc]

/-- No statement begins before the first address. -/
theorem le_ip (h : Placed ip sts) : ∀ st ∈ sts, ip ≤ st.ip := by
  induction sts generalizing ip with
  | nil => simp
  | cons st sts ih =>
    obtain ⟨hst, hrest⟩ := h
    intro x hx
    rcases List.mem_cons.mp hx with rfl | hx
    · exact Nat.le_of_eq hst.symm
    · have := ih hrest x hx
      omega

/-- A statement ends no later than any statement after it begins. -/
theorem apart (h : Placed ip sts) {i i' : Nat} (hi : i < sts.length) (hi' : i' < sts.length)
    (hlt : i < i') : sts[i].ip + sts[i].mnemonic.slots ≤ sts[i'].ip := by
  induction sts generalizing ip i i' with
  | nil => simp at hi
  | cons st sts ih =>
    obtain ⟨hst, hrest⟩ := h
    obtain ⟨i', rfl⟩ := Nat.exists_eq_add_of_lt hlt
    cases i with
    | zero =>
      -- every later statement lies in the run placed after the first
      have := hrest.le_ip _ (List.getElem_mem (l := sts) (n := i') (by simp at hi'; omega))
      simp only [List.getElem_cons_zero, Nat.zero_add, List.getElem_cons_succ]
      omega
    | succ i =>
      simp only [List.getElem_cons_succ, Nat.add_right_comm i 1 i']
      exact ih hrest (by simpa using hi) (by simp at hi'; omega) (by omega)

/-- Every address of the run lies in one of its statements. -/
theorem exists_covering (h : Placed ip sts) {a : Nat} (hlo : ip ≤ a)
    (hhi : a < ip + totalSlots sts) :
    ∃ i, ∃ hi : i < sts.length, sts[i].ip ≤ a ∧ a < sts[i].ip + sts[i].mnemonic.slots := by
  induction sts generalizing ip with
  | nil => simp at hhi; omega
  | cons st sts ih =>
    obtain ⟨hst, hrest⟩ := h
    simp only [totalSlots_cons] at hhi
    by_cases hfirst : a < ip + st.mnemonic.slots
    · exact ⟨0, by simp, by simp [hst]; omega, by simp [hst]; omega⟩
    · obtain ⟨i, hi, hcov⟩ := ih hrest (by omega) (by omega)
      exact ⟨i + 1, by simpa using hi, by simpa using hcov⟩

theorem getElem_zero (h : Placed ip sts) (hi : 0 < sts.length) : sts[0].ip = ip := by
  simpa using h.ip_eq 0 hi

/-- Each statement begins where the one before it ends. -/
theorem getElem_succ (h : Placed ip sts) (i : Nat) (hi : i + 1 < sts.length) :
    sts[i + 1].ip = sts[i].ip + sts[i].mnemonic.slots := by
  rw [h.ip_eq (i + 1) hi, h.ip_eq i (by omega), List.take_add_one, totalSlots_append,
    List.getElem?_eq_getElem (by omega)]
  simp [Nat.add_assoc]

/-- Two addresses of the run that are equal lie in the same statement, at the same place. -/
theorem eq_of_ip_add_eq (h : Placed ip sts) {i i' j j' : Nat} (hi : i < sts.length)
    (hi' : i' < sts.length) (hj : j < sts[i].mnemonic.slots) (hj' : j' < sts[i'].mnemonic.slots)
    (heq : sts[i].ip + j = sts[i'].ip + j') : i = i' ∧ j = j' := by
  rcases Nat.lt_trichotomy i i' with hlt | rfl | hgt
  · have := h.apart hi hi' hlt
    omega
  · exact ⟨rfl, by omega⟩
  · have := h.apart hi' hi hgt
    omega

end Placed

/-- Every mnemonic fills at least one slot. -/
theorem Mnemonic.slots_pos (mn : Mnemonic) : 0 < mn.slots := by
  cases mn <;> simp [Mnemonic.slots]

theorem totalSlots_eq_zero {sts : List Statement} : totalSlots sts = 0 ↔ sts = [] := by
  cases sts with
  | nil => simp
  | cons st sts =>
    have := st.mnemonic.slots_pos
    simp only [totalSlots_cons, reduceCtorEq, iff_false]
    omega

/-- Statements laid out by the parse are placed from their first address. -/
theorem placed_layout (ip : Nat) (gs : List WordGroup) : Placed ip (layout ip gs) := by
  induction gs generalizing ip with
  | nil => trivial
  | cons g gs ih => exact ⟨rfl, ih _⟩

theorem totalSlots_layout (ip : Nat) (gs : List WordGroup) :
    totalSlots (layout ip gs) = slotsOf gs := by
  induction gs generalizing ip with
  | nil => rfl
  | cons g gs ih => simp [layout, slotsOf, ih, WordGroup.toStatement]

/-- Placement and slots do not look at the words. -/
theorem placed_withoutWords (ip : Nat) (sts : List Statement) :
    Placed ip (sts.map Statement.withoutWords) ↔ Placed ip sts := by
  induction sts generalizing ip with
  | nil => simp [Placed]
  | cons st sts ih => simp [Placed, ih, Statement.withoutWords]

theorem totalSlots_withoutWords (sts : List Statement) :
    totalSlots (sts.map Statement.withoutWords) = totalSlots sts := by
  induction sts with
  | nil => rfl
  | cons st sts ih => simp [ih, Statement.withoutWords]

/-! ## What every assembly leaves

Whatever pass stops an assembly, the statements it keeps are those of an admitted run laid out
from address 0, the first of them perhaps with their words. -/

section Assembly

variable (ev : Evaluator) (settings : Settings) (source : String)

theorem layout_withoutWords (ip : Nat) (gs : List WordGroup) :
    (layout ip gs).map Statement.withoutWords = layout ip gs := by
  induction gs generalizing ip with
  | nil => rfl
  | cons g gs ih => simp [layout, ih, Statement.withoutWords, WordGroup.toStatement]

/-- The statements of every assembly, with their words forgotten, are an admitted run laid out
from address 0. -/
theorem assemble_statements_laid_out :
    ∃ gs, Admits settings gs ∧
      (assemble ev settings source).statements.toList.map Statement.withoutWords = layout 0 gs := by
  rcases hs : scanSource ev settings settings.equates source with ⟨lines, trace, _ | words⟩
  · -- the scan stopped before any statement was read
    exact ⟨[], Admits.nil, by simp [assemble, hs, layout]⟩
  · obtain ⟨gs, rest, -, hadm, hreads, -, -⟩ := parseWords_longest_run settings lines words.toList
    rw [Array.length_toList] at hreads
    refine ⟨gs, hadm, ?_⟩
    rcases hp : parseWords settings lines (words.size + 1) words.toList {} with ⟨parsed, _ | e⟩
    · -- generation changes words only
      obtain ⟨pre, -, hout, hshape, -, -⟩ := assemble_after_parse hs (by simp [hp])
      rw [hp] at hreads hout hshape
      rw [hout, List.map_append, hshape, ← List.map_append, List.take_append_drop,
        hreads.statements_eq, layout_withoutWords]
    · -- the parse stopped, keeping the statements read before
      rw [hp] at hreads
      simp only [assemble, hs, hp]
      rw [hreads.statements_eq, layout_withoutWords]

/-- The statements of every assembly, whether it gives a program or not, are placed one after
the other from address 0. -/
theorem assemble_placed : Placed 0 (assemble ev settings source).statements.toList := by
  obtain ⟨gs, -, hgs⟩ := assemble_statements_laid_out ev settings source
  rw [← placed_withoutWords, hgs]
  exact placed_layout 0 gs

/-- An assembly keeps no more slots than memory has, and none when memory has a negative
size. -/
theorem assemble_totalSlots_le :
    totalSlots (assemble ev settings source).statements.toList ≤ settings.size.toNat := by
  obtain ⟨gs, hadm, hgs⟩ := assemble_statements_laid_out ev settings source
  rw [← totalSlots_withoutWords, hgs, totalSlots_layout]
  rcases List.eq_nil_or_concat gs with rfl | ⟨hs, g, rfl⟩
  · simp [slotsOf]
  · have := hadm.within _ (List.prefix_refl _) (by simp)
    omega

end Assembly

/-! ## Words and slots

`Mnemonic.slots` and `Mnemonic.expand` are two tables; they agree on every mnemonic. -/

/-- A mnemonic expands to exactly as many words as it has slots. -/
theorem Mnemonic.length_expand {mn : Mnemonic} {v : Int} {ws : List Int}
    (h : mn.expand v = .ok ws) : ws.length = mn.slots := by
  cases mn with
  | data =>
    simp only [expand, Except.ok.injEq] at h
    simp [← h, slots]
  | coffeeBreak | op _ =>
    -- one encoded word, or a failure
    simp only [expand, bind, Except.bind] at h
    split at h
    · simp at h
    · simp only [pure, Except.pure, Except.ok.injEq] at h
      simp [← h, slots]
  | pushImmediate | callRoutine =>
    simp only [expand, bind, Except.bind] at h
    split at h
    · simp at h
    · simp only [pure, Except.pure, Except.ok.injEq] at h
      simp [← h, slots]

/-! ## The memory image

`Program.binary` writes each statement's words at its address into a zeroed image. For
statements placed one after another, each as long as its slots, the image is their words in
order, padded with zeros. -/

/-- Write the words of a statement at its address. -/
def Statement.place (img : Array Int) (s : Statement) : Array Int :=
  s.words.zipIdx.foldl (fun img (w, k) => img.set! (s.ip + k) w) img

/-- The number of words in the image of a program: the memory size (the default for 0), or
the program's length when that is larger. -/
def Program.imageSize (p : Program) : Nat :=
  max (if p.size == 0 then (defaultMemory : Int) else p.size).toNat p.length

theorem Program.binary_eq (p : Program) :
    p.binary = p.statements.toList.foldl Statement.place (Array.replicate p.imageSize 0) := by
  rw [Array.foldl_toList]
  rfl

/-- Writing words `ws` from address `a + k` on keeps the image before and after them. -/
theorem toList_foldl_set (a : Nat) (ws : List Int) (k : Nat) (img : Array Int)
    (h : a + k + ws.length ≤ img.size) :
    ((ws.zipIdx k).foldl (fun img (w, j) => img.set! (a + j) w) img).toList =
      img.toList.take (a + k) ++ ws ++ img.toList.drop (a + k + ws.length) := by
  induction ws generalizing k img with
  | nil => simp
  | cons w ws ih =>
    simp only [List.length_cons] at h
    have hk : a + k < img.toList.length := by simp; omega
    rw [List.zipIdx_cons, List.foldl_cons, ih (k + 1) _ (by simp; omega)]
    simp only [Array.set!_eq_setIfInBounds, Array.toList_setIfInBounds]
    -- the first word replaces the one at `a + k`; the rest of the image is untouched
    have htake : (img.toList.set (a + k) w).take (a + (k + 1)) =
        img.toList.take (a + k) ++ [w] := by
      have hlen : (img.toList.take (a + k)).length = a + k := by simp; omega
      rw [List.set_eq_take_append_cons_drop, if_pos hk, List.take_append, hlen,
        show a + (k + 1) - (a + k) = 1 by omega, List.take_of_length_le (by omega)]
      rfl
    have hdrop : (img.toList.set (a + k) w).drop (a + (k + 1) + ws.length) =
        img.toList.drop (a + k + (ws.length + 1)) := by
      rw [List.drop_set, if_pos (by omega)]
      congr 1
      omega
    rw [htake, hdrop]
    simp

theorem Statement.toList_place (img : Array Int) (s : Statement)
    (h : s.ip + s.words.length ≤ img.size) :
    (s.place img).toList =
      img.toList.take s.ip ++ s.words ++ img.toList.drop (s.ip + s.words.length) := by
  have hset := toList_foldl_set s.ip s.words 0 img (by simpa using h)
  rw [Nat.add_zero] at hset
  exact hset

theorem Statement.size_place (img : Array Int) (s : Statement) : (s.place img).size = img.size := by
  unfold Statement.place
  generalize s.words.zipIdx = ws
  induction ws generalizing img with
  | nil => rfl
  | cons x ws ih =>
    rw [List.foldl_cons, ih]
    simp

theorem size_foldl_place (sts : List Statement) (img : Array Int) :
    (sts.foldl Statement.place img).size = img.size := by
  induction sts generalizing img with
  | nil => rfl
  | cons st sts ih => rw [List.foldl_cons, ih, Statement.size_place]

theorem Program.size_binary (p : Program) : p.binary.size = p.imageSize := by
  rw [Program.binary_eq, size_foldl_place, Array.size_replicate]

/-- Placing statements that follow each other from `a`, each as long as its slots, writes their
words in order from `a` and keeps the rest of the image. -/
theorem toList_foldl_place {a : Nat} {sts : List Statement} (hp : Placed a sts)
    (hw : ∀ st ∈ sts, st.words.length = st.mnemonic.slots) (img : Array Int)
    (h : a + totalSlots sts ≤ img.size) :
    (sts.foldl Statement.place img).toList =
      img.toList.take a ++ sts.flatMap (·.words) ++ img.toList.drop (a + totalSlots sts) := by
  induction sts generalizing a img with
  | nil => simp
  | cons st sts ih =>
    obtain ⟨hst, hrest⟩ := hp
    have hlen : st.words.length = st.mnemonic.slots := hw st (by simp)
    simp only [totalSlots_cons] at h
    have hsize : (st.place img).size = img.size := Statement.size_place img st
    have hplace := Statement.toList_place img st (by omega)
    rw [List.foldl_cons, ih hrest (fun x hx => hw x (by simp [hx])) _ (by omega), hplace]
    -- what the rest is written over is the image just written by `st`
    have hfront : (img.toList.take st.ip ++ st.words ++
        img.toList.drop (st.ip + st.words.length)).take (a + st.mnemonic.slots) =
          img.toList.take a ++ st.words := by
      rw [List.take_append, List.length_append, List.length_take, Array.length_toList,
        Nat.min_eq_left (by omega), hst, hlen, Nat.sub_self, List.take_zero, List.append_nil,
        List.take_of_length_le (by simp; omega)]
    have hback : (img.toList.take st.ip ++ st.words ++
        img.toList.drop (st.ip + st.words.length)).drop (a + st.mnemonic.slots + totalSlots sts) =
          img.toList.drop (a + (st.mnemonic.slots + totalSlots sts)) := by
      rw [List.drop_append, List.length_append, List.length_take, Array.length_toList,
        Nat.min_eq_left (by omega), hst, hlen, List.drop_eq_nil_of_le (by simp; omega),
        List.nil_append, List.drop_drop]
      congr 1
      omega
    rw [hfront, hback]
    simp

/-- A program is as long as the slots of its statements, when they are placed from 0 and each
is as long as its slots. -/
theorem Program.length_eq_totalSlots {p : Program} (hp : Placed 0 p.statements.toList)
    (hw : ∀ st ∈ p.statements.toList, st.words.length = st.mnemonic.slots) :
    p.length = totalSlots p.statements.toList := by
  unfold Program.length
  rw [← Array.getLast?_toList]
  rcases List.eq_nil_or_concat p.statements.toList with hnil | ⟨xs, s, hxs⟩
  · simp [hnil]
  · rw [List.concat_eq_append] at hxs
    rw [hxs] at hp hw ⊢
    have hs : s.ip = totalSlots xs := by
      simpa [Placed] using (Placed.append.mp hp).2
    simp [hs, hw s (by simp)]

/-- The image of a program placed from 0: its words in order, then zeros. -/
theorem Program.binary_toList {p : Program} (hp : Placed 0 p.statements.toList)
    (hw : ∀ st ∈ p.statements.toList, st.words.length = st.mnemonic.slots) :
    p.binary.toList = p.statements.toList.flatMap (·.words) ++
      List.replicate (p.imageSize - totalSlots p.statements.toList) 0 := by
  have hlen := Program.length_eq_totalSlots hp hw
  have hroom : 0 + totalSlots p.statements.toList ≤ (Array.replicate p.imageSize (0 : Int)).size := by
    rw [Array.size_replicate, Program.imageSize, hlen, Nat.zero_add]
    exact Nat.le_max_right _ _
  rw [Program.binary_eq, toList_foldl_place hp hw _ hroom]
  simp

/-- The words of statement `i` stand in the concatenated words at its address. -/
theorem getElem?_flatMap_words {sts : List Statement} (hp : Placed 0 sts)
    (hw : ∀ st ∈ sts, st.words.length = st.mnemonic.slots) (i : Nat) (hi : i < sts.length)
    (j : Nat) (hj : j < sts[i].mnemonic.slots) :
    (sts.flatMap (·.words))[sts[i].ip + j]? = sts[i].words[j]? := by
  have hbefore : ((sts.take i).flatMap (·.words)).length = totalSlots (sts.take i) :=
    length_flatMap_words fun st hst => hw st (List.mem_of_mem_take hst)
  have hsplit : sts.flatMap (·.words) =
      (sts.take i).flatMap (·.words) ++ (sts[i].words ++ (sts.drop (i + 1)).flatMap (·.words)) := by
    rw [← List.flatMap_cons, ← List.drop_eq_getElem_cons hi, ← List.flatMap_append,
      List.take_append_drop]
  have hlen := hw sts[i] (List.getElem_mem hi)
  rw [hp.ip_eq i hi, Nat.zero_add, hsplit, List.getElem?_append_right (by omega), hbefore,
    Nat.add_sub_cancel_left, List.getElem?_append_left (by omega)]

namespace Program

variable {p : Program} (hp : Placed 0 p.statements.toList)
  (hw : ∀ st ∈ p.statements.toList, st.words.length = st.mnemonic.slots)
include hp hw

/-- The words of each statement stand at its address in the image. -/
theorem binary_getElem?_word (i : Nat) (hi : i < p.statements.size) (j : Nat)
    (hj : j < p.statements[i].mnemonic.slots) :
    p.binary[p.statements[i].ip + j]? = p.statements[i].words[j]? := by
  have hword := getElem?_flatMap_words hp hw i (by simpa using hi) j (by simpa using hj)
  simp only [Array.getElem_toList] at hword
  have hlen : p.statements[i].words.length = p.statements[i].mnemonic.slots := hw _ (by simp)
  have hin : p.statements[i].ip + j < (p.statements.toList.flatMap (·.words)).length := by
    have hsome : (p.statements.toList.flatMap (·.words))[p.statements[i].ip + j]?.isSome := by
      rw [hword]
      simpa [hlen] using hj
    simpa using hsome
  rw [← Array.getElem?_toList, binary_toList hp hw, List.getElem?_append_left hin, hword]

/-- A word of the image that no statement covers is zero. -/
theorem binary_getElem?_uncovered {a : Nat} (ha : a < p.binary.size)
    (hout : ∀ i (hi : i < p.statements.size), ¬(p.statements[i].ip ≤ a ∧
      a < p.statements[i].ip + p.statements[i].mnemonic.slots)) :
    p.binary[a]? = some 0 := by
  -- the statements cover every address below the program's length
  have hpast : totalSlots p.statements.toList ≤ a := by
    refine Nat.le_of_not_lt fun hlt => ?_
    obtain ⟨i, hi, hcov⟩ := hp.exists_covering (Nat.zero_le a) (by simpa using hlt)
    exact hout i (by simpa using hi) (by simpa using hcov)
  have hflat := length_flatMap_words hw
  rw [Program.size_binary] at ha
  rw [← Array.getElem?_toList, binary_toList hp hw, List.getElem?_append_right (by omega), hflat,
    List.getElem?_replicate, if_pos (by omega)]

end Program

/-! ## The layout of an assembled program -/

section Layout

variable {ev : Evaluator} {settings : Settings} {source : String}

theorem Settings.size_ne_zero (settings : Settings) : settings.size ≠ 0 := by
  unfold Settings.size
  split
  · simp [defaultMemory]
  · next h => simpa using h

/-- A program an assembly gives is laid out for the memory size it was assembled for. -/
theorem assemble_program_size {p : Program} (h : (assemble ev settings source).result = .ok p) :
    p.size = settings.size := by
  obtain ⟨lines, trace, words, hscan, hparse⟩ := scanned_of_assemble_ok h
  obtain ⟨-, -, hres⟩ := assemble_of_parsed hscan hparse
  rw [hres] at h
  split at h
  · simp at h
  · simp only [Except.ok.injEq] at h
    rw [← h]

/-- A program an assembly gives is placed from 0, each statement as long as its slots, and its
image has as many words as memory (none for a negative size). -/
theorem assemble_program_image {p : Program} (h : (assemble ev settings source).result = .ok p) :
    p.statements = (assemble ev settings source).statements ∧
      Placed 0 p.statements.toList ∧
      (∀ st ∈ p.statements.toList, st.words.length = st.mnemonic.slots) ∧
      p.length = totalSlots p.statements.toList ∧
      p.length ≤ settings.size.toNat ∧
      p.imageSize = settings.size.toNat := by
  obtain ⟨hsts, -, hexp⟩ := assemble_program h
  have hsize := assemble_program_size h
  have hp : Placed 0 p.statements.toList := hsts ▸ assemble_placed ev settings source
  have hw : ∀ st ∈ p.statements.toList, st.words.length = st.mnemonic.slots := by
    intro st hst
    rw [hsts] at hst
    obtain ⟨v, -, hv, -⟩ := hexp st hst
    exact Mnemonic.length_expand hv
  have hlen := Program.length_eq_totalSlots hp hw
  have hle : p.length ≤ settings.size.toNat := by
    rw [hlen, hsts]
    exact assemble_totalSlots_le ev settings source
  refine ⟨hsts, hp, hw, hlen, hle, ?_⟩
  have hne : (settings.size == 0) = false := by
    simpa using settings.size_ne_zero
  simp only [Program.imageSize, hsize, hne, Bool.false_eq_true, if_false]
  exact Nat.max_eq_left hle

end Layout

/-- The layout of an assembled program. The statements of every assembly, whether it gives a
program or not, begin at address 0 and each begins where the one before it ends. A program an
assembly gives has statements exactly as long as their slots, is as long as their slots add up
to, which is at most the memory size (no statement at all for a negative size), and has an image
of as many words as memory: each statement's words at its address, no two statements sharing
an address, and zero everywhere else. -/
theorem assemble_layout (ev : Evaluator) (settings : Settings) (source : String) :
    let a := assemble ev settings source
    ((∀ h : 0 < a.statements.size, a.statements[0].ip = 0) ∧
      ∀ i (h : i + 1 < a.statements.size),
        a.statements[i + 1].ip = a.statements[i].ip + a.statements[i].mnemonic.slots) ∧
    ∀ p, a.result = .ok p →
      p.statements = a.statements ∧
      (∀ st ∈ p.statements, st.words.length = st.mnemonic.slots) ∧
      p.length = totalSlots p.statements.toList ∧ p.length ≤ settings.size.toNat ∧
      (settings.size < 0 → p.statements = #[]) ∧
      p.binary.size = settings.size.toNat ∧
      (∀ i (hi : i < p.statements.size) j, j < p.statements[i].mnemonic.slots →
        p.binary[p.statements[i].ip + j]? = p.statements[i].words[j]?) ∧
      (∀ i i' (hi : i < p.statements.size) (hi' : i' < p.statements.size) j j',
        j < p.statements[i].mnemonic.slots → j' < p.statements[i'].mnemonic.slots →
        p.statements[i].ip + j = p.statements[i'].ip + j' → i = i' ∧ j = j') ∧
      ∀ addr < p.binary.size,
        (∀ i (hi : i < p.statements.size), ¬(p.statements[i].ip ≤ addr ∧
          addr < p.statements[i].ip + p.statements[i].mnemonic.slots)) →
        p.binary[addr]? = some 0 := by
  intro a
  have hplaced := assemble_placed ev settings source
  refine ⟨⟨fun h => hplaced.getElem_zero h, fun i h => hplaced.getElem_succ i h⟩,
    fun p hres => ?_⟩
  obtain ⟨hsts, hp, hw, hlen, hle, hsize⟩ := assemble_program_image hres
  refine ⟨hsts, fun st hst => hw st (by simpa using hst), hlen, hle, fun hneg => ?_,
    by rw [Program.size_binary, hsize], fun i hi j hj => Program.binary_getElem?_word hp hw i hi j hj,
    fun i i' hi hi' j j' hj hj' heq => ?_, fun addr ha hout =>
      Program.binary_getElem?_uncovered hp hw ha hout⟩
  · -- a negative size leaves room for no slot
    have hzero : totalSlots p.statements.toList = 0 := by omega
    rw [totalSlots_eq_zero, Array.toList_eq_nil_iff] at hzero
    exact hzero
  · simpa using hp.eq_of_ip_add_eq (by simpa using hi) (by simpa using hi') (by simpa using hj)
      (by simpa using hj') (by simpa using heq)

/-- A negative memory size leaves no room: the empty source assembles to the empty program,
whose image has no words and whose length of 0 exceeds the size. -/
theorem empty_image_of_negative_size :
    (assemble Evaluator.inert { memorySize := -1 } "").result = .ok { statements := #[], size := -1 } ∧
      ({ statements := #[], size := -1 } : Program).binary.size = 0 ∧
      ¬((({ statements := #[], size := -1 } : Program).length : Int) ≤ -1) :=
  ⟨by cbv, by decide, by decide⟩

end DecimalMachine
