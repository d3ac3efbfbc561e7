import Mathlib
import DecimalMachine.Proofs.EmulatorProgram

/-!
# The equates an assembly sees

Expressions `$(…)` in a source are evaluated over a table of equates: the names of the memory
layout (`memoryDefines`) with the definitions made before the assembly laid over them, a later
definition of a name winning over an earlier one and over the layout's own. The assembler keeps
the table as an ordered list and the emulator hands its definitions over as a list as well;
this module proves that what comes out is that table, whatever the order the lists are walked
in.

* `definitionTable defs` is the table a list of definitions makes, later ones winning.
  `lookup_setDefinition` is what one definition does; `lookup_foldl_setDefinition` what a
  sequence of them does to a list with distinct names.
* `Settings.lookup_equates` — an assembly's equates are the layout of its memory size with its
  predefines laid over it; `lookup_equateBindings` — an expression sees exactly the equates that
  are decimal integers, as integers.
* `predefines_foldl_serve` — of all an emulator is asked to do, only definitions change its
  definitions.
* `predefines_override_memory_defines` puts this together for an emulator after any sequence of
  requests.
-/

namespace DecimalMachine

/-- The table a list of definitions makes when a later definition of a name wins over an
earlier one. -/
def definitionTable (defs : List (String × String)) (name : String) : Option String :=
  defs.reverse.lookup name

/-! ## Lists with distinct names

A list of definitions in which no name appears twice is a finite map: a name looks up the one
value it is paired with, whatever the order of the list. -/

section Distinct

variable {l l' : List (String × String)} {k v : String}

theorem lookup_cons_of_ne {β : Type} {n : String} {w : β} {rest : List (String × β)} (h : k ≠ n) :
    ((n, w) :: rest).lookup k = rest.lookup k := by
  rw [List.lookup_cons, beq_false_of_ne h]

theorem lookup_eq_some_iff_mem (h : (l.map Prod.fst).Nodup) : l.lookup k = some v ↔ (k, v) ∈ l := by
  induction l with
  | nil => simp
  | cons p rest ih =>
    obtain ⟨n, w⟩ := p
    simp only [List.map_cons, List.nodup_cons, List.mem_map] at h
    by_cases hk : k = n
    · subst hk
      -- the name is not repeated further down, so only the head can carry it
      have hrest : (k, v) ∉ rest := fun hm => h.1 ⟨(k, v), hm, rfl⟩
      rw [List.lookup_cons_self, List.mem_cons, Option.some.injEq, Prod.mk.injEq]
      simp only [true_and, hrest, or_false]
      exact eq_comm
    · rw [lookup_cons_of_ne hk, ih h.2, List.mem_cons, Prod.mk.injEq]
      simp [hk]

theorem lookup_eq_of_perm (hp : l.Perm l') (h : (l.map Prod.fst).Nodup) :
    l.lookup k = l'.lookup k := by
  have h' : (l'.map Prod.fst).Nodup := (hp.map Prod.fst).nodup_iff.mp h
  apply Option.ext
  intro v
  rw [lookup_eq_some_iff_mem h, lookup_eq_some_iff_mem h', hp.mem_iff]

/-- With distinct names, the last definition of a name is its only one. -/
theorem definitionTable_of_nodup (h : (l.map Prod.fst).Nodup) (k : String) :
    definitionTable l k = l.lookup k :=
  lookup_eq_of_perm (List.reverse_perm l) (by rwa [List.map_reverse, List.nodup_reverse])

theorem definitionTable_append (l l' : List (String × String)) (k : String) :
    definitionTable (l ++ l') k = (definitionTable l' k).or (definitionTable l k) := by
  simp only [definitionTable, List.reverse_append, List.lookup_append]

end Distinct

/-! ## Defining a name -/

/-- Replacing the value of a name in place: that name, if there, looks up the new value. -/
theorem lookup_map_replace (defs : List (String × String)) (name value k : String) :
    (defs.map fun (n, v) => if n == name then (n, value) else (n, v)).lookup k =
      if k = name then (defs.lookup k).map fun _ => value else defs.lookup k := by
  induction defs with
  | nil => simp
  | cons p rest ih =>
    obtain ⟨n, w⟩ := p
    have hmap : ((n, w) :: rest).map (fun (n, v) => if n == name then (n, value) else (n, v)) =
        (n, if n = name then value else w) ::
          rest.map (fun (n, v) => if n == name then (n, value) else (n, v)) := by
      by_cases hn : n = name <;> simp [hn]
    rw [hmap]
    by_cases hk : k = n
    · subst hk
      by_cases hn : k = name <;> simp [hn]
    · rw [lookup_cons_of_ne hk, ih, lookup_cons_of_ne hk]

/-- Defining a name gives it the new value and leaves every other name as it was. -/
theorem lookup_setDefinition (defs : List (String × String)) (name value k : String) :
    (setDefinition defs name value).lookup k = if k = name then some value else defs.lookup k := by
  unfold setDefinition
  split
  · next hany =>
    -- the name is there already: it takes the new value in place
    rw [lookup_map_replace]
    by_cases hk : k = name
    · subst hk
      obtain ⟨p, hp, hpk⟩ := List.any_eq_true.mp hany
      have hsome : (defs.lookup k).isSome :=
        List.lookup_isSome_iff.mpr ⟨p, hp, by rw [beq_iff_eq] at hpk ⊢; exact hpk.symm⟩
      obtain ⟨w, hw⟩ := Option.isSome_iff_exists.mp hsome
      simp [hw]
    · simp [hk]
  · next hany =>
    -- a new name goes at the end, where nothing before it shadows it
    have hnone : defs.lookup name = none := by
      rw [List.lookup_eq_none_iff]
      intro p hp
      rw [bne_iff_ne, ne_eq]
      intro heq
      exact hany (List.any_eq_true.mpr ⟨p, hp, by simp [heq]⟩)
    rw [List.lookup_append]
    by_cases hk : k = name
    · subst hk
      simp [hnone]
    · simp [hk]

theorem keys_setDefinition (defs : List (String × String)) (name value : String) :
    (setDefinition defs name value).map Prod.fst =
      if defs.any (·.1 == name) then defs.map Prod.fst else defs.map Prod.fst ++ [name] := by
  unfold setDefinition
  split
  · simp only [List.map_map]
    congr 1
    funext p
    simp only [Function.comp_apply]
    split <;> rfl
  · simp

theorem nodup_setDefinition {defs : List (String × String)} (h : (defs.map Prod.fst).Nodup)
    (name value : String) : ((setDefinition defs name value).map Prod.fst).Nodup := by
  rw [keys_setDefinition]
  split
  · exact h
  · next hany =>
    -- a name appended is new
    refine List.nodup_append.mpr ⟨h, List.nodup_singleton name, ?_⟩
    simp only [List.mem_map, List.mem_singleton]
    rintro _ ⟨p, hp, rfl⟩ _ rfl heq
    exact hany (List.any_eq_true.mpr ⟨p, hp, by simp [heq]⟩)

/-- Defining names one after another: a name defined in `ds` has its last value there, and any
other name keeps its value in `base`. -/
theorem lookup_foldl_setDefinition (ds base : List (String × String)) (k : String) :
    (ds.foldl (fun defs (n, v) => setDefinition defs n v) base).lookup k =
      (definitionTable ds k).or (base.lookup k) := by
  induction ds generalizing base with
  | nil => simp [definitionTable]
  | cons d ds ih =>
    obtain ⟨n, v⟩ := d
    rw [List.foldl_cons, ih, lookup_setDefinition, show (n, v) :: ds = [(n, v)] ++ ds from rfl,
      definitionTable_append, Option.or_assoc]
    by_cases hk : k = n
    · simp [definitionTable, hk]
    · simp [definitionTable, hk]

theorem nodup_foldl_setDefinition (ds : List (String × String)) {base : List (String × String)}
    (h : (base.map Prod.fst).Nodup) :
    ((ds.foldl (fun defs (n, v) => setDefinition defs n v) base).map Prod.fst).Nodup := by
  induction ds generalizing base with
  | nil => exact h
  | cons d ds ih => exact ih (nodup_setDefinition h d.1 d.2)

/-! ## The equates of an assembly -/

theorem keys_memoryDefines (size : Int) :
    (memoryDefines size).map Prod.fst =
      ["MEMORY_SIZE", "TOP_OF_MEMORY", "STACK_BASE", "RETURN_BASE"] := rfl

theorem nodup_memoryDefines (size : Int) : ((memoryDefines size).map Prod.fst).Nodup := by
  rw [keys_memoryDefines]
  decide

namespace Settings

variable (s : Settings)

/-- An assembly's equates are the layout of its memory size with its predefines laid over it. -/
theorem lookup_equates (k : String) :
    s.equates.lookup k = definitionTable (memoryDefines s.size ++ s.predefines) k := by
  rw [equates, lookup_foldl_setDefinition, definitionTable_append,
    definitionTable_of_nodup (nodup_memoryDefines s.size)]

theorem nodup_equates : (s.equates.map Prod.fst).Nodup :=
  nodup_foldl_setDefinition _ (nodup_memoryDefines s.size)

end Settings

/-! ## What an expression sees -/

theorem keys_equateBindings (eqs : List (String × String)) :
    ((equateBindings eqs).map Prod.fst).Sublist (eqs.map Prod.fst) := by
  induction eqs with
  | nil => simp [equateBindings]
  | cons p rest ih =>
    obtain ⟨n, v⟩ := p
    simp only [equateBindings, List.filterMap_cons, List.map_cons] at ih ⊢
    cases Text.readDecimal? v with
    | none => exact ih.cons n
    | some i => exact ih.cons_cons n

/-- An expression sees exactly the equates whose text is a decimal integer, bound to that
integer. -/
theorem lookup_equateBindings {eqs : List (String × String)} (h : (eqs.map Prod.fst).Nodup)
    (k : String) :
    (equateBindings eqs).lookup k = (eqs.lookup k).bind Text.readDecimal? := by
  induction eqs with
  | nil => simp [equateBindings]
  | cons p rest ih =>
    obtain ⟨n, v⟩ := p
    simp only [List.map_cons, List.nodup_cons] at h
    have hbind : equateBindings ((n, v) :: rest) =
        ((Text.readDecimal? v).map fun i => (n, i)).toList ++
          equateBindings rest := by
      simp only [equateBindings, List.filterMap_cons]
      cases Text.readDecimal? v <;> rfl
    rw [hbind, List.lookup_append]
    by_cases hk : k = n
    · subst hk
      -- further down the name is not there, so only the head can answer
      have hrest : (equateBindings rest).lookup k = none := by
        simp only [List.lookup_eq_none_iff, bne_iff_ne, ne_eq]
        rintro ⟨n', w⟩ hp rfl
        exact h.1 ((keys_equateBindings rest).subset (List.mem_map_of_mem hp))
      rcases hv : Text.readDecimal? v with _ | i <;> simp [hv, hrest]
    · rw [ih h.2, lookup_cons_of_ne hk]
      rcases hv : Text.readDecimal? v with _ | i
      · simp
      · simp [lookup_cons_of_ne hk]

theorem nodup_equateBindings {eqs : List (String × String)} (h : (eqs.map Prod.fst).Nodup) :
    ((equateBindings eqs).map Prod.fst).Nodup :=
  (keys_equateBindings eqs).nodup h

/-! ## The definitions of an emulator

Only a definition changes the definitions of an emulator: assembling, resetting, ticking and
running replace the machine, the program and the trace, and keep everything else. -/

namespace Emulator

/-- The definitions among a sequence of requests, in order. -/
def Request.definitions : List Request → List (String × String)
  | [] => []
  | .define name value :: rs => (name, value) :: Request.definitions rs
  | _ :: rs => Request.definitions rs

variable {e : Emulator}

theorem collect_predefines (e : Emulator) : e.collect.predefines = e.predefines := by
  unfold collect
  dsimp only
  split <;> rfl

theorem tick_predefines (e : Emulator) : e.tick.1.predefines = e.predefines := by
  unfold tick
  dsimp only
  split
  · rfl
  · exact collect_predefines _

theorem runGo_predefines (fuel polls : Nat) (e : Emulator) :
    (run.go fuel polls e).1.predefines = e.predefines := by
  induction fuel generalizing polls e with
  | zero => rfl
  | succ fuel ih =>
    simp only [run.go]
    split
    · exact tick_predefines e
    · rw [ih, tick_predefines]

theorem reset_predefines (e : Emulator) : e.reset.1.predefines = e.predefines := by
  obtain ⟨m, t, -, heq⟩ := exists_reset_eq e
  rw [heq]

theorem assembleSource_predefines (ev : Evaluator) (e : Emulator) (source : String) :
    (e.assembleSource ev source).2.predefines = e.predefines := by
  rw [assembleSource_snd]
  dsimp only
  split
  · rfl
  · exact reset_predefines _

/-- The step lemma: a request adds the definition it makes, if any. -/
theorem predefines_serve (ev : Evaluator) (e : Emulator) (r : Request) :
    (e.serve ev r).predefines =
      (Request.definitions [r]).foldl (fun defs (n, v) => setDefinition defs n v) e.predefines := by
  cases r with
  | define name value => rfl
  | setStrict strict => rfl
  | assemble source => exact assembleSource_predefines ev e source
  | reset => exact reset_predefines e
  | tick => exact tick_predefines e
  | run budget => exact runGo_predefines _ _ e

theorem definitions_cons (r : Request) (rs : List Request) :
    Request.definitions (r :: rs) = Request.definitions [r] ++ Request.definitions rs := by
  cases r <;> rfl

/-- The run lemma: after a sequence of requests the definitions are those made, in order. -/
theorem predefines_foldl_serve (ev : Evaluator) (e : Emulator) (rs : List Request) :
    (rs.foldl (serve ev) e).predefines =
      (Request.definitions rs).foldl (fun defs (n, v) => setDefinition defs n v) e.predefines := by
  induction rs generalizing e with
  | nil => rfl
  | cons r rs ih =>
    rw [List.foldl_cons, ih, predefines_serve, definitions_cons r rs, List.foldl_append]

theorem settings_size {n : Nat} (h : e.Fits n) : e.settings.size = n := by
  have hroom := h.layout.roomy
  have hsize := h.layout.size_eq
  simp only [minMemory] at hroom
  unfold Settings.size settings
  rw [if_neg (by simp only [beq_iff_eq]; omega), hsize]

/-- A fresh emulator has no definitions; after a sequence of requests it has those the requests
made, each name once, with its last value. -/
theorem predefines_create {n : Nat} (he : Emulator.create n = .ok e) : e.predefines = [] := by
  unfold Emulator.create at he
  rcases hm : Machine.create n with err | m <;> rw [hm] at he <;> cases he
  rfl

theorem nodup_predefines_after (ev : Evaluator) {n : Nat} (he : Emulator.create n = .ok e)
    (rs : List Request) : ((rs.foldl (serve ev) e).predefines.map Prod.fst).Nodup := by
  rw [predefines_foldl_serve, predefines_create he]
  exact nodup_foldl_setDefinition _ List.nodup_nil

theorem lookup_predefines_after (ev : Evaluator) {n : Nat} (he : Emulator.create n = .ok e)
    (rs : List Request) (k : String) :
    (rs.foldl (serve ev) e).predefines.lookup k = definitionTable (Request.definitions rs) k := by
  rw [predefines_foldl_serve, predefines_create he, lookup_foldl_setDefinition]
  simp

section Table

variable {n : Nat} (h : e.Fits n) (hnodup : (e.predefines.map Prod.fst).Nodup)
include h hnodup

/-- Collecting an emulator's defines with later pairs winning gives each name its definition,
or else its value in the layout. -/
theorem Fits.definitionTable_defines (k : String) :
    definitionTable e.defines k = (e.predefines.lookup k).or ((memoryDefines n).lookup k) := by
  rw [defines, Machine.defines, h.layout.size_eq, definitionTable_append,
    definitionTable_of_nodup hnodup, definitionTable_of_nodup (nodup_memoryDefines _)]

/-- However the layout's names and the emulator's definitions are ordered when they are handed
to the assembler, its equates give each name its definition, or else its value in the
layout. -/
theorem Fits.lookup_equates_of_perm {b u : List (String × String)} (hb : b.Perm e.machine.defines)
    (hu : u.Perm e.predefines) (k : String) :
    ({ e.settings with predefines := b ++ u } : Settings).equates.lookup k =
      (e.predefines.lookup k).or ((memoryDefines n).lookup k) := by
  have hmd : e.machine.defines = memoryDefines n := by rw [Machine.defines, h.layout.size_eq]
  have hbn : (b.map Prod.fst).Nodup :=
    (hb.map Prod.fst).nodup_iff.mpr (hmd ▸ nodup_memoryDefines n)
  have hun : (u.map Prod.fst).Nodup := (hu.map Prod.fst).nodup_iff.mpr hnodup
  have hs : ({ e.settings with predefines := b ++ u } : Settings).size = n := settings_size h
  rw [Settings.lookup_equates, hs]
  -- within each of the two lists a name appears once, so its place there does not matter
  simp only [definitionTable_append, definitionTable_of_nodup hbn, definitionTable_of_nodup hun,
    definitionTable_of_nodup (nodup_memoryDefines _), lookup_eq_of_perm hb hbn,
    lookup_eq_of_perm hu hun, hmd, Option.or_assoc, Option.or_self]

end Table

end Emulator

/-- The definitions made before an assembly override the names of the memory layout. Take a
fresh emulator with `n` words of memory and any sequence of requests, and let the table be the
layout of `n` words with the requests' definitions laid over it, a later definition of a name
winning. Then the equates the next assembly evaluates its expressions over have distinct names
and are that table; its expressions see exactly the table's decimal entries, as integers; the
same table comes out whatever the order the layout's names and the emulator's definitions are
handed to the assembler in; collecting the emulator's list of defines with later pairs winning
gives the table too; and for the assembler on its own, the equates are the layout of its memory
size with its predefines laid over it. -/
theorem predefines_override_memory_defines (ev : Evaluator) {n : Nat} {e : Emulator}
    (he : Emulator.create n = .ok e) (rs : List Emulator.Request) :
    let e' := rs.foldl (Emulator.serve ev) e
    let table := definitionTable (memoryDefines n ++ Emulator.Request.definitions rs)
    (e'.settings.equates.map Prod.fst).Nodup ∧
    (∀ k, e'.settings.equates.lookup k = table k) ∧
    (∀ k, (equateBindings e'.settings.equates).lookup k = (table k).bind Text.readDecimal?) ∧
    (∀ b u, b.Perm e'.machine.defines → u.Perm e'.predefines →
      ∀ k, ({ e'.settings with predefines := b ++ u } : Settings).equates.lookup k = table k) ∧
    (∀ k, definitionTable e'.defines k = table k) ∧
    (∀ (s : Settings) k,
      s.equates.lookup k = definitionTable (memoryDefines s.size ++ s.predefines) k) := by
  intro e' table
  have hfits : e'.Fits n := (Emulator.Fits.create he).serveAll ev rs
  have hnodup := Emulator.nodup_predefines_after ev he rs
  -- the table, read through the emulator's own definitions
  have htable : ∀ k, table k = (e'.predefines.lookup k).or ((memoryDefines n).lookup k) := by
    intro k
    rw [Emulator.lookup_predefines_after ev he rs, ← definitionTable_of_nodup (nodup_memoryDefines _),
      ← definitionTable_append]
  -- the emulator hands over the layout, then its definitions
  have hequates : ∀ k, e'.settings.equates.lookup k = table k := fun k =>
    (hfits.lookup_equates_of_perm hnodup (List.Perm.refl _) (List.Perm.refl _) k).trans
      (htable k).symm
  refine ⟨Settings.nodup_equates _, hequates, fun k => ?_, fun b u hb hu k => ?_, fun k => ?_,
    fun s k => Settings.lookup_equates s k⟩
  · rw [lookup_equateBindings (Settings.nodup_equates _), hequates]
  · rw [hfits.lookup_equates_of_perm hnodup hb hu, htable]
  · rw [hfits.definitionTable_defines hnodup, htable]

/-- A fresh emulator of two hundred words that defines `STACK_BASE` as `150`, assembles, and
defines `LIMIT` as `12`: its next assembly's expressions see `STACK_BASE` as 150, `LIMIT` as 12
and `MEMORY_SIZE` still as 200. -/
theorem stack_base_definition_overrides_layout :
    let m : Machine := { memory := Array.replicate 200 0, sp := 200, rap := 99,
                         device := .tape { output := some (.buffer "") } }
    let e : Emulator := { machine := m, program := { statements := #[], size := 200 } }
    let rs := [Emulator.Request.define "STACK_BASE" "150", .assemble "HLT", .define "LIMIT" "12"]
    let seen := equateBindings (rs.foldl (Emulator.serve Evaluator.inert) e).settings.equates
    Emulator.create 200 = .ok e ∧ seen.lookup "STACK_BASE" = some 150 ∧
      seen.lookup "LIMIT" = some 12 ∧ seen.lookup "MEMORY_SIZE" = some 200 := by
  intro m e rs seen
  obtain ⟨-, -, hseen, -⟩ :=
    predefines_override_memory_defines Evaluator.inert (n := 200) (e := e) rfl rs
  have hstack : (definitionTable (memoryDefines (200 : Nat) ++ Emulator.Request.definitions rs)
      "STACK_BASE").bind Text.readDecimal? = some 150 := by decide
  have hlimit : (definitionTable (memoryDefines (200 : Nat) ++ Emulator.Request.definitions rs)
      "LIMIT").bind Text.readDecimal? = some 12 := by decide
  have hsize : (definitionTable (memoryDefines (200 : Nat) ++ Emulator.Request.definitions rs)
      "MEMORY_SIZE").bind Text.readDecimal? = some 200 := by decide
  exact ⟨rfl, by rw [hseen, hstack], by rw [hseen, hlimit], by rw [hseen, hsize]⟩

end DecimalMachine
