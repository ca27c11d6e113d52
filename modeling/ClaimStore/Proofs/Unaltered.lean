import ClaimStore.Store.Tables
import ClaimStore.Proofs.EntryKeeper
import ClaimStore.Proofs.SoundSteps

/-!
# States that look the same

A failed operation has to leave everything as callers saw it before. They see a table through its
keys: which there are, what is stored under each, who owns it and who is inside its lock; and
through its budget. They do not see the cell of an entry that was made and taken out again: no key
leads to it, and nobody owns it.

## Main definitions

* `EntryTable.SameSight` — two tables look the same.
* `Entry.gone` — the cell that an entry leaves behind when it is made and taken out again.
* `Store.Unaltered` — two states look the same.
* `Store.FailsCleanly` — an answer that comes with a state that looks the same if it is a failure.

## Main results

* `EntryTable.sameSight_withEntry` — an open that fails leaves its table looking the same.
* `Store.unaltered_setTable` — a state with a table that looks the same looks the same.
-/

set_option autoImplicit false

namespace ClaimStore

/-- The cell of an entry that was made and taken out again before anything was stored in it. -/
def Entry.gone {K : Type} (key : K) : Entry K := { Entry.new key with stored := false }

/-! ### Tables -/

namespace EntryTable

section Sight

variable {K : Type} [DecidableEq K] {t t' : EntryTable K}

/-- Callers see the same of two tables. -/
structure SameSight (t t' : EntryTable K) : Prop where
  /-- The limits, and what is in use, are the same. -/
  budget_eq : t'.budget = t.budget
  /-- As many entries are stored. -/
  size_eq : t'.size = t.size
  /-- They have as many owners in all. -/
  totalOwners_eq : t'.totalOwners = t.totalOwners
  /-- Each key leads to the same entry, or to none. -/
  find?_eq : ∀ key, t'.find? key = t.find? key
  /-- Each entry has the same value. -/
  value_eq : ∀ e, t'.value e = t.value e
  /-- Its length is shown to be the same. -/
  len_eq : ∀ e, t'.len e = t.len e
  /-- Each entry has as many owners, and as many readers and writers are inside its lock. -/
  tally_eq : ∀ e p, t'.tally e p = t.tally e p

namespace SameSight

/-- A table looks like itself. -/
lemma refl (t : EntryTable K) : t.SameSight t :=
  ⟨rfl, rfl, rfl, fun _ => rfl, fun _ => rfl, fun _ => rfl, fun _ _ => rfl⟩

/-- The same keys are stored. -/
lemma contains_eq (h : t.SameSight t') (key : K) : t'.contains key = t.contains key := by
  rw [contains, contains, h.find?_eq]

/-- The value under each key is shown with the same length. -/
lemma valueLen?_eq (h : t.SameSight t') (key : K) : t'.valueLen? key = t.valueLen? key := by
  rw [valueLen?, valueLen?, h.find?_eq]
  exact Option.map_congr fun e _ => h.len_eq e

/-- The entry under each key has as many owners. -/
lemma ownerCount?_eq (h : t.SameSight t') (key : K) : t'.ownerCount? key = t.ownerCount? key := by
  rw [ownerCount?, ownerCount?, h.find?_eq]
  exact Option.map_congr fun e _ => h.tally_eq e .owner

/-- **A cell that is left behind is not seen**: it is read like one that is missing. -/
lemma of_gone {key : K} (hcells : t'.cells = t.cells ++ [Entry.gone key])
    (hbudget : t'.budget = t.budget) : t.SameSight t' := by
  have hcell : ∀ e : EntryId, t'.cells[e]? = t.cells[e]? ∨
      t.cells[e]? = none ∧ t'.cells[e]? = some (Entry.gone key) := fun e => by
    rw [hcells]
    exact Store.getElem?_concat_cases t.cells (Entry.gone key) e
  refine ⟨hbudget, ?_, ?_, fun k => ?_, fun e => ?_, fun e => ?_, fun e p => ?_⟩
  · rw [size, size, hcells, List.countP_append]
    rfl
  · rw [totalOwners, totalOwners, hcells, List.foldr_append]
    rfl
  · rw [find?, find?, hcells, List.findIdx?_append]
    exact Option.or_none
  · rw [value, value]
    rcases hcell e with h | ⟨hnone, h⟩
    · rw [h]
    · rw [h, hnone]
      rfl
  · rw [len, len]
    rcases hcell e with h | ⟨hnone, h⟩
    · rw [h]
    · rw [h, hnone]
      rfl
  · rw [tally, tally]
    rcases hcell e with h | ⟨hnone, h⟩
    · rw [h]
    · rw [h, hnone]
      cases p <;> rfl

end SameSight

/-! ### Entries that are made and taken out again -/

/-- A new entry is found under its key. -/
lemma find?_insertNew_self {key : K} (hf : t.find? key = none) (b : Budget) :
    (t.insertNew key b).find? key = some t.cells.length := by
  unfold find? at hf ⊢
  rw [insertNew, List.findIdx?_append, hf]
  simp [Entry.new]

/-- **An entry that was made and has no owner is taken out**, together with its place in the
budget. -/
lemma remove_insertNew {key : K} (hf : t.find? key = none) (ht : t.budget.Within) {b : Budget}
    (hb : t.budget.admitEntry = .ok b) : t.SameSight ((t.insertNew key b).remove key).2 := by
  have howners : (t.insertNew key b).owners t.cells.length = 0 := by
    rw [owners, insertNew, List.getElem?_concat_length]
    rfl
  have hlen : (t.insertNew key b).len t.cells.length = 0 := by
    rw [len, insertNew, List.getElem?_concat_length]
    rfl
  unfold remove
  rw [find?_insertNew_self hf]
  dsimp only
  rw [if_neg (by rw [howners]; exact Nat.lt_irrefl 0), hlen]
  refine SameSight.of_gone (show _ = t.cells ++ [Entry.gone key] from ?_)
    (Budget.retireEntry_admitEntry ht hb)
  show (t.cells ++ [Entry.new key]).modify t.cells.length _ = _
  rw [List.modify_eq_take_drop, List.take_left, List.drop_left]
  rfl

end Sight

/-! ### Opens that fail -/

section Opens

variable {κ : Type} [DecidableEq κ] {t t' : EntryTable (Key κ)} {identifier : String}
  {lock : EntryTable (Key κ) → EntryId → Except ContentError (EntryTable (Key κ))}

/-- **An open that fails leaves its table looking the same**, whatever lock it fails at. An entry
that was there has the owners that it had; one that was made is gone. -/
lemma sameSight_withEntry {x : ContentError} (ht : t.budget.Within)
    (h : Store.withEntry t identifier lock = (t', .error x)) : t.SameSight t' := by
  unfold Store.withEntry at h
  dsimp only at h
  cases hg : t.getOrInsert (.text identifier) with
  | error y =>
    rw [hg] at h
    obtain ⟨rfl, -⟩ := Prod.mk.inj h
    exact .refl t
  | ok r =>
    obtain ⟨e, borrowed⟩ := r
    rw [hg] at h
    dsimp only at h
    cases hl : lock borrowed e with
    | ok locked =>
      rw [hl] at h
      cases h
    | error y =>
      rw [hl] at h
      obtain ⟨rfl, -⟩ := Prod.mk.inj h
      rcases getOrInsert_ok hg with ⟨hf, rfl⟩ | ⟨hf, rfl, b, hb, rfl⟩
      · -- the entry was there, and loses the owner that it was given
        have hthere : t.contains (.text identifier) = true := by rw [contains, hf]; rfl
        rw [hthere, dropOwner_takeOwner]
        exact .refl t
      · -- the entry was made, and is taken out once it has lost its owner
        have habsent : t.contains (.text identifier) = false := by rw [contains, hf]; rfl
        rw [habsent, dropOwner_takeOwner]
        exact remove_insertNew hf ht hb

end Opens

end EntryTable

/-! ### States -/

namespace Store

variable {κ : Type} [DecidableEq κ] {s : Store κ}

/-- Callers see the same of two states. -/
structure Unaltered (s s' : Store κ) : Prop where
  /-- Every table looks the same. -/
  table_sameSight : ∀ t, (s.table t).SameSight (s'.table t)
  /-- No claim has more references or fewer. -/
  claims_eq : s'.claims = s.claims
  /-- The same write leases are taken. -/
  writerRegistries_eq : s'.writerRegistries = s.writerRegistries
  /-- The same read leases are taken. -/
  readerRegistries_eq : s'.readerRegistries = s.readerRegistries
  /-- The handles are the same, with the hooks of each mapping, the position of each reader and
  what each writer has written. -/
  handles_eq : s'.handles = s.handles
  /-- Mappings show the same bytes. -/
  data_eq : ∀ map, s'.data map = s.data map
  /-- They show the same sizes. -/
  mappingSize_eq : ∀ m, s'.mappingSize m = s.mappingSize m
  /-- Claims look the same. -/
  claimView_eq : ∀ c, s'.claimView c = s.claimView c
  /-- The repositories are the same. -/
  repositories_eq : s'.repositories = s.repositories
  /-- The disk is the same. -/
  disk_eq : s'.disk = s.disk
  /-- The databases are the same. -/
  databases_eq : s'.databases = s.databases
  /-- The budgets that belong to no table are the same. -/
  budgets_eq : s'.budgets = s.budgets
  /-- The lists of hooks that belong to no mapping are the same. -/
  hookLists_eq : s'.hookLists = s.hookLists
  /-- Nothing was recorded. -/
  log_eq : s'.log = s.log

/-- A state looks like itself. -/
lemma Unaltered.refl (s : Store κ) : s.Unaltered s :=
  ⟨fun _ => .refl _, rfl, rfl, rfl, rfl, fun _ => rfl, fun _ => rfl, fun _ => rfl, rfl, rfl, rfl,
    rfl, rfl, rfl⟩

/-- **A state with a table that looks the same looks the same.**

**Proof sketch.** All that callers see of a table is its values, its keys and its budget, and these
look the same. -/
lemma unaltered_setTable {t : TableId} {x : EntryTable (Key κ)} (h : (s.table t).SameSight x) :
    s.Unaltered (s.setTable t x) := by
  have htable : ∀ t', (s.table t').SameSight ((s.setTable t x).table t') := by
    intro t'
    rw [table_setTable]
    split
    · next heq => exact heq.1 ▸ h
    · exact .refl _
  have hview : ∀ m, (s.setTable t x).view? m = s.view? m := by
    intro m
    unfold view?
    cases m.backing with
    | file b => rfl
    | entry b =>
      simp only [entryView?, (htable _).value_eq]
    | buffer b => rfl
  have hlength : ∀ b i, (s.setTable t x).lengthIn b i = s.lengthIn b i := by
    intro b i
    cases b with
    | files directory w r => rfl
    | volatile t' w => simp only [lengthIn, (htable _).valueLen?_eq]
    | database d p w => rfl
  refine ⟨htable, rfl, rfl, rfl, rfl, fun map => ?_, fun m => ?_, fun c => ?_, rfl, rfl, rfl, rfl,
    rfl, rfl⟩
  · unfold data
    rw [show (s.setTable t x).mapping? map = s.mapping? map from rfl]
    cases s.mapping? map with
    | none => rfl
    | some m => exact hview m
  · unfold mappingSize
    cases m.backing with
    | file b => rfl
    | entry b => simp only [(htable _).value_eq]
    | buffer b => rfl
  · unfold claimView
    rw [show (s.setTable t x).repositoryOf c = s.repositoryOf c from rfl]
    cases s.repositoryOf c with
    | none => rfl
    | some p => exact congrArg (fun l => ClaimView.mk _ (.ofLength l)) (hlength p.2 _)

/-- The answer of an operation: if it is a failure, callers see everything as before. -/
def FailsCleanly {ε α : Type} (s : Store κ) (r : Store κ × Except ε α) : Prop :=
  ∀ f, r.2 = .error f → s.Unaltered r.1

/-- An answer that leaves the state. -/
lemma failsCleanly_same {ε α : Type} (s : Store κ) (x : Except ε α) : s.FailsCleanly (s, x) :=
  fun _ _ => .refl s

/-- An answer that is no failure. -/
lemma failsCleanly_ok {ε α : Type} (s s' : Store κ) (a : α) :
    s.FailsCleanly (s', (.ok a : Except ε α)) := fun _ h => nomatch h

end Store

end ClaimStore
