import ClaimStore.Proofs.DiskRuns
import ClaimStore.Proofs.Exclusion
import ClaimStore.Proofs.FreeKeys
import ClaimStore.Proofs.FreeRows

/-!
# Removals

Content that somebody refers to through a claim is not removed through this claim. A volatile
repository removes nothing that is read or written through any claim; in files and rows, what is in
use is safe from removal only through the claim that it is used through. What was removed stays
absent until somebody opens it for writing.

## Main definitions

* `Store.Vacant` — nothing is stored under an identifier, and nothing is about to be.
* `Store.Reopens`, `Store.Unopened` — an operation opens what is vacant for writing; no operation of
  a run does.
* `Ledger.uses` — a live reader or writer of an identifier.
* `Store.Removing` — what a removal that succeeds says about a state.

## Main results

* `Store.Vacant.stepUnder` — what is vacant stays vacant unless it is opened for writing.
* `Store.removing_runUnder` — what removals say after every run, whatever fails.

## Design

References are counted for each claim. Two claims with one identifier are two counts, and files and
databases count nothing else, so a removal through the one does not see who uses the content through
the other.
-/

set_option autoImplicit false

namespace ClaimStore

namespace Store

variable {κ : Type} {s s' : Store κ} {l : Ledger} {b : Backend} {x : String}

/-! ### Names that stay free -/

/-- **A name that stands for no file** gets one only from an operation that opens a path which leads
to it for writing. -/
lemma lookup_of_alters {op : Operation κ} {d : Disk} (hd : s.disk.Sound)
    (hc : Disk.Changes (s.Alters op) s.disk d) {j : DirectoryId} {n : String}
    (hfree : ∀ id, (s.disk.entries j).lookup n ≠ some (.file id)) :
    (∀ id, (d.entries j).lookup n ≠ some (.file id)) ∨
      ∃ p, s.writtenPath? op = some p ∧ d.locate p = .ok (.name j n) := by
  induction hc with
  | refl => exact .inl hfree
  | @step d c before admits sort ih =>
    have leads : ∀ p, d.locate p = .ok (.name j n) → (d.after c).locate p = .ok (.name j n) :=
      fun _ => (Disk.extends_after admits).locate_eq (before.extends.sound hd)
    rcases ih with ih | ⟨p, hp, hl⟩
    · by_cases hmade : c = .addFile j n
      · subst hmade
        obtain ⟨p, hp, hl⟩ := sort.locate_eq
        exact .inr ⟨p, hp, leads p hl⟩
      · refine .inl fun id hl => ?_
        rcases Disk.lookup_of_after hl with hl | ⟨hmade', -⟩
        · exact ih id hl
        · exact hmade hmade'
    · exact .inr ⟨p, hp, leads p hl⟩

/-! ### Vacancies -/

section Vacancies

variable [DecidableEq κ]

/-- **Nothing is stored** under an identifier of a backend, and no handle is about to store
anything: where its path leads is no file, its key is free, or its row is missing and has no live
writer. -/
inductive Vacant (l : Ledger) (s : Store κ) : Backend → String → Prop
  /-- In files. -/
  | file {D : Path} {w g : RegistryId} {x : String} {j : DirectoryId} {n : String}
      (locate_eq : s.disk.locate (contentPath D x) = .ok (.name j n))
      (short : n.utf8ByteSize ≤ Disk.maxNameBytes)
      (free : ∀ id, (s.disk.entries j).lookup n ≠ some (.file id)) : Vacant l s (.files D w g) x
  /-- In entries. -/
  | entry {t : TableId} {w : RegistryId} {x : String}
      (find?_eq : (s.table t).find? (.text x) = none) : Vacant l s (.volatile t w) x
  /-- In rows. -/
  | row {d : DatabaseId} {p : Path} {w : RegistryId} {x : String} (row?_eq : s.row? d x = none)
      (idle : ∀ h, ¬ RowWriter l s h d x) : Vacant l s (.database d p w) x

/-- **What is vacant is absent.** -/
lemma Vacant.lengthIn_eq (h : Vacant l s b x) : s.lengthIn b x = .ok none := by
  cases h with
  | @file D w g x j n hl hshort hfree =>
    show s.disk.storedLength (contentPath D x) = .ok none
    simp only [Disk.storedLength, Disk.resolve, hl, Disk.lookupName, if_neg (Nat.not_lt.2 hshort)]
    cases hn : (s.disk.entries j).lookup n with
    | none => rfl
    | some i =>
      cases i with
      | directory k => rfl
      | file id => exact absurd hn (hfree id)
  | entry hf => exact congrArg Except.ok (by rw [EntryTable.valueLen?, hf]; rfl)
  | row hr => exact congrArg Except.ok (by rw [hr]; rfl)

variable [ToString κ]

/-- **An operation opens an identifier of a backend for writing**: in files, a path that leads to
the same name, whether the open succeeds or not; in entries, also an entry that is asked for by
itself; in rows, a writer or a writable mapping that is live after it. -/
inductive Reopens (l : Ledger) (s : Store κ) (f : Faults) (op : Operation κ) :
    Backend → String → Prop
  /-- A file. -/
  | file {D : Path} {w g : RegistryId} {x : String} {p : Path} {j : DirectoryId} {n : String}
      (path_eq : s.writtenPath? op = some p)
      (leads : (s.stepUnder f op).disk.locate p = .ok (.name j n))
      (same : (s.stepUnder f op).disk.locate (contentPath D x) = .ok (.name j n)) :
      Reopens l s f op (.files D w g) x
  /-- An entry. -/
  | entry {t : TableId} {w : RegistryId} {x : String}
      (enters : Enters (l.after f s op) (s.stepUnder f op) op t (.text x)) :
      Reopens l s f op (.volatile t w) x
  /-- A row. -/
  | row {d : DatabaseId} {p : Path} {w : RegistryId} {x : String} {h : HandleId}
      (writes : RowWriter (l.after f s op) (s.stepUnder f op) h d x) :
      Reopens l s f op (.database d p w) x

/-- **What is vacant stays vacant** unless it is opened for writing. -/
lemma Vacant.stepUnder (h : Vacant l s b x) (ht : Tells l s) (hs : s.Sound) (hd : s.disk.Sound)
    {f : Faults} {op : Operation κ} (hnot : ¬ Reopens l s f op b x) :
    Vacant (l.after f s op) (s.stepUnder f op) b x := by
  cases h with
  | @file D w g x j n hl hshort hfree =>
    have hstep := diskStep_stepUnder hs hd f op
    have hl' := hstep.changes.extends.locate_eq hd hl
    refine .file hl' hshort ?_
    rcases lookup_of_alters hd hstep.changes hfree with hfree' | ⟨p, hp, hlead⟩
    · exact hfree'
    · exact absurd (.file hp hlead hl') hnot
  | entry hf =>
    rcases ht.find?_stepUnder hs f op hf with hf' | henters
    · exact .entry hf'
    · exact absurd (.entry henters) hnot
  | row hr hidle =>
    exact .row (ht.row?_stepUnder_none hs hr hidle f op) fun h hw => hnot (.row hw)

/-- **No operation of a run opens** an identifier of a backend for writing. -/
def Unopened (l : Ledger) (s : Store κ) (b : Backend) (x : String) :
    List (Faults × Operation κ) → Prop
  | [] => True
  | p :: ops => ¬ Reopens l s p.1 p.2 b x ∧
      Unopened (l.after p.1 s p.2) (s.stepUnder p.1 p.2) b x ops

/-- **What is vacant stays absent** until it is opened for writing.

**Proof sketch.** Induction on the run: every operation that does not open it leaves it vacant. -/
lemma Vacant.lengthIn_runUnder (h : Vacant l s b x) (ht : Tells l s) (hs : s.Sound)
    (hd : s.disk.Sound) (ops : List (Faults × Operation κ)) (hnot : Unopened l s b x ops) :
    (s.runUnder ops).lengthIn b x = .ok none := by
  induction ops generalizing l s with
  | nil => exact h.lengthIn_eq
  | cons p ops ih =>
    exact ih (h.stepUnder ht hs hd hnot.1) (ht.stepUnder hs p.1 p.2) (hs.stepUnder p.1 p.2)
      ((extends_stepUnder hs hd p.1 p.2).sound hd) hnot.2

end Vacancies

/-! ### Removals that succeed -/

section Removed

variable [DecidableEq κ] {f : Faults} {r : RepositoryId} {c : ClaimId}

/-- **A removal that succeeds** is one without faults, of a claim that is not referenced, from a
repository that is open. -/
lemma removeContentUnder_ok {ans : Bool} (h : (s.removeContentUnder f r c).2 = .ok ans) :
    s.removeContentUnder f r c = s.removeContent r c ∧ s.references c = 0 ∧
      ∃ b, s.backend? r = some b := by
  rcases s.removeContentUnder_cases f r c with heq | ⟨e, heq⟩
  swap
  · rw [heq] at h
    cases h
  rw [heq] at h
  refine ⟨heq, ?_, backend_of_inRepository h⟩
  rcases s.removeContent_cases r c with ⟨e, he⟩ | ⟨hzero, -⟩
  · rw [he] at h
    cases h
  · exact hzero

/-- The removal is one from the backend. -/
lemma removeContent_eq (hb : s.backend? r = some b) : s.removeContent r c = s.removeIn b c := by
  rw [removeContent, inRepository, hb]

/-- A file that is removed leaves its name free. -/
lemma vacant_removeInFiles (hd : s.disk.Sound) {D : Path} {w g : RegistryId}
    {q : Store κ × Except Failure Bool} (hq : s.removeInFiles D x = q) (h : q.2 = .ok true) :
    Vacant l q.1 (.files D w g) x := by
  unfold removeInFiles at hq
  dsimp only at hq
  split at hq
  · next d hu =>
    subst hq
    obtain ⟨j, n, id, hl, hn, rfl⟩ := Disk.unlink_ok hu
    refine .file ((Disk.extends_unlink hu).1.locate_eq hd hl) (Disk.short_of_unlink hu hl) ?_
    intro id' hl'
    have hj := Disk.locate_lt hd hl
    rw [Disk.lookup_removeName, if_pos ⟨rfl, hj, rfl⟩] at hl'
    cases hl'
  · subst hq
    cases h
  · subst hq
    cases h

/-- The table takes the entry out. -/
lemma removed_of_removeInTable {t : TableId} (h : (s.removeInTable t x).2 = .ok true) :
    ((s.table t).remove (.text x)).1 = .removed ∧
      (s.removeInTable t x).1 = s.setTable t ((s.table t).remove (.text x)).2 := by
  obtain ⟨q, hq⟩ : ∃ q, s.removeInTable t x = q := ⟨_, rfl⟩
  rw [hq] at h ⊢
  unfold removeInTable at hq
  split at hq
  · next hr =>
    subst hq
    simp [hr]
  · subst hq
    cases h
  · subst hq
    cases h

/-- An entry that is removed leaves its key free. -/
lemma vacant_removeInTable (hs : s.Sound) {t : TableId} (ht : t < s.tables.length) {w : RegistryId}
    (h : (s.removeInTable t x).2 = .ok true) :
    Vacant l (s.removeInTable t x).1 (.volatile t w) x := by
  obtain ⟨hremoved, hstate⟩ := removed_of_removeInTable h
  have hgone := (hs.ownership t).find?_removed (.text x) (.text x) hremoved
  rw [if_pos rfl] at hgone
  rw [hstate]
  exact .entry (by rw [table_setTable_self ht, hgone])

/-- A row that is removed is missing. -/
lemma vacant_removeInRows {d : DatabaseId} {p : Path} {w : RegistryId}
    (hidle : ∀ i, ¬ RowWriter l s i d x) :
    Vacant l (s.removeInRows d x).1 (.database d p w) x := by
  refine .row ?_ fun i hw => hidle i hw
  show (s.modifyDatabase d (·.erase x)).row? d x = none
  by_cases hlt : d < s.databases.length
  · rw [row?_erase hlt, if_pos rfl]
  · rw [row?, modifyDatabase, List.modify_eq_self (Nat.le_of_not_lt hlt),
      List.getElem?_eq_none (Nat.le_of_not_lt hlt)]

/-- **After a removal that succeeds** the identifier is vacant, unless its row has a live writer. -/
lemma vacant_removeContent (hs : s.Sound) (hd : s.disk.Sound) (hb : s.backend? r = some b)
    (h : (s.removeContent r c).2 = .ok true)
    (hidle : ∀ d p w, b = .database d p w → ∀ i, ¬ RowWriter l s i d (s.identifier c)) :
    Vacant l (s.removeContent r c).1 b (s.identifier c) := by
  rw [removeContent_eq hb] at h ⊢
  rcases s.removeIn_cases b c with ⟨f, heq⟩ | ⟨-, heq⟩ <;> rw [heq] at h ⊢
  · cases h
  cases b with
  | files D w g => exact vacant_removeInFiles hd rfl h
  | volatile t w => exact vacant_removeInTable hs (hs.knows hb).1 h
  | database d p w => exact vacant_removeInRows (hidle d p w rfl)

end Removed

/-! ### Users -/

end Store

/-- The holder is a live reader or writer of an identifier of a repository. -/
def Holder.uses (y : Holder) (r : RepositoryId) (x : String) : Bool := y.reads r x || y.writes r x

/-- **The handle is a live reader or writer** of an identifier of a repository: a mapping that was
not unmapped, a reader that was not dropped, or a writer that was not closed or dropped. -/
def Ledger.uses (l : Ledger) (r : RepositoryId) (x : String) (h : HandleId) : Bool :=
  (l h).any fun y => y.uses r x

/-- A handle uses an identifier where its entry in the ledger says so. -/
lemma Ledger.uses_iff {l : Ledger} {r : RepositoryId} {x : String} {h : HandleId} :
    l.uses r x h = true ↔ ∃ y, l h = some y ∧ y.uses r x = true := by
  simp [uses, Option.any_eq_true]

/-- A live reader or writer refers to its claim, under its identifier. -/
lemma Holder.refers_of_uses {y : Holder} {r : RepositoryId} {x : String} (h : y.uses r x = true) :
    y.refers = true ∧ y.identifier = x := by
  rcases Bool.or_eq_true_iff.1 h with hr | hw
  · obtain ⟨hlive, hx, hg⟩ := reads_iff.1 hr
    refine ⟨?_, hx⟩
    rcases hg with hg | hg <;> simp [refers, hg, hlive]
  · exact ⟨Store.refers_of_writes hw, (writes_iff.1 hw).2.1⟩

namespace Store

variable {κ : Type} {s : Store κ} {l : Ledger} {r : RepositoryId} {x : String} {c : ClaimId}
  {h : HandleId}

/-- No other claim has the identifier of this one. -/
def Sole (s : Store κ) (c : ClaimId) : Prop :=
  ∀ c', c' < s.claims.length → s.identifier c' = s.identifier c → c' = c

variable [DecidableEq κ] [ToString κ]

omit [ToString κ] in
/-- **A live reader or writer in a volatile repository owns the entry** of its identifier. -/
lemma Viewed.owner_of_uses (hv : Viewed l s) {t : TableId} {w : RegistryId}
    (hb : s.backendOf? r = some (.volatile t w)) (hu : l.uses r x h = true) :
    ∃ z e, s.handle? h = some z ∧ z.owned? = some (t, e) ∧
      (s.table t).find? (.text x) = some e := by
  obtain ⟨y, hy, hyu⟩ := Ledger.uses_iff.1 hu
  have hx := (Holder.refers_of_uses hyu).2
  obtain ⟨z, hz, hplace⟩ := hv.exists_place hy
  -- the owned entry is in the table of the repository that it is used through
  have owned : ∀ {r' t' w' e}, s.backendOf? r' = some (.volatile t' w') → r = r' →
      z.owned? = some (t', e) → ∃ z e, s.handle? h = some z ∧ z.owned? = some (t, e) ∧
        (s.table t).find? (.text x) = some e := by
    rintro r' t' w' e hb' rfl ho
    obtain ⟨rfl, -⟩ := Backend.volatile.inj (Option.some.inj (hb'.symm.trans hb))
    exact ⟨z, e, hz, ho, hx ▸ hv.find?_eq hy hz ho⟩
  cases hplace with
  | nowhere _ _ off =>
    obtain ⟨hr, hw⟩ := off r t w x hb
    simp [Holder.uses, hr, hw] at hyu
  | reading hb' hlive hg ho _ _ =>
    refine owned hb' ?_ ho
    rcases Bool.or_eq_true_iff.1 hyu with hr | hw
    · exact ((Holder.reads_of_grip hlive hg).1 hr).1
    · cases (Holder.writes_eq_false hg r x).symm.trans hw
  | writing hb' hlive hg ho _ _ =>
    refine owned hb' ?_ ho
    rcases Bool.or_eq_true_iff.1 hyu with hr | hw
    · cases (Holder.reads_eq_false hg r x).symm.trans hr
    · exact ((Holder.writes_of_grip hlive hg).1 hw).1

omit [ToString κ] in
/-- **An entry with a live reader or writer is not removed.** -/
lemma Viewed.unused_of_removed (hv : Viewed l s) {t : TableId} {w : RegistryId}
    (hb : s.backendOf? r = some (.volatile t w))
    (hr : ((s.table t).remove (.text x)).1 = .removed) : l.uses r x h = false := by
  by_contra hu
  obtain ⟨z, e, hz, ho, hf⟩ := hv.owner_of_uses hb (Bool.eq_true_of_not_eq_false hu)
  obtain ⟨e', hf', hzero⟩ := ((hv.sound.ownership t).removed_iff _).1 hr
  obtain rfl := Option.some.inj (hf.symm.trans hf')
  have hpos : 0 < s.ownersOf t e :=
    List.countP_pos_iff.2 ⟨some z, List.mem_of_getElem? (handle?_eq_some.1 hz), by simp [ho]⟩
  exact Nat.ne_of_gt hpos hzero

/-- **What a removal that succeeds says about a state**, with respect to the ledger of its
callers. -/
structure Removing (l : Ledger) (s : Store κ) : Prop where
  /-- Nobody refers to the content through the claim. -/
  unreferenced : ∀ f r c, (s.removeContentUnder f r c).2 = .ok true → ∀ h, l.refersTo c h = false
  /-- Nobody reads or writes an entry, through whatever claim. -/
  unowned : ∀ f r t w c, s.backend? r = some (.volatile t w) →
    (s.removeContentUnder f r c).2 = .ok true → ∀ h, l.uses r (s.identifier c) h = false
  /-- Nobody reads or writes a file or a row either, if no other claim has the identifier. -/
  unused : ∀ f r c, s.Sole c → (s.removeContentUnder f r c).2 = .ok true →
    ∀ r' h, l.uses r' (s.identifier c) h = false
  /-- The content is absent after it. -/
  absent : ∀ f r b c, s.backend? r = some b → (s.removeContentUnder f r c).2 = .ok true →
    (s.removeContentUnder f r c).1.lengthIn b (s.identifier c) = .ok none
  /-- It stays absent until it is opened for writing, if its row has no live writer. -/
  stays : ∀ f r b c, s.backend? r = some b → c < s.claims.length →
    (s.removeContentUnder f r c).2 = .ok true →
      (∀ d p w, b = .database d p w → ∀ h, ¬ RowWriter l s h d (s.identifier c)) →
        ∀ ops, Unopened l (s.removeContentUnder f r c).1 b (s.identifier c) ops →
          ((s.removeContentUnder f r c).1.runUnder ops).lengthIn b (s.identifier c) = .ok none

/-- **Removals where the ledger is true.**

**Proof sketch.** A removal that succeeds found no reference. Every handle that uses content refers
to a claim of its identifier, and where that is the only claim there is none; in a table the erase
itself finds an owner. What is absent afterwards stays so until it is opened for writing. -/
lemma Viewed.removing (hv : Viewed l s) (hd : s.disk.Sound)
    (hl : ∀ h y, l h = some y → y.claim < s.claims.length ∧ s.identifier y.claim = y.identifier) :
    Removing l s where
  unreferenced f r c h i := by
    obtain ⟨-, hzero, -⟩ := removeContentUnder_ok h
    refine Bool.eq_false_iff.2 fun hr => ?_
    exact absurd hzero (Nat.ne_of_gt (hv.tells.references_pos hv.sound hr))
  unowned f r t w c hb h i := by
    obtain ⟨heq, hzero, -⟩ := removeContentUnder_ok h
    rw [heq, removeContent_eq hb, removeIn_of_unreferenced hzero, eraseIn] at h
    exact hv.unused_of_removed (backendOf?_of_backend? hb) (removed_of_removeInTable h).1
  unused f r c hsole h r' i := by
    obtain ⟨-, hzero, -⟩ := removeContentUnder_ok h
    refine Bool.eq_false_iff.2 fun hu => ?_
    obtain ⟨y, hy, hyu⟩ := Ledger.uses_iff.1 hu
    obtain ⟨hrefers, hx⟩ := Holder.refers_of_uses hyu
    obtain ⟨hlt, hident⟩ := hl i y hy
    have hc := hsole y.claim hlt (hident.trans hx)
    have hpos := hv.tells.references_pos hv.sound (h := i) (c := c) (by
      rw [Ledger.refersTo, hy]
      simp [hc, hrefers])
    exact Nat.ne_of_gt hpos hzero
  absent f r b c hb h := by
    obtain ⟨heq, -, -⟩ := removeContentUnder_ok h
    rw [heq] at h ⊢
    -- whether a handle is about to store something does not matter yet
    refine (vacant_removeContent (l := .empty) hv.sound hd hb h fun d p w _ i => ?_).lengthIn_eq
    rintro ⟨_, _, _, -, hw⟩
    cases hw
  stays f r b c hb hc h hidle ops hnot := by
    have hstep : s.stepUnder f (.removeContent r c) = (s.removeContentUnder f r c).1 :=
      if_pos (decide_eq_true hc)
    have hledger : l.after f s (.removeContent r c) = l := ite_self l
    have ht := hv.tells.stepUnder hv.sound f (.removeContent r c)
    have hs := hv.sound.stepUnder (f := f) (.removeContent r c)
    have hd' := (extends_stepUnder hv.sound hd f (.removeContent r c)).sound hd
    rw [hstep] at ht hs hd'
    rw [hledger] at ht
    obtain ⟨heq, -, -⟩ := removeContentUnder_ok h
    rw [heq] at h ht hs hd' hnot ⊢
    exact (vacant_removeContent hv.sound hd hb h hidle).lengthIn_runUnder ht hs hd' ops hnot

/-- **Removals in every reachable state.** After every run, whatever fails on the way, a removal
that succeeds finds nobody who refers to the content through its claim, nobody who uses it in a
volatile repository, and, where no other claim has the identifier, nobody who uses it at all; and
what it removed stays absent until it is opened for writing. -/
theorem removing_runUnder (name : String) (ops : List (Faults × Operation κ)) :
    Removing (ledgerOf name ops) ((onDirectory name : Store κ).runUnder ops) := by
  refine (viewed_runUnder name ops).removing (disk_sound_runUnder name ops) ?_
  have hclaims := ledger_induction (P := fun (s : Store κ) l => Viewed l s ∧
      ∀ h y, l h = some y → y.claim < s.claims.length ∧ s.identifier y.claim = y.identifier)
    (fun f s l op ⟨hv, hl⟩ => ⟨hv.stepUnder f op, fun h y hy =>
      entry_claim hl (hv.tells.grows_stepUnder hv.sound f op) hy⟩)
    ⟨viewed_empty name, fun h y hy => nomatch hy⟩ ops
  exact hclaims.2

/-- A run with two claims of one identifier: a file of three bytes is mapped through the first. -/
def sharedFile : List (Operation Nat) :=
  [.openRepository (.files (.ofString "d")), .addClaim "x" (some 0), .addClaim "x" (some 0),
    .writeClaim 0 false, .writeData 0 ⟨.ofList [1, 2, 3], Payload.size_three_lt⟩, .drop 0,
    .mapClaim 0 3 true]

/-- A run with two claims of one identifier: a row of one byte has a writer through the first. -/
def sharedRow : List (Operation Nat) :=
  [.openRepository (.database (.ofString "/d/rows")), .addClaim "x" (some 0),
    .addClaim "x" (some 0), .writeClaim 0 false, .writeData 0 ⟨.ofList [1], by decide⟩, .drop 0,
    .writeClaim 0 true]

/-- **A removal through another claim** takes a file away from a mapping that is live, and a row
from a writer that brings it back when it is closed. -/
theorem not_removing_shared :
    (¬ ∀ (ops : List (Operation Nat)) r c h,
      (((onDirectory "d" : Store).run ops).removeContent r c).2 = .ok true →
        (ledgerOf "d" (ops.map (Faults.quiet, ·))).uses r
          (((onDirectory "d" : Store).run ops).identifier c) h = false) ∧
      ¬ ∀ (ops : List (Operation Nat)) r b c h, ((onDirectory "d" : Store).run ops).backend? r = some b →
        (((onDirectory "d" : Store).run ops).removeContent r c).2 = .ok true →
          (((((onDirectory "d" : Store).run ops).removeContent r c).1.close h).lengthIn b
            (((onDirectory "d" : Store).run ops).identifier c)) = .ok none := by
  constructor
  · intro h
    have hused := h sharedFile 0 1 1 (by decide +kernel)
    revert hused
    decide +kernel
  · intro h
    have habsent := h sharedRow 0 (.database 0 (.ofString "/d/rows") 0) 1 1 (by decide +kernel)
      (by decide +kernel)
    revert habsent
    decide +kernel

end Store

end ClaimStore
