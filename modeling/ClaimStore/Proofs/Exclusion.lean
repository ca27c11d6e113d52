import ClaimStore.Proofs.EntryRefusals
import ClaimStore.Proofs.Ownership
import ClaimStore.Proofs.SingleWriter
import ClaimStore.Proofs.ValueViews

/-!
# Readers or one writer

A stored value has readers or one writer at a time, never both. The handles that were opened for its
identifier count, and so do the guards and the mappings that were taken through the table. An open
is refused for a writer exactly where it would make a reader beside a writer, or a writer beside
anybody.

## Main definitions

* `Holder.reads`, `Ledger.readsFrom` — the live readers of an identifier.
* `Store.Place` — where a handle is among the locks.
* `Store.Exclusion` — who reads and who writes what is stored.

## Main results

* `Store.place` — live readers and writers of a volatile repository are inside the locks.
* `Store.Viewed.exclusion` — readers or one writer wherever views are as they have to be.
-/

set_option autoImplicit false

namespace ClaimStore

/-! ### Readers and writers -/

/-- The repository through which a handle was opened. -/
def Grip.repository? : Grip → Option RepositoryId
  | .mapping r _ | .reader r | .writer r => some r
  | .reference => none

namespace Holder

/-- The holder is a live reader of an identifier of a repository: a read-only mapping that was not
unmapped, or a reader. -/
def reads (y : Holder) (r : RepositoryId) (x : String) : Bool :=
  !y.ended && y.identifier == x && (y.grip == .mapping r true || y.grip == .reader r)

variable {y : Holder} {r r' : RepositoryId} {x : String}

/-- What it means to read an identifier in a repository: a live read-only mapping, or a live
reader. -/
lemma reads_iff : y.reads r x = true ↔
    y.ended = false ∧ y.identifier = x ∧ (y.grip = .mapping r true ∨ y.grip = .reader r) := by
  simp [reads, and_assoc]

/-- A live reader reads through its repository. -/
lemma repository_of_reads (h : y.reads r x = true) : y.grip.repository? = some r := by
  rcases (reads_iff.1 h).2.2 with hg | hg <;> rw [hg] <;> rfl

/-- A live writer writes through its repository. -/
lemma repository_of_writes (h : y.writes r x = true) : y.grip.repository? = some r := by
  rcases (writes_iff.1 h).2.2 with hg | hg <;> rw [hg] <;> rfl

/-- What a reader reads. -/
lemma reads_of_grip (hlive : y.ended = false) (hg : y.grip = .mapping r true ∨ y.grip = .reader r) :
    y.reads r' x = true ↔ r' = r ∧ x = y.identifier := by
  rw [reads_iff]
  constructor
  · rintro ⟨-, hx, h⟩
    rcases hg with hg | hg <;> rcases h with h | h <;> cases hg.symm.trans h <;>
      exact ⟨rfl, hx.symm⟩
  · rintro ⟨rfl, rfl⟩
    exact ⟨hlive, rfl, hg⟩

/-- What a writer writes. -/
lemma writes_of_grip (hlive : y.ended = false)
    (hg : y.grip = .mapping r false ∨ y.grip = .writer r) :
    y.writes r' x = true ↔ r' = r ∧ x = y.identifier := by
  rw [writes_iff]
  constructor
  · rintro ⟨-, hx, h⟩
    rcases hg with hg | hg <;> rcases h with h | h <;> cases hg.symm.trans h <;>
      exact ⟨rfl, hx.symm⟩
  · rintro ⟨rfl, rfl⟩
    exact ⟨hlive, rfl, hg⟩

/-- A reader writes nothing. -/
lemma writes_eq_false (hg : y.grip = .mapping r true ∨ y.grip = .reader r) (r' : RepositoryId)
    (x : String) : y.writes r' x = false := by
  refine Bool.eq_false_iff.2 fun h => ?_
  rcases hg with hg | hg <;> rcases (writes_iff.1 h).2.2 with hg' | hg' <;>
    cases hg.symm.trans hg'

/-- A writer reads nothing. -/
lemma reads_eq_false (hg : y.grip = .mapping r false ∨ y.grip = .writer r) (r' : RepositoryId)
    (x : String) : y.reads r' x = false := by
  refine Bool.eq_false_iff.2 fun h => ?_
  rcases hg with hg | hg <;> rcases (reads_iff.1 h).2.2 with hg' | hg' <;>
    cases hg.symm.trans hg'

/-- What ended neither reads nor writes. -/
lemma eq_false_of_ended (h : y.ended = true) (r : RepositoryId) (x : String) :
    y.reads r x = false ∧ y.writes r x = false := by
  simp [reads, writes, h]

end Holder

namespace Ledger

/-- The handle is a live reader of an identifier of a repository. -/
def readsFrom (l : Ledger) (r : RepositoryId) (x : String) (h : HandleId) : Bool :=
  (l h).any fun y => y.reads r x

variable {l : Ledger} {r : RepositoryId} {x : String} {h : HandleId}

/-- A handle reads where its entry in the ledger says so. -/
lemma readsFrom_iff : l.readsFrom r x h = true ↔ ∃ y, l h = some y ∧ y.reads r x = true := by
  simp [readsFrom, Option.any_eq_true]

end Ledger

namespace Store

variable {κ : Type} {s : Store κ} {l : Ledger}

/-! ### Where handles of claims are -/

section Places

variable {y : Holder} {z : Handle}

/-- **Where a handle that was opened for a claim is** among the locks of values: nowhere, or inside
the lock of the entry that it owns, as what it was opened as. -/
inductive Place (s : Store κ) (y : Holder) (z : Handle) : Prop
  /-- It ended, or its content is elsewhere. -/
  | nowhere (reads_eq : z.reads? = none) (writes_eq : z.writes? = none)
      (off : ∀ r t w x, s.backendOf? r = some (.volatile t w) →
        y.reads r x = false ∧ y.writes r x = false)
  /-- It reads. -/
  | reading {r : RepositoryId} {w : RegistryId} {t : TableId} {e : EntryId}
      (backend_eq : s.backendOf? r = some (.volatile t w)) (live : y.ended = false)
      (grip_eq : y.grip = .mapping r true ∨ y.grip = .reader r) (owned_eq : z.owned? = some (t, e))
      (reads_eq : z.reads? = some (t, e)) (writes_eq : z.writes? = none)
  /-- It writes. -/
  | writing {r : RepositoryId} {w : RegistryId} {t : TableId} {e : EntryId}
      (backend_eq : s.backendOf? r = some (.volatile t w)) (live : y.ended = false)
      (grip_eq : y.grip = .mapping r false ∨ y.grip = .writer r) (owned_eq : z.owned? = some (t, e))
      (reads_eq : z.reads? = none) (writes_eq : z.writes? = some (t, e))

/-- A handle of a repository that is not volatile is nowhere. -/
lemma place_outside {r : RepositoryId} {b : Backend} (hb : s.backendOf? r = some b)
    (hne : ∀ t w, b ≠ .volatile t w) (hg : y.grip.repository? = some r)
    (hreads : z.reads? = none) (hwrites : z.writes? = none) : Place s y z := by
  have off : ∀ {r' t w}, s.backendOf? r' = some (.volatile t w) →
      y.grip.repository? ≠ some r' := by
    rintro r' t w hb' hg'
    obtain rfl := Option.some.inj (hg.symm.trans hg')
    exact hne t w (Option.some.inj (hb.symm.trans hb'))
  exact .nowhere hreads hwrites fun r' t w x hb' =>
    ⟨Bool.eq_false_iff.2 fun h => off hb' (Holder.repository_of_reads h),
      Bool.eq_false_iff.2 fun h => off hb' (Holder.repository_of_writes h)⟩

/-- **A handle has its place** by its entry in the ledger. -/
lemma place (hd : Described s (some y) z)
    (hspent : y.ended = true → z.reads? = none ∧ z.writes? = none) : Place s y z := by
  have ended : y.ended = true → Place s y z := fun h =>
    .nowhere (hspent h).1 (hspent h).2 fun r _ _ x _ => Holder.eq_false_of_ended h r x
  cases hd with
  | reference => exact .nowhere rfl rfl fun r t w x _ => by simp [Holder.reads, Holder.writes]
  | @mapped c x r b m hb _ _ _ _ hbacks =>
    obtain ⟨backing, readOnly, hooks⟩ := m
    replace hbacks : b.Backs readOnly backing := hbacks
    cases hbacks with
    | file => exact place_outside hb (by simp) rfl rfl rfl
    | row => exact place_outside hb (by simp) rfl rfl rfl
    | entry t w e n =>
      cases readOnly with
      | true => exact .reading hb rfl (.inl rfl) rfl rfl rfl
      | false => exact .writing hb rfl (.inl rfl) rfl rfl rfl
  | unmapped => exact ended rfl
  | @reader c x r b k hb _ hsources =>
    obtain ⟨claim, source, position⟩ := k
    replace hsources : b.Sources source := hsources
    cases hsources with
    | file => exact place_outside hb (by simp) rfl rfl rfl
    | row => exact place_outside hb (by simp) rfl rfl rfl
    | entry t w e => exact .reading hb rfl (.inr rfl) rfl rfl rfl
  | @writing c x r b k hb _ hlease hsinks =>
    obtain ⟨claim, sink, n, lease⟩ := k
    obtain rfl : lease = some (.write b.writers x) := hlease
    replace hsinks : b.Sinks x sink := hsinks
    cases hsinks with
    | file => exact place_outside hb (by simp) rfl rfl rfl
    | row => exact place_outside hb (by simp) rfl rfl rfl
    | entry t w e => exact .writing hb rfl (.inr rfl) rfl rfl rfl
  | closed => exact ended rfl

end Places

/-- Somebody is inside a lock exactly if a handle reads or writes. -/
lemma Sound.inside_iff (hs : s.Sound) {t : TableId} {e : EntryId} :
    0 < (s.table t).tally e .readLock ∨ 0 < (s.table t).tally e .writeLock ↔
      ∃ h, s.readsValue t e h = true ∨ s.writesValue t e h = true := by
  rw [hs.readLock_pos_iff, hs.writeLock_pos_iff, exists_or]

variable [DecidableEq κ]

namespace Viewed

variable {h : HandleId} {y : Holder} {r : RepositoryId} {t : TableId} {w : RegistryId} {x : String}
  {e : EntryId}

omit [DecidableEq κ] in
/-- A handle with an entry in the ledger has its place. -/
lemma exists_place (hv : Viewed l s) (hy : l h = some y) :
    ∃ z, s.handle? h = some z ∧ Place s y z := by
  obtain ⟨z, hz⟩ := Option.ne_none_iff_exists'.1 fun hn => by simp [hv.tells.live h hn] at hy
  exact ⟨z, hz, place (hy ▸ hv.tells.described h z hz) fun hended => hv.spent h y z hy hended hz⟩

/-- What is owned is stored under the identifier. -/
lemma find?_eq (hv : Viewed l s) {z : Handle} (hy : l h = some y) (hz : s.handle? h = some z)
    (ho : z.owned? = some (t, e)) : (s.table t).find? (.text y.identifier) = some e :=
  (hv.sound.tables_sound t).toRegular.find?_of_keyOf? (hv.sound.stored_of_owned hz ho)
    (hv.keyed h y z t e hy hz ho)

/-- **An identifier that has a live reader** has a stored value, and the reader reads it. -/
lemma stored_of_readsFrom (hv : Viewed l s) (hb : s.backendOf? r = some (.volatile t w))
    (hr : l.readsFrom r x h = true) :
    ∃ e, (s.table t).find? (.text x) = some e ∧ s.readsValue t e h = true := by
  obtain ⟨y, hy, hreads⟩ := Ledger.readsFrom_iff.1 hr
  obtain ⟨z, hz, hplace⟩ := hv.exists_place hy
  cases hplace with
  | nowhere _ _ off => cases (off r t w x hb).1.symm.trans hreads
  | @reading r' w' t' e hb' hlive hg ho hzr hzw =>
    obtain ⟨rfl, rfl⟩ := (Holder.reads_of_grip hlive hg).1 hreads
    obtain ⟨rfl, -⟩ := Backend.volatile.inj (Option.some.inj (hb'.symm.trans hb))
    exact ⟨e, hv.find?_eq hy hz ho, readsValue_iff.2 ⟨z, hz, hzr⟩⟩
  | writing _ _ hg _ _ _ => cases (Holder.reads_eq_false hg r x).symm.trans hreads

/-- **An identifier that has a live writer** has a stored value, and the writer writes it. -/
lemma stored_of_writesTo (hv : Viewed l s) (hb : s.backendOf? r = some (.volatile t w))
    (hw : l.writesTo r x h = true) :
    ∃ e, (s.table t).find? (.text x) = some e ∧ s.writesValue t e h = true := by
  obtain ⟨y, hy, hwrites⟩ := Ledger.writesTo_iff.1 hw
  obtain ⟨z, hz, hplace⟩ := hv.exists_place hy
  cases hplace with
  | nowhere _ _ off => cases (off r t w x hb).2.symm.trans hwrites
  | reading _ _ hg _ _ _ => cases (Holder.writes_eq_false hg r x).symm.trans hwrites
  | @writing r' w' t' e hb' hlive hg ho hzr hzw =>
    obtain ⟨rfl, rfl⟩ := (Holder.writes_of_grip hlive hg).1 hwrites
    obtain ⟨rfl, -⟩ := Backend.volatile.inj (Option.some.inj (hb'.symm.trans hb))
    exact ⟨e, hv.find?_eq hy hz ho, writesValue_iff.2 ⟨z, hz, hzw⟩⟩

/-- A lease that is taken is that of a writer inside the lock. -/
lemma inside_of_isWriting (hv : Viewed l s) (hb : s.backendOf? r = some (.volatile t w))
    (hf : (s.table t).find? (.text x) = some e)
    (hw : (s.writerRegistry w).isWriting x = true) : 0 < (s.table t).tally e .writeLock := by
  obtain ⟨h, hh⟩ := (hv.tells.isWriting_iff hv.sound hb).1 hw
  obtain ⟨e', hf', hw'⟩ := hv.stored_of_writesTo hb hh
  obtain rfl := Option.some.inj (hf'.symm.trans hf)
  exact hv.sound.writeLock_pos_iff.2 ⟨h, hw'⟩

section Stored

variable (hv : Viewed l s) (hf : (s.table t).find? (.text x) = some e)
include hv hf

/-- What is owned of the entry of an identifier is owned through the identifier. -/
lemma identifier_eq {z : Handle} (hy : l h = some y) (hz : s.handle? h = some z)
    (ho : z.owned? = some (t, e)) : x = y.identifier := by
  have hkey := (EntryTable.keyOf?_of_find? hf).symm.trans (hv.keyed h y z t e hy hz ho)
  exact Key.text.inj (Option.some.inj hkey)

/-- **A handle of a claim reads a stored value** exactly if it is a live reader of the
identifier. -/
lemma readsValue_iff_readsFrom (hl : (l h).isSome = true) : s.readsValue t e h = true ↔
    ∃ r w, s.backendOf? r = some (.volatile t w) ∧ l.readsFrom r x h = true := by
  constructor
  · intro hr
    obtain ⟨z, hz, hzr⟩ := readsValue_iff.1 hr
    obtain ⟨y, hy⟩ := Option.isSome_iff_exists.1 hl
    obtain ⟨z', hz', hplace⟩ := hv.exists_place hy
    obtain rfl := Option.some.inj (hz.symm.trans hz')
    cases hplace with
    | nowhere hnone _ _ => cases hnone.symm.trans hzr
    | @reading r w t' e' hb hlive hg ho hzr' _ =>
      obtain ⟨rfl, rfl⟩ := Prod.mk.inj (Option.some.inj (hzr'.symm.trans hzr))
      exact ⟨r, w, hb, Ledger.readsFrom_iff.2 ⟨y, hy,
        (Holder.reads_of_grip hlive hg).2 ⟨rfl, hv.identifier_eq hf hy hz ho⟩⟩⟩
    | writing _ _ _ _ hnone _ => cases hnone.symm.trans hzr
  · rintro ⟨r, w, hb, hr⟩
    obtain ⟨e', hf', hr'⟩ := hv.stored_of_readsFrom hb hr
    obtain rfl := Option.some.inj (hf'.symm.trans hf)
    exact hr'

/-- **It writes it** exactly if it is a live writer of the identifier. -/
lemma writesValue_iff_writesTo (hl : (l h).isSome = true) : s.writesValue t e h = true ↔
    ∃ r w, s.backendOf? r = some (.volatile t w) ∧ l.writesTo r x h = true := by
  constructor
  · intro hw
    obtain ⟨z, hz, hzw⟩ := writesValue_iff.1 hw
    obtain ⟨y, hy⟩ := Option.isSome_iff_exists.1 hl
    obtain ⟨z', hz', hplace⟩ := hv.exists_place hy
    obtain rfl := Option.some.inj (hz.symm.trans hz')
    cases hplace with
    | nowhere _ hnone _ => cases hnone.symm.trans hzw
    | reading _ _ _ _ _ hnone => cases hnone.symm.trans hzw
    | @writing r w t' e' hb hlive hg ho _ hzw' =>
      obtain ⟨rfl, rfl⟩ := Prod.mk.inj (Option.some.inj (hzw'.symm.trans hzw))
      exact ⟨r, w, hb, Ledger.writesTo_iff.2 ⟨y, hy,
        (Holder.writes_of_grip hlive hg).2 ⟨rfl, hv.identifier_eq hf hy hz ho⟩⟩⟩
  · rintro ⟨r, w, hb, hw⟩
    obtain ⟨e', hf', hw'⟩ := hv.stored_of_writesTo hb hw
    obtain rfl := Option.some.inj (hf'.symm.trans hf)
    exact hw'

end Stored

end Viewed

/-! ### All states -/

variable [ToString κ]

/-- **Readers or one writer**: who reads and who writes what is stored, and which opens are
refused. -/
structure Exclusion (l : Ledger) (s : Store κ) : Prop where
  /-- Whoever writes a value is the only one that reads or writes it. -/
  alone : ∀ t e h, s.writesValue t e h = true →
    (∀ i, s.readsValue t e i = false) ∧ ∀ i, s.writesValue t e i = true → i = h
  /-- So is a live writer of an identifier. -/
  apart : ∀ r t w x h, s.backendOf? r = some (.volatile t w) → l.writesTo r x h = true →
    (∀ i, l.readsFrom r x i = false) ∧ ∀ i, l.writesTo r x i = true → i = h
  /-- A live reader or writer of an identifier has a stored value there. -/
  stored : ∀ r t w x h, s.backendOf? r = some (.volatile t w) →
    l.readsFrom r x h = true ∨ l.writesTo r x h = true →
    ((s.table t).find? (.text x)).isSome = true
  /-- A handle that was opened for a claim reads a stored value exactly if it is a live reader. -/
  reads_iff : ∀ t x e h, (s.table t).find? (.text x) = some e → (l h).isSome = true →
    (s.readsValue t e h = true ↔
      ∃ r w, s.backendOf? r = some (.volatile t w) ∧ l.readsFrom r x h = true)
  /-- It writes it exactly if it is a live writer. -/
  writes_iff : ∀ t x e h, (s.table t).find? (.text x) = some e → (l h).isSome = true →
    (s.writesValue t e h = true ↔
      ∃ r w, s.backendOf? r = some (.volatile t w) ∧ l.writesTo r x h = true)
  /-- Readers and read-only mappings of a stored claim are refused exactly while there is a
  writer. -/
  reads_refused : ∀ r t w c e, s.backend? r = some (.volatile t w) →
    (s.table t).find? (.text (s.identifier c)) = some e → ∀ f,
    (failureKind? (s.readContentUnder f r c).2 = some .writerActive ↔
      ∃ h, s.writesValue t e h = true) ∧
      ∀ n, failureKind? (s.mapContentUnder f r c n true).2 = some .writerActive ↔
        ∃ h, s.writesValue t e h = true
  /-- Writers and writable mappings are refused exactly while there is a reader or a writer. -/
  writes_refused : ∀ r t w c e, s.backend? r = some (.volatile t w) →
    (s.table t).find? (.text (s.identifier c)) = some e → ∀ f,
    (∀ append, failureKind? (s.writeContentUnder f r c append).2 = some .writerActive ↔
      ∃ h, s.readsValue t e h = true ∨ s.writesValue t e h = true) ∧
      ∀ n, failureKind? (s.mapContentUnder f r c n false).2 = some .writerActive ↔
        ∃ h, s.readsValue t e h = true ∨ s.writesValue t e h = true
  /-- Through a claim its repository is asked. -/
  routed : ∀ r b c, s.repositoryOf c = some (r, b) → ∀ f,
    (∀ n readOnly, s.mapClaimUnder f c n readOnly = s.mapContentUnder f r c n readOnly) ∧
      s.readClaimUnder f c = s.readContentUnder f r c ∧
      ∀ append, s.writeClaimUnder f c append = s.writeContentUnder f r c append

/-- **Readers or one writer**, wherever views are as they have to be.

**Proof sketch.** The locks of a value are counted by the handles that read it or write to it. A
lock for writing excludes all others, so a handle that writes is alone, and an open is refused
exactly where the lock that it needs is taken. -/
lemma Viewed.exclusion (hv : Viewed l s) : Exclusion l s where
  alone t e h hw := by
    refine ⟨fun i => Bool.eq_false_iff.2 fun hi => ?_, fun i hi =>
      hv.sound.writer_alone (hv.exclusive t) hw (.inr hi)⟩
    have hpos := hv.sound.readLock_pos_iff.2 ⟨i, hi⟩
    exact Nat.ne_of_gt hpos (hv.sound.readers_eq_zero (hv.exclusive t) hw)
  apart r t w x h hb hw := by
    obtain ⟨e, hf, hwv⟩ := hv.stored_of_writesTo hb hw
    refine ⟨fun i => Bool.eq_false_iff.2 fun hi => ?_, fun i hi =>
      hv.tells.writer_unique hv.sound hb hi hw⟩
    obtain ⟨e', hf', hr⟩ := hv.stored_of_readsFrom hb hi
    obtain rfl := Option.some.inj (hf'.symm.trans hf)
    have hpos := hv.sound.readLock_pos_iff.2 ⟨i, hr⟩
    exact Nat.ne_of_gt hpos (hv.sound.readers_eq_zero (hv.exclusive t) hwv)
  stored r t w x h hb hlive := by
    rcases hlive with hr | hw
    · obtain ⟨e, hf, -⟩ := hv.stored_of_readsFrom hb hr
      exact Option.isSome_iff_exists.2 ⟨e, hf⟩
    · obtain ⟨e, hf, -⟩ := hv.stored_of_writesTo hb hw
      exact Option.isSome_iff_exists.2 ⟨e, hf⟩
  reads_iff t x e h hf hl := hv.readsValue_iff_readsFrom hf hl
  writes_iff t x e h hf hl := hv.writesValue_iff_writesTo hf hl
  reads_refused r t w c e hb hf f := by
    rw [← hv.sound.writeLock_pos_iff]
    refine ⟨?_, fun n => ?_⟩
    · rw [readContentUnder, Store.inRepository, hb]
      exact refused_readInTable_iff hf
    · rw [mapContentUnder, Store.inRepository, hb]
      exact refused_mapInTable_iff hf w n
  writes_refused r t w c e hb hf f := by
    -- whoever has the lease is inside the lock
    have taken : (s.writerRegistry w).isWriting (s.identifier c) = true ∨
        (0 < (s.table t).tally e .readLock ∨ 0 < (s.table t).tally e .writeLock) ↔
          0 < (s.table t).tally e .readLock ∨ 0 < (s.table t).tally e .writeLock :=
      or_iff_right_of_imp fun hw =>
        .inr (hv.inside_of_isWriting (backendOf?_of_backend? hb) hf hw)
    rw [← hv.sound.inside_iff, ← taken]
    refine ⟨fun append => ?_, fun n => ?_⟩
    · rw [writeContentUnder, Store.inRepository, hb]
      exact refused_writeInTable_iff hf w append
    · rw [mapContentUnder, Store.inRepository, hb]
      exact refused_mapInTable_writable_iff hf w n
  routed r b c hr f :=
    ⟨fun n readOnly => routed_eq hr _, routed_eq hr _, fun append => routed_eq hr _⟩

end Store

end ClaimStore
