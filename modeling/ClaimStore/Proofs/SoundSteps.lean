import ClaimStore.Proofs.Operation
import ClaimStore.Proofs.SoundHandles

/-!
# All steps keep states sound

The operations on repositories, claims and tables, and with them every step and every run: whatever
callers do, in whatever order, each counter of the store agrees with the handles.

## Main results

* `Store.took_openRepository`, `Store.took_addClaim` — what is added takes nothing.
* `Store.Sound.step` — every operation keeps a state sound.
* `Store.sound_run` — every run from an empty store ends in a sound state.
-/

set_option autoImplicit false

namespace ClaimStore.Store

variable {κ : Type}

/-! ### Repositories and claims -/

/-- One element more at the end of a list: either a place shows what it showed before, or it was
empty and shows the new element. -/
lemma getElem?_concat_cases {α : Type} (l : List α) (a : α) (i : Nat) :
    (l ++ [a])[i]? = l[i]? ∨ l[i]? = none ∧ (l ++ [a])[i]? = some a := by
  rcases Nat.lt_trichotomy i l.length with h | h | h
  · exact .inl (List.getElem?_append_left h)
  · subst h
    exact .inr ⟨List.getElem?_eq_none (Nat.le_refl _), List.getElem?_concat_length⟩
  · refine .inl ?_
    rw [List.getElem?_eq_none (by simp; omega), List.getElem?_eq_none (by omega)]

/-- A new registry of writers has no lease. -/
lemma took_addWriterRegistry (s : Store κ) : Took s s.addWriterRegistry.1 [] where
  handles_eq := rfl
  counted_eq r := by
    rcases r with c | (⟨g, x⟩ | ⟨g, x⟩) | ⟨t, e⟩ | ⟨t, e⟩ | ⟨t, e⟩ | d
    · rfl
    · simp only [counted, writerRegistry, addWriterRegistry, List.count_nil, Nat.add_zero]
      rcases getElem?_concat_cases s.writerRegistries .empty g with h | ⟨h, h'⟩
      · rw [h]
      · rw [h, h']
    all_goals rfl
  tables_sound h := h
  backends_known h x hx := Knows.mono (by simp [addWriterRegistry])
    (by simp [addWriterRegistry]) (by simp [addWriterRegistry]) (h x hx)

/-- A new registry of readers has no lease. -/
lemma took_addReaderRegistry (s : Store κ) : Took s s.addReaderRegistry.1 [] where
  handles_eq := rfl
  counted_eq r := by
    rcases r with c | (⟨g, x⟩ | ⟨g, x⟩) | ⟨t, e⟩ | ⟨t, e⟩ | ⟨t, e⟩ | d
    · rfl
    · rfl
    · simp only [counted, readerRegistry, addReaderRegistry, List.count_nil, Nat.add_zero]
      rcases getElem?_concat_cases s.readerRegistries .empty g with h | ⟨h, h'⟩
      · rw [h]
      · rw [h, h']
    all_goals rfl
  tables_sound h := h
  backends_known h x hx := Knows.mono (by simp [addReaderRegistry])
    (by simp [addReaderRegistry]) (by simp [addReaderRegistry]) (h x hx)

/-- A table after one was added. -/
lemma table_addTable (s : Store κ) (maxBytes maxCount : UInt64) (t : TableId) :
    (s.addTable maxBytes maxCount).1.table t = s.table t ∨
      (s.addTable maxBytes maxCount).1.table t = .new maxBytes maxCount ∧ s.table t = .new 0 0 := by
  unfold table addTable
  rcases getElem?_concat_cases s.tables (.new maxBytes maxCount) t with h | ⟨h, h'⟩
  · rw [h]
    exact .inl rfl
  · rw [h, h']
    exact .inr ⟨rfl, rfl⟩

/-- A new table has no entry. -/
lemma took_addTable (s : Store κ) (maxBytes maxCount : UInt64) :
    Took s (s.addTable maxBytes maxCount).1 [] where
  handles_eq := rfl
  counted_eq r := by
    have htally : ∀ t e p,
        ((s.addTable maxBytes maxCount).1.table t).tally e p = (s.table t).tally e p := by
      intro t e p
      rcases s.table_addTable maxBytes maxCount t with h | ⟨h, h'⟩
      · rw [h]
      · rw [h, h']
        rfl
    rcases r with c | (⟨g, x⟩ | ⟨g, x⟩) | ⟨t, e⟩ | ⟨t, e⟩ | ⟨t, e⟩ | d
    · rfl
    · rfl
    · rfl
    · exact htally t e .owner
    · exact htally t e .readLock
    · exact htally t e .writeLock
    · rfl
  tables_sound h t := by
    rcases s.table_addTable maxBytes maxCount t with ht | ⟨ht, -⟩
    · exact ht ▸ h t
    · exact ht ▸ EntryTable.sound_new maxBytes maxCount
  backends_known h x hx := Knows.mono (by simp [addTable]) (by simp [addTable])
    (by simp [addTable]) (h x hx)

/-- A repository is added whose parts are there. -/
lemma took_addRepository {s : Store κ} {b : Backend} (hb : s.Knows b) :
    Took s (s.addRepository b).1 [] where
  handles_eq := rfl
  counted_eq r := counted_congr rfl rfl rfl rfl r
  tables_sound h := h
  backends_known h x hx := by
    rcases List.mem_append.1 hx with hx | hx
    · exact h x hx
    · obtain rfl := List.mem_singleton.1 hx
      exact hb

/-- Opening a database file takes nothing. -/
lemma took_openDatabase (s : Store κ) (p : Path) : Took s (s.openDatabase p).1 [] := by
  have outside : ∀ s' : Store κ, s'.handles = s.handles → s'.claims = s.claims →
      s'.writerRegistries = s.writerRegistries → s'.readerRegistries = s.readerRegistries →
      s'.tables = s.tables → s'.repositories = s.repositories → Took s s' [] :=
    fun _ => Took.of_eq
  unfold openDatabase
  split
  · exact outside _ rfl rfl rfl rfl rfl rfl
  · split
    · exact outside _ rfl rfl rfl rfl rfl rfl
    · dsimp only
      split
      · exact outside _ rfl rfl rfl rfl rfl rfl
      · split
        · unfold formatDatabase
          dsimp only
          split <;> exact outside _ rfl rfl rfl rfl rfl rfl
        · split <;> exact outside _ rfl rfl rfl rfl rfl rfl

/-- A repository that is opened takes nothing. -/
lemma took_openRepository (s : Store κ) (kind : RepositoryKind) :
    Took s (s.openRepository kind).1 [] := by
  cases kind with
  | files directory =>
    rw [openRepository, openFiles]
    split
    · exact took_disk s _
    · next d h =>
      refine (((took_disk s d).trans (took_addWriterRegistry _)).trans
        (took_addReaderRegistry _)).trans (took_addRepository ?_)
      simp [Knows, addWriterRegistry, addReaderRegistry]
  | volatile maxBytes maxCount =>
    rw [openRepository, openVolatile]
    refine ((took_addTable s _ _).trans (took_addWriterRegistry _)).trans (took_addRepository ?_)
    simp [Knows, addWriterRegistry, addTable]
  | database p =>
    have took := took_openDatabase s p
    rw [openRepository, openRows]
    split
    · next s' f h =>
      rw [h] at took
      exact took
    · next s' d h =>
      rw [h] at took
      refine (took.trans (took_addWriterRegistry s')).trans (took_addRepository ?_)
      simp [Knows, addWriterRegistry]

/-- A store with one repository is sound, on any disk. -/
lemma sound_openRepository (d : Disk) (kind : RepositoryKind) :
    ((onDisk d : Store κ).openRepository kind).1.Sound :=
  ((sound_onDisk d).took (took_openRepository _ kind)).sound

/-- A repository that is closed takes nothing. -/
lemma took_closeRepository (s : Store κ) (r : RepositoryId) :
    Took s (s.closeRepository r) [] where
  handles_eq := rfl
  counted_eq r := counted_congr rfl rfl rfl rfl r
  tables_sound h := h
  backends_known h x hx := by
    obtain ⟨i, hi⟩ := List.getElem?_of_mem hx
    rw [closeRepository, List.getElem?_modify] at hi
    obtain ⟨y, hy, rfl⟩ := Option.map_eq_some_iff.1 hi
    split
    · exact h y (List.mem_of_getElem? hy)
    · exact h y (List.mem_of_getElem? hy)

/-- A new claim is not referenced. -/
lemma took_addClaim (s : Store κ) (identifier : String) (r : Option RepositoryId) :
    Took s (s.addClaim identifier r).1 [] where
  handles_eq := rfl
  counted_eq r' := by
    rcases r' with c | (⟨g, x⟩ | ⟨g, x⟩) | ⟨t, e⟩ | ⟨t, e⟩ | ⟨t, e⟩ | d
    · simp only [counted, references, addClaim, List.count_nil, Nat.add_zero]
      rcases getElem?_concat_cases s.claims { identifier, repository := r, references := 0 } c
        with h | ⟨h, h'⟩
      · rw [h]
      · rw [h, h']
    all_goals rfl
  tables_sound h := h
  backends_known h := h

/-- A reference is a handle that holds itself. -/
lemma opens_acquire {s : Store κ} {c : ClaimId} (hc : c < s.claims.length) :
    Opens s (s.acquire c).1 :=
  .made _ (.reference c) _ (.takeReference hc) (fun _ _ => rfl) trivial rfl

/-! ### Tables -/

/-- One share of an entry, as a list. -/
lemma count_single (e e' : EntryId) (p q : Share) :
    (if e' = e ∧ q = p then 1 else 0) = if e' = e then [p].count q else 0 := by
  by_cases he : e' = e
  · simp only [he, true_and, if_true, List.count_singleton, beq_iff_eq, eq_comm (a := q)]
  · simp [he]

/-- A borrow holds its share of the entry, which may be new. -/
lemma opens_insertEntry [DecidableEq κ] {s : Store κ} {t : TableId} (ht : t < s.tables.length)
    (key : Key κ) : Opens s (s.insertEntry t key).1 := by
  unfold insertEntry
  split
  · exact .nothing (.refl s)
  · next e x hx =>
    refine .made _ (.borrow t e) _ (.setTable [.owner] ht (fun e' q => ?_)
      fun hs => hs.getOrInsert hx) (fun r _ => rfl) trivial rfl
    rw [EntryTable.tally_getOrInsert hx, count_single]

/-- A borrow holds its share of the entry. -/
lemma opens_borrowEntry [DecidableEq κ] {s : Store κ} {t : TableId} (ht : t < s.tables.length)
    (key : Key κ) : Opens s (s.borrowEntry t key).1 := by
  unfold borrowEntry
  split
  · exact .nothing (.refl s)
  · next e x hx =>
    obtain ⟨hf, rfl⟩ := EntryTable.borrow_eq_some hx
    have he := EntryTable.stored_of_find? hf
    refine .made _ (.borrow t e) _ (.setTable [.owner] ht (fun e' q => ?_)
      fun hs => hs.takeOwner he) (fun r _ => rfl) trivial rfl
    rw [EntryTable.tally_takeOwner he.lt, count_single]


/-- One ownership more of a stored entry. -/
lemma opens_cloneBorrow {s : Store κ} {t : TableId} {e : EntryId} (he : (s.table t).Stored e) :
    Opens s (s.cloneBorrow t e).1 := by
  refine .made _ (.borrow t e) _ (.setTable [.owner] (lt_of_stored he) (fun e' q => ?_)
    fun hs => hs.takeOwner he) (fun r _ => rfl) trivial rfl
  rw [EntryTable.tally_takeOwner he.lt, count_single]

/-- An entry that is removed takes nothing. -/
lemma took_removeEntry [DecidableEq κ] {s : Store κ} {t : TableId} (ht : t < s.tables.length)
    (key : Key κ) : Took s (s.removeEntry t key).1 [] :=
  .setTable_same ht (fun e q => EntryTable.tally_remove _ _ e q) fun hs => hs.remove key

/-- A place inside the lock of a value. -/
lemma opens_lockValue {s : Store κ} {t : TableId} {e : EntryId} (ht : t < s.tables.length)
    (writing : Bool) : Opens s (s.lockValue t e writing).1 := by
  unfold lockValue
  cases writing with
  | true =>
    simp only [if_true]
    split
    · exact .nothing (.refl s)
    · next x hx =>
      refine .made _ (.guard t e true) _ (.setTable [.writeLock] ht (fun e' q => ?_)
        fun hs => hs.tryWrite hx) (fun r _ => rfl) trivial rfl
      rw [EntryTable.tally_tryWrite hx, count_single]
  | false =>
    simp only [Bool.false_eq_true, if_false]
    split
    · exact .nothing (.refl s)
    · next x hx =>
      refine .made _ (.guard t e false) _ (.setTable [.readLock] ht (fun e' q => ?_)
        fun hs => hs.tryRead hx) (fun r _ => rfl) trivial rfl
      rw [EntryTable.tally_tryRead hx, count_single]

/-- A value that is changed in place takes nothing. -/
lemma took_storeValue {s : Store κ} {t : TableId} (ht : t < s.tables.length) (e : EntryId)
    (offset : Nat) (b : Bytes) : Took s (s.storeValue t e offset b) [] := by
  unfold storeValue
  split
  · next hle =>
    exact .setTable_same ht (EntryTable.tally_setValue _ _ _)
      fun hs => hs.setValue (Bytes.size_patch hle)
  · exact .refl s

/-- A value that changes its length takes nothing. -/
lemma took_resizeValue {s : Store κ} {t : TableId} {e : EntryId} (he : (s.table t).Stored e)
    (n : UInt64) : Took s (s.resizeValue t e n).1 [] := by
  unfold resizeValue
  split
  · exact .refl s
  · next x hx =>
    exact .setTable_same (lt_of_stored he) (EntryTable.tally_resizeValue hx)
      fun hs => hs.resizeValue he hx

/-- A value that is appended to takes nothing. -/
lemma took_appendValue {s : Store κ} {t : TableId} {e : EntryId} (he : (s.table t).Stored e)
    {b : Bytes} (hb : b.size < 2 ^ 64) : Took s (s.appendValue t e b).1 [] := by
  unfold appendValue
  split
  · exact .refl s
  · next x hx =>
    exact .setTable_same (lt_of_stored he) (EntryTable.tally_appendValue hx)
      fun hs => hs.appendValue he hb hx

/-- A mapping of a stored entry. -/
lemma opens_mapEntry [ToString κ] {s : Store κ} {t : TableId} {e : EntryId}
    (he : (s.table t).Stored e) (n : UInt64) (readOnly : Bool) :
    Opens s (s.mapEntry t e n readOnly).1 := by
  unfold mapEntry
  split
  · exact .nothing (.refl s)
  · next x hx =>
    refine .made _ (.mapping (entryMapping t e n readOnly)) _
      (took_lockFor (lt_of_stored he) he hx) (fun r _ => ?_)
      (isWhole_entryMapping t e n readOnly) rfl
    show _ = (entryMapping t e n readOnly).resources.count r
    rw [resources_entryMapping]
    simp [List.count_cons, Nat.add_comm]

/-- A mapping of the entry under a key holds what one of the entry holds, or nothing where there is
none. -/
lemma opens_mapKey [DecidableEq κ] [ToString κ] (s : Store κ) (t : TableId) (key : Key κ)
    (n : UInt64) (readOnly : Bool) : Opens s (s.mapKey t key n readOnly).1 := by
  unfold mapKey
  split
  · next e he => exact opens_mapEntry (EntryTable.stored_of_find? he) n readOnly
  · refine .made _ _ _ (.refl s) (fun r _ => rfl) ?_ rfl
    intro b hb hread
    obtain rfl := Backing.entry.inj hb
    cases hread

/-! ### Steps and runs -/

/-- A borrow is a handle of that sort. -/
lemma borrowed?_eq_some {s : Store κ} {h : HandleId} {t : TableId} {e : EntryId} :
    s.borrowed? h = some (t, e) ↔ s.handle? h = some (.borrow t e) := by
  unfold borrowed?
  split <;> simp_all

/-- A borrowed entry is stored. -/
lemma Sound.stored_borrowed {s : Store κ} (hs : s.Sound) {h : HandleId} {t : TableId} {e : EntryId}
    (hb : s.borrowed? h = some (t, e)) : (s.table t).Stored e :=
  hs.stored (borrowed?_eq_some.1 hb) (List.mem_singleton.2 rfl)

/-- The guard of the writer of a value is a place in its lock. -/
lemma Sound.lt_of_writeGuarded {s : Store κ} (hs : s.Sound) {h : HandleId} {t : TableId}
    {e : EntryId} (hg : s.writeGuarded? h = some (t, e)) : t < s.tables.length := by
  have hx : s.handle? h = some (.guard t e true) := by
    unfold writeGuarded? at hg
    split at hg <;> simp_all
  by_contra hlt
  have hheld := count_le_held hx (.writeLock t e)
  have hbal : (s.table t).tally e .writeLock = s.held (.writeLock t e) :=
    hs.balanced (.writeLock t e) rfl
  have hnone : (s.table t).tally e .writeLock = 0 := by
    simp [table, List.getElem?_eq_none (Nat.le_of_not_lt hlt), EntryTable.new, EntryTable.tally]
  simp only [Handle.resources, List.count_singleton_self] at hheld
  omega

variable [DecidableEq κ] [ToString κ]

section Operations

variable {s : Store κ} {op : Operation κ}

/-- An operation on repositories or claims keeps a state sound. -/
lemma Sound.setup (hs : s.Sound) (hop : op.group = .setup) (h : s.applies op = true) :
    Leads s (s.perform op) := by
  cases op with
  | openRepository kind => exact hs.took (took_openRepository s kind)
  | closeRepository r => exact hs.took (took_closeRepository s r)
  | addClaim identifier r => exact hs.took (took_addClaim s identifier r)
  | acquire c => exact hs.opens (opens_acquire (of_decide_eq_true h))
  | removeContent r c => exact hs.inRepository fun b hb => .nothing (took_removeIn hb)
  | _ => cases hop

/-- An open of content keeps a state sound. -/
lemma Sound.opening (hs : s.Sound) (hop : op.group = .opening) (h : s.applies op = true) :
    Leads s (s.perform op) := by
  cases op with
  | mapContent r c n readOnly =>
    exact hs.inRepository fun b hb => opens_mapIn hb (of_decide_eq_true h) n readOnly
  | readContent r c => exact hs.inRepository fun b hb => opens_readIn hb (of_decide_eq_true h)
  | writeContent r c append =>
    exact hs.inRepository fun b hb => opens_writeIn hb (of_decide_eq_true h) append
  | mapClaim c n readOnly =>
    exact hs.routed fun b hb => opens_mapIn hb (of_decide_eq_true h) n readOnly
  | readClaim c => exact hs.routed fun b hb => opens_readIn hb (of_decide_eq_true h)
  | writeClaim c append => exact hs.routed fun b hb => opens_writeIn hb (of_decide_eq_true h) append
  | _ => cases hop

/-- An operation on a mapping keeps a state sound. -/
lemma Sound.mapping (hs : s.Sound) (hop : op.group = .mapping) : Leads s (s.perform op) := by
  cases op with
  | writeAt map offset b => exact hs.writeAt map offset b
  | fillView map byte => exact hs.fillView map byte
  | resize map n => exact hs.resize map n
  | flush map => exact hs.flush map
  | registerHook map name failure probe => exact hs.registerHook map name failure probe
  | _ => cases hop

/-- An operation on a reader or a writer keeps a state sound. -/
lemma Sound.stream (hs : s.Sound) (hop : op.group = .stream) : Leads s (s.perform op) := by
  cases op with
  | readRaw reader n => exact hs.deliver reader _
  | readData reader buffer maxLen =>
    exact readData_induction (P := Leads s) (fun _ n h => h.trans (h.sound.deliver reader n))
      (.refl hs) buffer maxLen
  | readToEnd reader => exact hs.readToEnd reader
  | seek reader offset => exact hs.seek reader offset
  | writeRaw writer b =>
    exact hs.accept writer (Nat.lt_of_le_of_lt (s.size_offered_le writer _) b.size_lt)
  | writeData writer b => exact hs.writeData writer b.size_lt
  | copy reader writer =>
    rcases s.perform_copy reader writer with heq | ⟨s', r, hcopy, heq⟩ <;> rw [heq]
    · exact .refl hs
    · exact copy_induction (P := Leads s) (fun _ n h => h.trans (h.sound.deliver reader n))
        (fun _ _ hb h => h.trans (h.sound.writeAll writer hb)) (.refl hs) hcopy
  | _ => cases hop

/-- An operation that ends a handle keeps a state sound. -/
lemma Sound.ending (hs : s.Sound) (hop : op.group = .ending) : Leads s (s.perform op) := by
  cases op with
  | unmap map => exact hs.unmap map
  | close writer => exact hs.close writer
  | drop h => exact hs.drop h
  | _ => cases hop

/-- Calls on tables keep a state sound. -/
lemma Sound.calls (hs : s.Sound) : TableCalls s fun _ s' => Leads s s' where
  none _ := .refl hs
  addTable maxBytes maxCount := hs.took (took_addTable s maxBytes maxCount)
  insertEntry _ key ht := hs.opens (opens_insertEntry ht key)
  borrowEntry _ key ht := hs.opens (opens_borrowEntry ht key)
  cloneBorrow _ _ _ hb := hs.opens (opens_cloneBorrow (hs.stored_borrowed hb))
  removeEntry _ key ht := hs.took (took_removeEntry ht key)
  lockValue _ writing _ _ hb :=
    hs.opens (opens_lockValue (lt_of_stored (hs.stored_borrowed hb)) writing)
  storeValue _ offset b _ e hg := hs.took (took_storeValue (hs.lt_of_writeGuarded hg) e offset b)
  resizeValue _ _ n _ _ hb _ := hs.took (took_resizeValue (hs.stored_borrowed hb) n)
  appendValue _ _ b _ _ hb _ := hs.took (took_appendValue (hs.stored_borrowed hb) b.size_lt)
  mapKey t key n readOnly _ := hs.opens (opens_mapKey s t key n readOnly)
  mapBorrow _ n readOnly _ _ hb := hs.opens (opens_mapEntry (hs.stored_borrowed hb) n readOnly)

/-- **Every operation keeps a state sound**, where it names what is there. -/
lemma Sound.perform (hs : s.Sound) (op : Operation κ) (h : s.applies op = true) :
    Leads s (s.perform op) := by
  cases hop : op.group with
  | setup => exact hs.setup hop h
  | opening => exact hs.opening hop h
  | mapping => exact hs.mapping hop
  | stream => exact hs.stream hop
  | ending => exact hs.ending hop
  | table => exact hs.calls.perform hop h

end Operations

/-- **Every step leads from a sound state to a sound one.** -/
lemma Sound.step {s : Store κ} (hs : s.Sound) (op : Operation κ) : Leads s (s.step op) := by
  unfold Store.step
  split
  · next h => exact hs.perform op h
  · exact .refl hs

/-- **Every run leads from a sound state to a sound one.** -/
lemma Sound.run {s : Store κ} (hs : s.Sound) (ops : List (Operation κ)) : Leads s (s.run ops) :=
  run_induction (P := Leads s) (fun _ op h => h.trans (h.sound.step op)) (.refl hs) ops

/-- **Every run from an empty store ends in a sound state.** -/
lemma sound_run (name : String) (ops : List (Operation κ)) :
    ((onDirectory name).run ops).Sound :=
  ((sound_onDirectory name).run ops).sound

end ClaimStore.Store
