import ClaimStore.Proofs.HandleOpens
import ClaimStore.Proofs.HookLives

/-!
# The hooks of every mapping run once

A mapping that is opened was not unmapped yet, and a writable mapping of a file is inside its file,
so the laws of hooks apply from the open on: whatever is done with the mapping, every hook runs
once.

## Main definitions

* `Store.OpensMapping` — all ways in which a mapping is opened.

## Main results

* `FileBacking.inFile_opened` — a file that is opened for mapping is long enough.
* `Store.OpensMapping.live` — a mapping that was opened.
* `runsHooksOnce_opened` — every mapping runs its hooks once.
-/

set_option autoImplicit false

namespace ClaimStore

/-! ### Files -/

namespace FileBacking

variable {d d' : Disk} {p : Path} {n : UInt64} {b : FileBacking}

/-- What was opened for mapping has one of the forms. -/
lemma shaped_ofOpened {i : Item} {k : Nat} (h : ofOpened p i k = .ok b) : b.Shaped := by
  unfold ofOpened at h
  split at h
  · obtain rfl := Except.ok.inj h
    exact ⟨fun _ => rfl, nofun⟩
  · cases i with
    | directory => cases h
    | file id =>
      obtain rfl := Except.ok.inj h
      exact ⟨nofun, fun _ => ⟨id, rfl⟩⟩

/-- A read-only backing of a file has one of the forms. -/
lemma shaped_openReadOnly (h : openReadOnly d p n = .ok b) : b.Shaped := by
  unfold openReadOnly at h
  split at h
  · cases h
  · split at h
    · cases h
    · exact shaped_ofOpened h

/-- So has a writable one. -/
lemma shaped_openWritable (h : openWritable d p n = (d', .ok b)) : b.Shaped := by
  unfold openWritable at h
  split at h
  · cases (Prod.mk.inj h).2
  · split at h
    · cases (Prod.mk.inj h).2
    · split at h
      · split at h
        · cases (Prod.mk.inj h).2
        · exact shaped_ofOpened (Prod.mk.inj h).2
      · exact shaped_ofOpened (Prod.mk.inj h).2

/-- **A file that is opened for mapping** is the one that the path leads to, and is long enough.

**Proof sketch.** The file that is opened or made is the one at the path. If it is too short it is
extended to the length asked for, and otherwise it is long enough. -/
lemma inFile_opened (hd : d.Sound) (h : openWritable d p n = (d', .ok b)) :
    d'.Sound ∧ ∃ id, d'.resolve p = .ok (.file id) ∧
      b = ⟨p, some (.file id), if n.toNat = 0 then .empty else .mapped, n.toNat, none⟩ ∧
        id < d'.contents.size ∧ n.toNat ≤ (d'.bytes id).size := by
  have hopened : ∀ id, ofOpened p (.file id) n.toNat = .ok b →
      b = ⟨p, some (.file id), if n.toNat = 0 then .empty else .mapped, n.toNat, none⟩ := by
    intro id hb
    unfold ofOpened at hb
    split at hb
    · next hzero =>
      obtain rfl := Except.ok.inj hb
      rw [if_pos hzero, hzero]
    · next hzero =>
      obtain rfl := Except.ok.inj hb
      rw [if_neg hzero]
  unfold openWritable at h
  split at h
  · cases (Prod.mk.inj h).2
  · next d₁ hmake =>
    have hd₁ : d₁.Sound := by
      have hext := (Disk.extends_makeParent hd p).1
      rw [hmake] at hext
      exact hext.sound hd
    split at h
    · cases (Prod.mk.inj h).2
    · next id d₂ hopen =>
      have hd₂ : d₂.Sound := (Disk.extends_openCreating hopen).1.sound hd₁
      have hresolve := (Disk.resolve_openCreating hd₁ hopen).1
      have hlt : id < d₂.contents.size := by
        obtain ⟨j, name, -, hn, -⟩ := Disk.resolve_eq_file_iff.1 hresolve
        exact hd₂.file_lt j name id (Disk.lookupName_ok hn)
      split at h
      · split at h
        · cases (Prod.mk.inj h).2
        · next d₃ hset =>
          obtain ⟨rfl, hb⟩ := Prod.mk.inj h
          have halters := Disk.alters_setLength hset
          refine ⟨halters.extends.sound hd₂, id, halters.resolve_eq hd₂ hresolve, hopened id hb,
            halters.size_eq ▸ hlt, ?_⟩
          rw [Disk.bytes, Disk.data_setLength hset hlt]
          exact Nat.le_of_eq (Bytes.size_fit _ _).symm
      · next hle =>
        obtain ⟨rfl, hb⟩ := Prod.mk.inj h
        exact ⟨hd₂, id, hresolve, hopened id hb, hlt, Nat.le_of_not_lt hle⟩

end FileBacking

namespace Store

variable {κ : Type} {s s' : Store κ} {map : HandleId} {m : Mapping}

/-- A mapping that was just made. -/
lemma live_addHandle (hfired : m.hooks.fired = false) (hp : s.InFile m)
    (h : succeed (s.addHandle (.mapping m)) = (s', .ok map)) : Live map s' := by
  obtain ⟨rfl, hmap⟩ := Prod.mk.inj h
  obtain rfl := Except.ok.inj hmap
  have hmade : (s.addHandle (.mapping m)).1.mapping? s.handles.length = some m := by
    rw [mapping?_eq_some, ((Still.refl s).added (.mapping m)).handle?, if_pos rfl]
  exact ⟨m, hmade, hfired, inFile_congr rfl rfl rfl hp⟩

/-- A mapping that was just added was not unmapped yet. -/
lemma live_addHeldMapping {c : ClaimId} {l : Option Lease} (hfired : m.hooks.fired = false)
    (hp : s.InFile m) (h : succeed (s.addHeldMapping m c l) = (s', .ok map)) : Live map s' :=
  live_addHandle (s := s.takeReference c) (m := { m with hooks := m.hooks.push (.hold c l) }) hfired
    (inFile_congr rfl rfl rfl hp) h

/-- A read-only mapping, or one that is no file, is inside. -/
lemma inFile_readOnly (h : m.readOnly = true) : s.InFile m :=
  inFile_of_not fun hro => by rw [h] at hro; cases hro

/-- A mapping of an entry is of no file. -/
lemma inFile_entry {b : EntryBacking} (h : m.backing = .entry b) : s.InFile m :=
  inFile_of_not fun _ b' hb => by rw [h] at hb; cases hb

/-- Nor is one of a buffer. -/
lemma inFile_buffer {b : BufferBacking} (h : m.backing = .buffer b) : s.InFile m :=
  inFile_of_not fun _ b' hb => by rw [h] at hb; cases hb

/-- A file that was opened for mapping. -/
lemma inFile_openWritable (hd : s.disk.Sound) {d : Disk} {p : Path} {n : UInt64}
    {b : FileBacking} (h : FileBacking.openWritable s.disk p n = (d, .ok b)) {gate : Option Gate}
    (hb : m.backing = .file { b with gate }) (hs : s'.disk = d) : s'.InFile m := by
  obtain ⟨-, id, -, rfl, hlt, hle⟩ := FileBacking.inFile_opened hd h
  intro c id' _ hc hid
  obtain rfl := Backing.file.inj (hb.symm.trans hc)
  obtain rfl := Item.file.inj (Option.some.inj hid)
  rw [hs]
  exact ⟨hlt, fun _ => hle⟩

/-! ### All opens -/

section Opens

variable [DecidableEq κ] [ToString κ]

/-- **All ways in which a mapping is opened.** -/
inductive OpensMapping (s : Store κ) : Store κ → HandleId → Prop
  /-- Of a file. -/
  | file {p : Path} {n : UInt64} {readOnly : Bool} {gate : Option Gate} {s' : Store κ}
      {map : HandleId} (h : s.mapFile p n readOnly gate = (s', .ok map)) : OpensMapping s s' map
  /-- Of an entry. -/
  | entry {t : TableId} {e : EntryId} {n : UInt64} {readOnly : Bool} {s' : Store κ}
      {map : HandleId} (h : s.mapEntry t e n readOnly = (s', .ok map)) : OpensMapping s s' map
  /-- Of the entry under a key, or of none where the key is absent. -/
  | key {t : TableId} {key : Key κ} {n : UInt64} {readOnly : Bool} {s' : Store κ}
      {map : HandleId} (h : s.mapKey t key n readOnly = (s', .ok map)) : OpensMapping s s' map
  /-- Of a buffer of its own. -/
  | buffer {b : Bytes} {readOnly : Bool} {capacity : Option Nat} {s' : Store κ} {map : HandleId}
      (h : s.mapBuffer b readOnly capacity = (s', map)) : OpensMapping s s' map
  /-- Of the content of a claim in a repository. -/
  | content {f : Faults} {r : RepositoryId} {c : ClaimId} {n : UInt64} {readOnly : Bool}
      {s' : Store κ} {map : HandleId}
      (h : s.mapContentUnder f r c n readOnly = (s', .ok map)) : OpensMapping s s' map
  /-- Of the content of a claim in its own repository. -/
  | claim {f : Faults} {c : ClaimId} {n : UInt64} {readOnly : Bool} {s' : Store κ}
      {map : HandleId} (h : s.mapClaimUnder f c n readOnly = (s', .ok map)) : OpensMapping s s' map

omit [DecidableEq κ] [ToString κ] in
/-- A mapping of a file that belongs to no repository. -/
lemma live_mapFile (hd : s.disk.Sound) {p : Path} {n : UInt64} {readOnly : Bool}
    {gate : Option Gate} (h : s.mapFile p n readOnly gate = (s', .ok map)) : Live map s' := by
  unfold mapFile at h
  cases readOnly with
  | true =>
    simp only [if_true] at h
    split at h
    · cases h
    · exact live_addHandle rfl (inFile_readOnly rfl) h
  | false =>
    simp only [Bool.false_eq_true, if_false] at h
    split at h
    · cases h
    · next d b hopen =>
      exact live_addHandle rfl (inFile_openWritable hd hopen rfl rfl) h

omit [DecidableEq κ] [ToString κ] in
/-- A mapping of the file of a claim. -/
lemma live_mapInFiles (hd : s.disk.Sound) {D : Path} {w g : RegistryId} {c : ClaimId} {n : UInt64}
    {readOnly : Bool} (h : s.mapInFiles D w g c n readOnly = (s', .ok map)) : Live map s' := by
  unfold mapInFiles at h
  cases readOnly with
  | true =>
    simp only [if_true] at h
    split at h
    · cases h
    · cases h
    · split at h
      · cases h
      · exact live_addHeldMapping rfl (inFile_readOnly rfl) h
  | false =>
    simp only [Bool.false_eq_true, if_false] at h
    split at h
    · cases h
    · split at h
      · cases h
      · next d b hopen =>
        exact live_addHeldMapping rfl (inFile_openWritable hd hopen rfl rfl) h

omit [DecidableEq κ] in
/-- A mapping of an entry. -/
lemma live_mapEntry {t : TableId} {e : EntryId} {n : UInt64} {readOnly : Bool}
    (h : s.mapEntry t e n readOnly = (s', .ok map)) : Live map s' := by
  unfold mapEntry at h
  split at h
  · cases h
  · exact live_addHandle rfl (inFile_entry rfl) h

/-- A mapping under a key that was just opened was not unmapped yet. -/
lemma live_mapKey {t : TableId} {key : Key κ} {n : UInt64} {readOnly : Bool}
    (h : s.mapKey t key n readOnly = (s', .ok map)) : Live map s' := by
  unfold mapKey at h
  split at h
  · exact live_mapEntry h
  · exact live_addHandle rfl (inFile_entry rfl) h

/-- A mapping of the entry of a claim. -/
lemma live_mapInTable {t : TableId} {w : RegistryId} {c : ClaimId} {n : UInt64} {readOnly : Bool}
    (h : s.mapInTable t w c n readOnly = (s', .ok map)) : Live map s' := by
  unfold mapInTable at h
  cases readOnly with
  | true =>
    simp only [if_true] at h
    split at h
    · cases h
    · split at h
      · cases h
      · exact live_addHeldMapping rfl (inFile_entry rfl) h
  | false =>
    simp only [Bool.false_eq_true, if_false] at h
    split at h
    · cases h
    · split at h
      · cases h
      · exact live_addHeldMapping rfl (inFile_entry rfl) h

omit [DecidableEq κ] [ToString κ] in
/-- A mapping of the row of a claim. -/
lemma live_mapInRows {d : DatabaseId} {w : RegistryId} {c : ClaimId} {n : UInt64} {readOnly : Bool}
    (h : s.mapInRows d w c n readOnly = (s', .ok map)) : Live map s' := by
  unfold mapInRows at h
  cases readOnly with
  | true =>
    simp only [if_true] at h
    split at h
    · cases h
    · split at h
      · cases h
      · exact live_addHeldMapping rfl (inFile_buffer rfl) h
  | false =>
    simp only [Bool.false_eq_true, if_false] at h
    split at h
    · cases h
    · exact live_addHeldMapping rfl (inFile_buffer rfl) h

/-- A mapping of the content of a claim in a backend. -/
lemma live_mapIn (hd : s.disk.Sound) {b : Backend} {c : ClaimId} {n : UInt64} {readOnly : Bool}
    (h : s.mapIn b c n readOnly = (s', .ok map)) : Live map s' := by
  unfold mapIn at h
  cases b with
  | files D w g => exact live_mapInFiles hd h
  | volatile t w => exact live_mapInTable h
  | database d p w => exact live_mapInRows h

/-- **A mapping that was opened** was not unmapped yet, and is inside its file. -/
lemma OpensMapping.live (hd : s.disk.Sound) (h : OpensMapping s s' map) : Live map s' := by
  cases h with
  | file h => exact live_mapFile hd h
  | entry h => exact live_mapEntry h
  | key h => exact live_mapKey h
  | buffer h =>
    exact live_addHandle rfl (inFile_buffer rfl)
      (by rw [succeed]; exact congrArg (fun x => (x.1, Except.ok x.2)) h)
  | @content f r c n readOnly _ _ h =>
    rcases mapContentUnder_cases f s r c n readOnly with heq | ⟨e, heq⟩
    · rw [heq, mapContent, inRepository] at h
      split at h
      · exact live_mapIn hd h
      · cases h
    · rw [heq] at h
      cases h
  | @claim f c n readOnly _ _ h =>
    rcases mapClaimUnder_cases f s c n readOnly with heq | ⟨e, heq⟩
    · rw [heq, mapClaim, routed] at h
      split at h
      · exact live_mapIn hd h
      · cases h
    · rw [heq] at h
      cases h

end Opens

end Store

/-- **Every mapping runs its hooks once.** Whichever way a mapping of a file, an entry or a buffer
is opened, and whatever component a passthrough mapping presents: along all sequences of steps, with
any hooks that fail and whatever else fails, hooks wait until the mapping is unmapped or dropped;
then all of them run once, in order of registration, each with the bytes that were shown just
before; later ones run at once with no bytes; and unmapping again does nothing. -/
theorem runsHooksOnce_opened {κ : Type} [DecidableEq κ] [ToString κ] :
    (∀ (s s' : Store κ) (map : HandleId), s.disk.Sound → s.OpensMapping s' map →
      (Store.capability map).RunsHooksOnce (Store.afterHooks map) s') ∧
    ∀ (ρ : Type) (ops : PassthroughOps ρ) (s : Store κ) (x : ρ) (readOnly : Bool),
      (Passthrough.capability ops).RunsHooksOnce Passthrough.afterHooks (s, .new x readOnly) :=
  ⟨fun _ _ map hd h => (Store.hookLaws map).runsHooksOnce (h.live hd),
    fun _ ops s x readOnly => (Passthrough.hookLaws ops).runsHooksOnce
      (s := (s, Passthrough.new x readOnly)) rfl⟩

/-- The hooks of a writable mapping of a new file run once, and so do those of a buffer that a
passthrough mapping presents. -/
theorem runsHooksOnce_newFile :
    (Store.onDirectory "d" : Store).disk.Sound ∧
      (Store.onDirectory "d").OpensMapping
        ((Store.onDirectory "d" : Store).mapFile (.ofString "/d/x") 2 false none).1 0 ∧
      (Store.capability 0).RunsHooksOnce (Store.afterHooks 0)
        ((Store.onDirectory "d" : Store).mapFile (.ofString "/d/x") 2 false none).1 ∧
      (Passthrough.capability (PassthroughOps.buffer none)).RunsHooksOnce Passthrough.afterHooks
        ((Store.onDirectory "d" : Store), .new (.ofList [1, 2]) false) :=
  have hd : (Store.onDirectory "d" : Store).disk.Sound := Store.disk_sound_runUnder "d" []
  have ho : (Store.onDirectory "d").OpensMapping
      ((Store.onDirectory "d" : Store).mapFile (.ofString "/d/x") 2 false none).1 0 :=
    .file (Prod.ext rfl (by decide +kernel))
  ⟨hd, ho, runsHooksOnce_opened.1 _ _ 0 hd ho, runsHooksOnce_opened.2 _ _ _ _ _⟩

end ClaimStore
