import ClaimStore.Proofs.Disk
import ClaimStore.Store.Access

/-!
# Opening databases

A database file is opened only while nobody uses it, and the rows that it holds stay as they are,
unless its file was emptied from outside: then there is a database without rows in it.

## Main definitions

* `Store.OpensDatabase` — what an attempt to open a database does.

## Main results

* `Store.opensDatabase` — this is what it does.
-/

set_option autoImplicit false

namespace ClaimStore

/-! ### Files on the way -/

namespace Disk

variable {d d' : Disk} {p : Path} {id : FileId}

/-- A directory that is made changes no file. -/
lemma contents_makeDirectory (h : d.makeDirectory p = .ok d') : d'.contents = d.contents := by
  unfold makeDirectory at h
  split at h
  · cases h
  · cases h
  · split at h
    · cases h
    · cases h
    · rw [← Except.ok.inj h]
      rfl

/-- Making a directory with its parents changes no file, on whatever disk. -/
lemma contents_makeWithParents (generations : Nat) (d : Disk) (p : Path) :
    (d.makeWithParents generations p).1.contents = d.contents := by
  induction generations generalizing d p with
  | zero => rfl
  | succ generations ih =>
    unfold makeWithParents
    split
    · rfl
    · split
      · next d' h => exact contents_makeDirectory h
      · split
        · split
          · rfl
          · next q hq =>
            have hparents := ih d q
            split
            · next h => rw [h] at hparents; exact hparents
            · next d' h =>
              rw [h] at hparents
              split
              · next d'' h' => exact (contents_makeDirectory h').trans hparents
              · split <;> exact hparents
        · split <;> rfl

/-- The directories above a file change no file when they are made. -/
lemma contents_makeParent (d : Disk) (p : Path) : (d.makeParent p).1.contents = d.contents := by
  unfold makeParent
  split
  · rfl
  · next q hq =>
    have hmade := contents_makeWithParents (q.depth + 1) d q
    split <;> next h => rw [makeDirectories] at h; rw [h] at hmade; exact hmade

/-- A file that is opened for writing holds what it held, also if it was made. -/
lemma bytes_openCreating (h : d.openCreating p = .ok (id, d')) (i : FileId) :
    d'.bytes i = d.bytes i := by
  unfold openCreating at h
  split at h
  · cases h
  · cases h
  · next parent name hp =>
    split at h
    · cases h
    · split at h
      · cases h
      · cases h
      · obtain ⟨-, rfl⟩ := Prod.mk.inj (Except.ok.inj h)
        rfl
      · have hadd : d' = (d.addFile parent name).2 := by rw [Except.ok.inj h]
        subst hadd
        rcases Nat.lt_trichotomy i d.contents.size with hi | rfl | hi
        · exact bytes_addFile parent name hi
        · have hnew : (d.addFile parent name).2.contents[d.contents.size]? =
              some (.ofBytes .empty) := Array.getElem?_push_size
          have hold : d.contents[d.contents.size]? = none := by simp
          rw [bytes, data, hnew, bytes, data, hold]
        · have hnew : (d.addFile parent name).2.contents[i]? = none := by
            show (d.contents.push _)[i]? = none
            simp only [Array.getElem?_eq_none_iff, Array.size_push]
            omega
          have hold : d.contents[i]? = none := Array.getElem?_eq_none_iff.2 (Nat.le_of_lt hi)
          rw [bytes, data, hnew, bytes, data, hold]

end Disk

/-! ### Databases -/

namespace Store

variable {κ : Type}

/-- The file of a database is empty. -/
def Emptied (s : Store κ) (d : DatabaseId) : Prop :=
  ∃ x, s.databases[d]? = some x ∧ (s.disk.bytes x.file).isEmpty = true

/-- What an attempt to open a database does: it touches nothing but the disk and the databases, and
no database that is in use or whose file holds anything. -/
structure OpensDatabase (s s' : Store κ) (ans : Except Failure DatabaseId) : Prop where
  /-- The handles stay. -/
  handles_eq : s'.handles = s.handles
  /-- The claims stay. -/
  claims_eq : s'.claims = s.claims
  /-- The repositories stay. -/
  repositories_eq : s'.repositories = s.repositories
  /-- The registries of writers stay. -/
  writerRegistries_eq : s'.writerRegistries = s.writerRegistries
  /-- The tables stay. -/
  tables_eq : s'.tables = s.tables
  /-- No database is taken away. -/
  length_le : s.databases.length ≤ s'.databases.length
  /-- A row changes only where nobody uses its database, whose file is empty. -/
  row?_ne : ∀ d x, s'.row? d x ≠ s.row? d x → s.usesDatabase d = false ∧ s.Emptied d
  /-- The database that is opened is new, or nobody used it. -/
  opened : ∀ d, ans = .ok d →
    d < s'.databases.length ∧ (d < s.databases.length → s.usesDatabase d = false)

/-- A row of a new database. -/
lemma row?_concat {s s' : Store κ} {file : FileId}
    (h : s'.databases = s.databases ++ [{ file, rows := [] }]) (d : DatabaseId) (x : String) :
    s'.row? d x = s.row? d x := by
  unfold row?
  rw [h]
  rcases Nat.lt_trichotomy d s.databases.length with hd | rfl | hd
  · rw [List.getElem?_append_left hd]
  · rw [List.getElem?_concat_length, List.getElem?_eq_none (Nat.le_refl _)]
    rfl
  · rw [List.getElem?_eq_none (by simp; omega), List.getElem?_eq_none (Nat.le_of_lt hd)]

/-- A row of a database that was changed. -/
lemma row?_modifyDatabase {s : Store κ} {d : DatabaseId} (hd : d < s.databases.length)
    (f : Database → Database) (x : String) :
    (s.modifyDatabase d f).row? d x = (f s.databases[d]).row? x := by
  rw [row?, modifyDatabase]
  simp only [List.getElem?_modify, if_true, List.getElem?_eq_getElem hd]
  rfl

/-- A row of a database that is not changed. -/
lemma row?_modify_ne {s : Store κ} {d i : DatabaseId} (f : Database → Database) (hd : d ≠ i)
    (x : String) : (s.modifyDatabase d f).row? i x = s.row? i x := by
  unfold row? modifyDatabase
  rw [List.getElem?_modify_ne _ _ hd]

/-- A row after one was stored. -/
lemma row?_put {s : Store κ} {d : DatabaseId} (hd : d < s.databases.length) (key : String)
    (v : Bytes) (x : String) :
    (s.modifyDatabase d (·.put key v)).row? d x = if x = key then some v else s.row? d x := by
  have hrow : s.row? d x = s.databases[d].rows.lookup x := by
    rw [row?, List.getElem?_eq_getElem hd]
    rfl
  rw [row?_modifyDatabase hd, Database.row?, Database.put, Database.erase, List.lookup_cons,
    lookup_filter_ne, ← hrow]
  by_cases hx : x = key
  · subst hx
    rw [beq_self_eq_true]
    exact (if_pos rfl).symm
  · rw [if_neg hx, if_neg hx, beq_false_of_ne hx]

/-- A row after one was removed. -/
lemma row?_erase {s : Store κ} {d : DatabaseId} (hd : d < s.databases.length) (key x : String) :
    (s.modifyDatabase d (·.erase key)).row? d x = if x = key then none else s.row? d x := by
  rw [row?_modifyDatabase hd, Database.row?, Database.erase, lookup_filter_ne, row?,
    List.getElem?_eq_getElem hd]
  rfl

/-- **A file becomes a database without rows**, where it holds nothing and nobody uses it. -/
lemma opens_formatDatabase (s : Store κ) (disk : Disk) {file : FileId} {known : Option DatabaseId}
    (hknown : ∀ i, known = some i →
      s.usesDatabase i = false ∧ s.Emptied i ∧ i < s.databases.length) :
    OpensDatabase s (({ s with disk } : Store κ).formatDatabase file known).1
      (.ok (({ s with disk } : Store κ).formatDatabase file known).2) := by
  unfold formatDatabase
  cases known with
  | none =>
    refine ⟨rfl, rfl, rfl, rfl, rfl, ?_, fun j x hne => ?_, fun j hj => ?_⟩
    · simp
    · exact absurd (row?_concat rfl j x) hne
    · obtain rfl : s.databases.length = j := Except.ok.inj hj
      exact ⟨by simp, fun hlt => absurd hlt (Nat.lt_irrefl _)⟩
  | some i =>
    obtain ⟨hu, hempty, hlt⟩ := hknown i rfl
    refine ⟨rfl, rfl, rfl, rfl, rfl, ?_, fun j x hne => ?_, fun j hj => ?_⟩
    · simp [modifyDatabase]
    · by_cases hij : i = j
      · exact hij ▸ ⟨hu, hempty⟩
      · exact absurd (row?_modify_ne _ hij x) hne
    · obtain rfl : i = j := Except.ok.inj hj
      exact ⟨by simpa [modifyDatabase] using hlt, fun _ => hu⟩

/-- **What an attempt to open a database does.**

**Proof sketch.** Step by step: directories are made, the file is opened or made, and its bytes
decide. An empty file becomes a new database, the image of a known database that nobody uses is that
one, and all else is refused. -/
lemma opensDatabase (s : Store κ) (p : Path) :
    OpensDatabase s (s.openDatabase p).1 (s.openDatabase p).2 := by
  have failed : ∀ (d : Disk) (f : Failure), OpensDatabase s { s with disk := d } (.error f) :=
    fun d f => ⟨rfl, rfl, rfl, rfl, rfl, Nat.le_refl _, fun _ _ h => absurd rfl h,
      fun _ h => nomatch h⟩
  have hparent := s.disk.contents_makeParent p
  unfold openDatabase
  split
  · exact failed _ _
  · next d hd =>
    rw [hd] at hparent
    split
    · exact failed _ _
    · next file d' hopen =>
      have hbytes : ∀ i, d'.bytes i = s.disk.bytes i := by
        intro i
        rw [Disk.bytes_openCreating hopen, Disk.bytes, Disk.data, hparent]
        rfl
      dsimp only
      split
      · exact failed _ _
      · next hunused =>
        -- what is known is not in use, and it is the database of this file
        have known : ∀ i, s.databases.findIdx? (fun x => x.file == file) = some i →
            s.usesDatabase i = false ∧ ∃ x, s.databases[i]? = some x ∧ x.file = file := by
          intro i hi
          refine ⟨Bool.eq_false_iff.2 fun hu => hunused (by rw [hi]; exact hu), ?_⟩
          obtain ⟨hlt, hfile, -⟩ := List.findIdx?_eq_some_iff_getElem.1 hi
          exact ⟨_, List.getElem?_eq_getElem hlt, beq_iff_eq.1 hfile⟩
        split
        · next hempty =>
          refine opens_formatDatabase s d' fun i hi => ?_
          obtain ⟨hu, x, hx, hfile⟩ := known i hi
          refine ⟨hu, ⟨x, hx, ?_⟩, (List.getElem?_eq_some_iff.1 hx).1⟩
          rw [hfile, ← hbytes, hempty]
        · split
          · exact failed _ _
          · next i hfault hi =>
            obtain ⟨hu, x, hx, -⟩ := known i hi
            refine ⟨rfl, rfl, rfl, rfl, rfl, Nat.le_refl _, fun _ _ h => absurd rfl h,
              fun j hj => ?_⟩
            obtain rfl := Except.ok.inj hj
            exact ⟨(List.getElem?_eq_some_iff.1 hx).1, fun _ => hu⟩
          · exact failed _ _

end Store

end ClaimStore
