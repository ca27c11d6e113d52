import ClaimStore.Proofs.DatabaseOpens
import ClaimStore.Proofs.Keeper

/-!
# Rows keep bytes

A database repository keeps the bytes of an identifier in the row under it. Mappings, readers and
writers work on copies, which come back into the row when a mapping is unmapped or a writer closed.

## Main definitions

* `Store.HasRows` — the rows of a database are these.
* `ClaimStore.rowKeeper` — a database repository as a keeper.

## Main results

* `Store.HasRows.put`, `Store.HasRows.erase` — rows that are stored and removed.
-/

set_option autoImplicit false

namespace ClaimStore

namespace Store

variable {κ : Type} {s s' : Store κ} {d : DatabaseId} {C : String → Option Bytes}

/-! ### Rows -/

/-- The rows of a database are these. -/
structure HasRows (s : Store κ) (d : DatabaseId) (C : String → Option Bytes) : Prop where
  /-- The database is there. -/
  lt_length : d < s.databases.length
  /-- The rows are these. -/
  row?_eq : ∀ x, s.row? d x = C x

/-- What a database holds depends on the databases only. -/
lemma HasRows.congr (h : HasRows s d C) (heq : s'.databases = s.databases) : HasRows s' d C where
  lt_length := heq ▸ h.lt_length
  row?_eq x := by
    rw [row?, heq]
    exact h.row?_eq x

/-- **A row that is removed.** -/
lemma HasRows.erase (h : HasRows s d C) (x : String) :
    HasRows (s.modifyDatabase d (·.erase x)) d (Shelf.update C x none) where
  lt_length := by
    rw [modifyDatabase, List.length_modify]
    exact h.lt_length
  row?_eq y := by
    rw [row?_erase h.lt_length, h.row?_eq, Shelf.update]

/-- **A row that is stored.** -/
lemma HasRows.put (h : HasRows s d C) (x : String) (v : Bytes) :
    HasRows (s.modifyDatabase d (·.put x v)) d (Shelf.update C x (some v)) where
  lt_length := by
    rw [modifyDatabase, List.length_modify]
    exact h.lt_length
  row?_eq y := by
    rw [row?_put h.lt_length, h.row?_eq, Shelf.update]

end Store

open Store

/-! ### The keeper -/

variable {κ : Type} [DecidableEq κ] [ToString κ]

/-- **A database repository as a keeper.** It keeps bytes under every identifier, of every
length. -/
def rowKeeper (d : DatabaseId) (p : Path) (writers : RegistryId) :
    Keeper κ (.database d p writers) where
  Admits _ := True
  AdmitsMapping _ _ := True
  AdmitsLength _ := True
  AdmitsTransfer _ := True
  Limited := False
  Keeps s C := HasRows s d C
  Shows s C _ _ k v := HasRows s d C ∧ k = .buffer { buffer := some v, capacity := none }
  Writes s C x sink v := HasRows s d C ∧ sink = .row d x v
  before readOnly x := if readOnly then [] else [.store d x]
  keeps_besides hb hk := hk.congr hb.databases_eq
  keeps_release {s C} r hk := by
    have hsame : (s.release r).databases = s.databases := by
      rcases r with c | (⟨g, x⟩ | ⟨g, x⟩) | ⟨t, e⟩ | ⟨t, e⟩ | ⟨t, e⟩ | d' <;> rfl
    exact hk.congr hsame
  lengthIn_eq {s C x} hk _ := by
    show Except.ok ((s.row? d x).map Bytes.size) = _
    rw [hk.row?_eq]
  removeIn_eq {s C c} hk _ _ href := by
    refine ⟨s.modifyDatabase d (·.erase (s.identifier c)), ⟨rfl, rfl, rfl, rfl⟩, ?_,
      hk.erase (s.identifier c)⟩
    rw [removeIn_of_unreferenced href, eraseIn, removeInRows, hk.row?_eq]
  mapIn_none {s C c} n hk _ hv := by
    unfold mapIn mapInRows
    simp only [if_true, hk.row?_eq, hv]
  mapIn_short {s C c n v} hk _ _ hv hlt := by
    refine ⟨.insufficientBackingStore (s.identifier c) n.toNat v.size, rfl, ?_⟩
    unfold mapIn mapInRows
    simp only [if_true, hk.row?_eq, hv, if_pos hlt]
  mapIn_readOnly {s C c n v} hk _ _ hv hle := by
    refine ⟨s, .buffer { buffer := some (v.take n.toNat), capacity := none }, none, .refl s, ?_,
      hk, rfl⟩
    unfold mapIn mapInRows
    simp only [if_true, hk.row?_eq, hv, if_neg (Nat.not_lt.2 hle)]
    rfl
  mapIn_writable {s C c n} hk hq _ _ := by
    obtain ⟨leased, hlease, hb, hbes⟩ := hq.takeWriteLease writers (s.identifier c)
    refine .inr ⟨leased,
      .buffer { buffer := some (((C (s.identifier c)).getD .empty).fit n.toNat), capacity := none },
      some (.write writers (s.identifier c)), hb, ?_, hk.congr hbes.databases_eq, rfl⟩
    unfold mapIn mapInRows
    simp only [Bool.false_eq_true, if_false, hlease, hk.row?_eq]
    rfl
  shows_besides hb hs := ⟨hs.1.congr hb.databases_eq, hs.2⟩
  view?_eq hs := by
    rw [view?, hs.2]
  mappingSize_eq hs := by
    rw [mappingSize, hs.2]
  setView_eq {s C x v v' h m} hs _ _ := by
    refine ⟨s, .buffer { buffer := some v', capacity := none }, .refl s, ?_, hs.1, rfl⟩
    rw [setView, hs.2]
  resize_eq {s C x v h n m} hs _ hm hro := by
    refine .inr ⟨s, .buffer { buffer := some (v.fit n.toNat), capacity := none }, .refl s, ?_,
      hs.1, rfl⟩
    unfold resize resizeBuffer
    simp only [hm, hro, Bool.false_eq_true, if_false, hs.2]
    rfl
  settle {s C x v m} hs := by
    have hback : s.writeBack m = s := by
      unfold writeBack
      rw [hs.2]
      cases m.readOnly <;> rfl
    rw [hback]
    refine ⟨by rw [view?, hs.2], ?_⟩
    cases m.readOnly with
    | true => exact ⟨s, .refl s, rfl, hs.1⟩
    | false => exact ⟨s.modifyDatabase d (·.put x v), ⟨rfl, rfl, rfl, rfl⟩, rfl, hs.1.put x v⟩
  readIn_none {s C c} hk _ hv := by
    unfold readIn readInRows
    simp only [hk.row?_eq, hv]
  readIn_some {s C c v} hk _ _ hv := by
    refine ⟨s, .bytes v, .refl s, ?_, hk, ⟨rfl, ?_⟩, fun _ _ => rfl⟩
    · unfold readIn readInRows
      simp only [hk.row?_eq, hv]
    · intro r hr
      rw [readerLength, hr]
  writeIn_eq {s C c} append hk hq _ := by
    obtain ⟨leased, hlease, hb, hbes⟩ := hq.takeWriteLease writers (s.identifier c)
    refine .inr ⟨leased, _, .write writers (s.identifier c), hb, ?_,
      hk.congr hbes.databases_eq, rfl⟩
    unfold writeIn writeInRows
    simp only [hlease, hk.row?_eq]
  writes_besides hb hw := ⟨hw.1.congr hb.databases_eq, hw.2⟩
  writeSink_eq {s C x sink v} p' hw :=
    .inr ⟨s, .row d x (v ++ p'), .refl s, by rw [hw.2, writeSink], hw.1, rfl⟩
  atOnce_eq hw _ := by
    rw [hw.2]
    rfl
  commit_eq {s C x sink v} hw := by
    rw [hw.2, commit]
    exact ⟨⟨rfl, rfl, rfl, rfl⟩, hw.1.put x v⟩

end ClaimStore
