import ClaimStore.Store.Faults

/-!
# Faults while a file is mapped again

A change of the length of a file mapping goes through three steps, each of which may fail: what was
changed is written back, the file is cut or extended, and it is mapped again. A failure of the first
leaves the mapping as it was; a failure of one of the others leaves it without a view, and the file
open.

## Main definitions

* `ClaimStore.MappingFaults` — what fails while a mapping is used.
* `Store.resizeWith` — a change of length under these faults.

## Main results

* `Store.resizeWith_eq` — where files can be cut and mapped, it is the one under faults.
-/

set_option autoImplicit false

namespace ClaimStore

/-- What fails outside the store while a mapping is used. -/
structure MappingFaults extends Faults where
  /-- The failure to cut or extend a file. -/
  cut : Option IoError
  /-- The failure to map a file that was cut or extended. -/
  remap : Option IoError
  deriving DecidableEq, Repr

/-- Nothing fails. -/
def MappingFaults.quiet : MappingFaults := ⟨.quiet, none, none⟩

namespace FileBacking

/-- The view ends, then the file is cut or extended, unless that fails. -/
def cutWith (f : MappingFaults) (id : FileId) (n : Nat) (p : Disk × FileBacking) :
    (Disk × FileBacking) × Except Failure Unit :=
  match f.cut with
  | none => cut id n p
  | some e => ((p.1, { p.2 with region := .unmapped }), .error (ioFailure "resize" p.2.path e))

/-- A new view of `n` bytes, unless the file cannot be mapped. The empty view needs no mapping. -/
def remapWith (f : MappingFaults) (b : FileBacking) (n : Nat) : FileBacking × Except Failure Unit :=
  match f.remap with
  | none => (b.remap n, .ok ())
  | some e => if n = 0 then (b.remap n, .ok ()) else (b, .error (ioFailure "map" b.path e))

end FileBacking

namespace Store

variable {κ : Type}

/-- Cuts or extends a file that is mapped writable, under the gate where it becomes shorter than
the mapping. -/
def cutFileWith (f : MappingFaults) (s : Store κ) (id : FileId) (b : FileBacking) (n : Nat) :
    (Disk × FileBacking) × Except Failure Unit :=
  match b.gate with
  | some g =>
    if n < b.length then s.passGate g (FileBacking.cutWith f id n) (s.disk, b)
    else FileBacking.cutWith f id n (s.disk, b)
  | none => FileBacking.cutWith f id n (s.disk, b)

/-- Changes the length of a writable file mapping, which is written back first. -/
def resizeFileWith (f : MappingFaults) (s : Store κ) (map : HandleId) (m : Mapping)
    (b : FileBacking) (n : UInt64) : Store κ × Except Failure Bytes :=
  match b.opened with
  | some (.file id) =>
    match f.refusal? m with
    | some e => (s, .error e)
    | none =>
      let s := s.writeBack m
      match s.cutFileWith f id b n.toNat with
      | ((d, b'), .error e) =>
        ({ s with disk := d }.setHandle map (.mapping { m with backing := .file b' }), .error e)
      | ((d, b'), .ok ()) =>
        let r := b'.remapWith f n.toNat
        ({ s with disk := d }.setHandle map (.mapping { m with backing := .file r.1 }),
          r.2.map fun _ => d.view id n.toNat)
  | some (.directory _) | none => (s, .error (.content (.invalidMapping "resize")))

/-- Changes the length of a mapping and answers with the new view, whatever fails on the way. -/
def resizeWith (f : MappingFaults) (s : Store κ) (map : HandleId) (n : UInt64) :
    Store κ × Except Failure Bytes :=
  match s.mapping? map with
  | none => (s, .error (.content (.invalidMapping "resize")))
  | some m =>
    if m.readOnly then (s, .error (.content (.notSupported "resize")))
    else
      match m.backing with
      | .file b => s.resizeFileWith f map m b n
      | .entry b => s.resizeEntry map m b n
      | .buffer b => s.resizeBuffer map m b n

/-! ### Where files can be cut and mapped -/

section Usual

variable {f : MappingFaults}

/-- A file that no fault keeps from being cut is cut in the plain way. -/
theorem cutFileWith_eq (hcut : f.cut = none) (s : Store κ) (id : FileId) (b : FileBacking)
    (n : Nat) : s.cutFileWith f id b n = s.cutFile id b n := by
  have hcuts : FileBacking.cutWith f = FileBacking.cut := by
    funext id n p
    rw [FileBacking.cutWith, hcut]
  cases hg : b.gate with
  | none => simp only [cutFileWith, cutFile, hg, hcuts]
  | some g => simp only [cutFileWith, cutFile, hg, hcuts]

/-- Only a mapping of a file that is open is written back. -/
theorem refusal?_eq_none {f : Faults} {m : Mapping}
    (h : m.readOnly = false → ∀ b, m.backing = .file b → ∀ id, b.opened ≠ some (.file id)) :
    f.refusal? m = none := by
  have hpath : m.flushPath? = none := by
    unfold Mapping.flushPath?
    split
    · next b hro hb =>
      split
      · next id _ ho => exact absurd ho (h hro b hb id)
      · rfl
    · rfl
  unfold Faults.refusal?
  rw [hpath]
  split
  · next h => cases h
  · rfl

/-- A change of length of a file that can be cut and mapped. -/
theorem resizeFileWith_eq (hcut : f.cut = none) (hremap : f.remap = none) (s : Store κ)
    (map : HandleId) {m : Mapping} {b : FileBacking} (hb : m.backing = .file b) (n : UInt64) :
    s.resizeFileWith f map m b n =
      match f.refusal? m with
      | some e => (s, .error e)
      | none => s.resizeFile map m b n := by
  have hclosed : (∀ id, b.opened ≠ some (.file id)) → f.refusal? m = none := fun h =>
    refusal?_eq_none fun _ b' hb' => by
      obtain rfl := Backing.file.inj (hb.symm.trans hb')
      exact h
  have hmaps : ∀ b k, FileBacking.remapWith f b k = (b.remap k, .ok ()) := by
    intro b k
    rw [FileBacking.remapWith, hremap]
  unfold resizeFileWith resizeFile
  rcases ho : b.opened with _ | id | id
  · rw [hclosed (by simp [ho])]
  · rw [hclosed (by simp [ho])]
  · cases f.refusal? m with
    | some e => rfl
    | none =>
      dsimp only
      rw [cutFileWith_eq hcut]
      obtain ⟨⟨d, b'⟩, e | ⟨⟩⟩ := (s.writeBack m).cutFile id b n.toNat
      · rfl
      · simp only [hmaps, Except.map]

/-- **Where files can be cut and mapped**, a change of length is the one under faults. -/
theorem resizeWith_eq (hcut : f.cut = none) (hremap : f.remap = none) (s : Store κ)
    (map : HandleId) (n : UInt64) :
    s.resizeWith f map n = s.resizeUnder f.toFaults map n := by
  unfold resizeWith resizeUnder resize
  cases s.mapping? map with
  | none => rfl
  | some m =>
    rw [Option.bind_some]
    cases hro : m.readOnly with
    | true =>
      rw [refusal?_eq_none (by simp [hro])]
      simp [hro]
    | false =>
      cases hb : m.backing with
      | file b =>
        simp only [hro, hb, resizeFileWith_eq hcut hremap s map hb n]
        cases f.refusal? m <;> rfl
      | entry b => simp [hro, hb, refusal?_eq_none (f := f.toFaults) (m := m) (by simp [hb])]
      | buffer b => simp [hro, hb, refusal?_eq_none (f := f.toFaults) (m := m) (by simp [hb])]

end Usual

end Store

end ClaimStore
