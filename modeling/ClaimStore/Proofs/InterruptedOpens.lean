import ClaimStore.Proofs.EntryRefusals
import ClaimStore.Proofs.Lease
import ClaimStore.Proofs.ScopedOpens

/-!
# Opens of files, one step after the other

An open of a file takes a reference of the claim and a lease, and then goes through steps each of
which may fail: the stored length is looked up, the directory is made, the file is opened, and
perhaps made, it is measured, cut or extended, and mapped. After a failure the lease and the
reference are given back, in reverse; what was done on the disk stays done. Where nothing fails that
does not fail by itself, an open in these steps is the operation of a file repository.

## Main definitions

* `ClaimStore.OpenFaults` — what fails while a file is opened.
* `ClaimStore.ContentOpen` — the ways to open content.
* `Store.openInFilesWith` — an open in a file repository under these faults.
* `Store.openContentWith` — an open in a repository under these faults.
* `Store.Interrupts` — the disk after an open that failed.

## Main results

* `Store.openInFilesWith_quiet` — without faults it is the operation of a file repository.
* `Store.openInFilesWith_ok` — an open that succeeds is that operation.
* `Store.openInFilesWith_error` — one that fails changes nothing but the disk.
* `Store.openContentWith_cases` — so does an open in a repository, or it is the operation.
-/

set_option autoImplicit false

namespace ClaimStore

/-- What fails outside the store while a file is opened. -/
structure OpenFaults where
  /-- The failure to look up what is stored under the path. -/
  stat : Option IoError
  /-- The failure to make the directory, after so many steps from its first segment. -/
  directory : Option (Nat × IoError)
  /-- The failure to open the file, which is not made then. -/
  openFile : Option IoError
  /-- The failure to measure the file that is open. -/
  measure : Option IoError
  /-- The failure to cut or extend it. -/
  setLength : Option IoError
  /-- The failure to map it. -/
  map : Option IoError
  deriving DecidableEq, Repr

/-- Nothing fails. -/
def OpenFaults.quiet : OpenFaults := ⟨none, none, none, none, none, none⟩

/-- A way to open content. -/
inductive ContentOpen where
  /-- As a mapping. -/
  | map (n : UInt64) (readOnly : Bool)
  /-- As a reader. -/
  | read
  /-- As a writer. -/
  | write (append : Bool)
  deriving DecidableEq, Repr

/-- The content may be changed through what is opened. -/
def ContentOpen.isWriting : ContentOpen → Bool
  | .map _ readOnly => !readOnly
  | .read => false
  | .write _ => true

/-- A step that is made, unless it fails from outside. -/
def unlessFault {α : Type} (e : Option IoError) (x : Except IoError α) : Except IoError α :=
  match e with
  | none => x
  | some e => .error e

/-- Without a fault the outcome is the plain one. -/
@[simp] lemma unlessFault_none {α : Type} (x : Except IoError α) : unlessFault none x = x := rfl

/-- What succeeds under a possible fault did not fail, and succeeds without it. -/
lemma unlessFault_eq_ok {α : Type} {e : Option IoError} {x : Except IoError α} {a : α} :
    unlessFault e x = .ok a ↔ e = none ∧ x = .ok a := by
  cases e <;> simp [unlessFault]

/-! ### Steps on the disk -/

/-- The path of the first segments of a path. -/
def Path.upTo (p : Path) (steps : Nat) : Path := { p with rest := p.rest.take steps }

namespace Disk

/-- The length of the regular file that a path leads to, if it leads to one. -/
def storedLengthWith (f : OpenFaults) (d : Disk) (p : Path) : Except Failure (Option Nat) :=
  match unlessFault f.stat (d.resolve p) with
  | .ok (.file id) => .ok (some (d.bytes id).size)
  | .ok (.directory _) => .ok none
  | .error (.os .notFound) => .ok none
  | .error e => .error (ioFailure "read metadata of" p e)

/-- Makes the parent of a path, or some of its first directories before a failure. -/
def makeParentWith (f : OpenFaults) (d : Disk) (p : Path) : Disk × Except Failure Unit :=
  match f.directory, p.parent? with
  | none, _ => d.makeParent p
  | some _, none => (d, .ok ())
  | some (steps, e), some q =>
    ((d.makeDirectories (q.upTo steps)).1, .error (ioFailure "create directory" q e))

/-- Opens the file that a path leads to, for writing, after making it and its directory where they
are missing. -/
def openMakingWith (f : OpenFaults) (d : Disk) (p : Path) : Disk × Except Failure FileId :=
  match d.makeParentWith f p with
  | (d, .error e) => (d, .error e)
  | (d, .ok ()) =>
    match unlessFault f.openFile (d.openCreating p) with
    | .error e => (d, .error (ioFailure "open" p e))
    | .ok (id, d) => (d, .ok id)

/-- Opens what a path leads to and measures it. -/
def openToReadWith (f : OpenFaults) (d : Disk) (p : Path) (missing : Failure) :
    Except Failure Item :=
  match unlessFault f.openFile (d.resolve p) with
  | .error (.os .notFound) => .error missing
  | .error e => .error (ioFailure "open" p e)
  | .ok i =>
    match f.measure with
    | some e => .error (ioFailure "read metadata of" p e)
    | none => .ok i

/-- Cuts a file to nothing. -/
def emptyFileWith (f : OpenFaults) (id : FileId) (p : Path) (d : Disk) :
    Disk × Except Failure Unit :=
  match unlessFault f.setLength (d.setLength id 0) with
  | .ok d => (d, .ok ())
  | .error e => (d, .error (ioFailure "truncate" p e))

end Disk

namespace FileBacking

/-- A view of the first `n` bytes of what was opened. The empty view needs no mapped memory. -/
def ofOpenedWith (f : OpenFaults) (p : Path) (i : Item) (n : Nat) : Except Failure FileBacking :=
  match f.map with
  | none => ofOpened p i n
  | some e => if n = 0 then ofOpened p i n else .error (ioFailure "map" p e)

/-- Opens what a path leads to, which has to be at least `n` bytes long. -/
def openReadOnlyWith (f : OpenFaults) (d : Disk) (p : Path) (n : UInt64) :
    Except Failure FileBacking :=
  match unlessFault f.openFile (d.resolve p) with
  | .error e => .error (ioFailure "open" p e)
  | .ok i =>
    match f.measure with
    | some e => .error (ioFailure "read metadata of" p e)
    | none =>
      if d.length i < n.toNat then
        .error (.content (.insufficientBackingStore p.toString n.toNat (d.length i)))
      else ofOpenedWith f p i n.toNat

/-- Extends the file that was opened to `n` bytes where it is shorter, and maps it. -/
def extendWith (f : OpenFaults) (d : Disk) (p : Path) (id : FileId) (n : Nat) :
    Disk × Except Failure FileBacking :=
  match f.measure with
  | some e => (d, .error (ioFailure "read metadata of" p e))
  | none =>
    if (d.bytes id).size < n then
      match unlessFault f.setLength (d.setLength id n) with
      | .error e => (d, .error (ioFailure "extend" p e))
      | .ok d => (d, ofOpenedWith f p (.file id) n)
    else (d, ofOpenedWith f p (.file id) n)

/-- Opens the file that a path leads to, after making it and its directory where they are missing,
and extends it to `n` bytes where it is shorter. -/
def openWritableWith (f : OpenFaults) (d : Disk) (p : Path) (n : UInt64) :
    Disk × Except Failure FileBacking :=
  match d.openMakingWith f p with
  | (d, .error e) => (d, .error e)
  | (d, .ok id) => extendWith f d p id n.toNat

end FileBacking

namespace Store

variable {κ : Type}

/-- Opens the file that a path leads to, after making it and its directory where they are missing,
and cuts it to nothing unless the writer appends. -/
def openToWriteWith (f : OpenFaults) (readers : ReaderRegistry) (identifier : String) (d : Disk)
    (p : Path) (append : Bool) : Disk × Except Failure FileId :=
  match d.openMakingWith f p with
  | (d, .error e) => (d, .error e)
  | (d, .ok id) =>
    if append then (d, .ok id)
    else
      match readers.exclusive identifier (Disk.emptyFileWith f id p) d with
      | (d, .error e) => (d, .error e)
      | (d, .ok ()) => (d, .ok id)

/-! ### Opens in order -/

/-- Holds a read lease of an identifier. -/
def holdingReadLease {α : Type} (g : RegistryId) (x : String)
    (act : Store κ → Store κ × Except Failure α) : Store κ → Store κ × Except Failure α :=
  holding (fun s => .ok ((), s.takeReadLease g x)) (fun _ s => s.release (.lease (.read g x)))
    fun _ => act

/-- A mapping of the file of a claim. -/
def mapInFilesWith (f : OpenFaults) (s : Store κ) (directory : Path)
    (writers readers : RegistryId) (c : ClaimId) (n : UInt64) (readOnly : Bool) :
    Store κ × Except Failure HandleId :=
  let identifier := s.identifier c
  let p := contentPath directory identifier
  holdingReference c (fun s =>
    if readOnly then
      holdingReadLease readers identifier (fun s =>
        match s.disk.storedLengthWith f p with
        | .error e => (s, .error e)
        | .ok none => (s, .error (missingContent identifier n.toNat))
        | .ok (some _) =>
          match FileBacking.openReadOnlyWith f s.disk p n with
          | .error e => (s, .error e)
          | .ok b => succeed (s.addHolder
              { backing := .file b, readOnly := true, hooks := .empty } c
              (some (.read readers identifier)))) s
    else
      holdingLease writers identifier (fun s =>
        match FileBacking.openWritableWith f s.disk p n with
        | (d, .error e) => ({ s with disk := d }, .error e)
        | (d, .ok b) => succeed ({ s with disk := d }.addHolder
            { backing := .file { b with gate := some (.readers readers identifier) }
              readOnly := false
              hooks := .empty } c
            (some (.write writers identifier)))) s) s

/-- A reader of the file of a claim. -/
def readInFilesWith (f : OpenFaults) (s : Store κ) (directory : Path) (c : ClaimId) :
    Store κ × Except Failure HandleId :=
  let identifier := s.identifier c
  let p := contentPath directory identifier
  holdingReference c (fun s =>
    match s.disk.openToReadWith f p (missingContent identifier 0) with
    | .error e => (s, .error e)
    | .ok i => succeed (s.addHandle
        (.reader { claim := c, source := .file i (s.disk.length i), position := 0 }))) s

/-- A writer to the file of a claim, at its end or in place of what it holds. -/
def writeInFilesWith (f : OpenFaults) (s : Store κ) (directory : Path)
    (writers readers : RegistryId) (c : ClaimId) (append : Bool) :
    Store κ × Except Failure HandleId :=
  let identifier := s.identifier c
  let p := contentPath directory identifier
  holdingReference c (holdingLease writers identifier fun s =>
    match openToWriteWith f (s.readerRegistry readers) identifier s.disk p append with
    | (d, .error e) => ({ s with disk := d }, .error e)
    | (d, .ok id) => succeed ({ s with disk := d }.addHandle (.writer
        { claim := c, sink := .file id (if append then none else some 0), written := 0
          lease := some (.write writers identifier) }))) s

/-- An open in a file repository. -/
def openInFiles (s : Store κ) (directory : Path) (writers readers : RegistryId) (c : ClaimId) :
    ContentOpen → Store κ × Except Failure HandleId
  | .map n readOnly => s.mapInFiles directory writers readers c n readOnly
  | .read => s.readInFiles directory c
  | .write append => s.writeInFiles directory writers readers c append

/-- An open in a file repository, whatever fails on the way. -/
def openInFilesWith (f : OpenFaults) (s : Store κ) (directory : Path)
    (writers readers : RegistryId) (c : ClaimId) : ContentOpen → Store κ × Except Failure HandleId
  | .map n readOnly => s.mapInFilesWith f directory writers readers c n readOnly
  | .read => s.readInFilesWith f directory c
  | .write append => s.writeInFilesWith f directory writers readers c append

/-! ### What is given back -/

section Undo

variable {s : Store κ} {c : ClaimId} {w g : RegistryId} {x : String}

/-- A reference that is taken leaves the disk. -/
@[simp] lemma disk_takeReference (s : Store κ) (c : ClaimId) : (s.takeReference c).disk = s.disk :=
  rfl

/-- A lease that is taken leaves the disk. -/
@[simp] lemma disk_takeReadLease (s : Store κ) (g : RegistryId) (x : String) :
    (s.takeReadLease g x).disk = s.disk := rfl

/-- A read lease that is taken and given back at once was never taken. -/
lemma release_takeReadLease (s : Store κ) (g : RegistryId) (x : String) :
    (s.takeReadLease g x).release (.lease (.read g x)) = s := by
  have hregistries : (s.readerRegistries.modify g (·.acquire x)).modify g (·.release x) =
      s.readerRegistries := by
    have hsame : (ReaderRegistry.release · x) ∘ (ReaderRegistry.acquire · x) = id :=
      funext fun r => r.release_acquire x
    rw [List.modify_modify_eq, hsame]
    exact List.modify_id _ _
  show { s with readerRegistries := (s.readerRegistries.modify g _).modify g _ } = s
  rw [hregistries]

variable {α : Type} {act : Store κ → Store κ × Except Failure α} {d : Disk} {e : Failure} {a : α}
  {z leased : Store κ}

/-- **A reference is given back** where an action fails that changes the disk at most. -/
lemma holdingReference_disk (h : act (s.takeReference c) =
    ({ s.takeReference c with disk := d }, .error e)) :
    holdingReference c act s = ({ s with disk := d }, .error e) := by
  rw [holdingReference_error h]
  show ({ (s.takeReference c).release (.reference c) with disk := d }, _) = _
  rw [release_takeReference]

/-- **So is a write lease.** -/
lemma holdingLease_disk (hl : s.takeWriteLease w x = .ok leased)
    (h : act leased = ({ leased with disk := d }, .error e)) :
    holdingLease w x act s = ({ s with disk := d }, .error e) := by
  rw [holdingLease_error hl h]
  show ({ leased.release (.lease (.write w x)) with disk := d }, _) = _
  rw [release_takeWriteLease hl]

/-- **And a read lease.** -/
lemma holdingReadLease_error (h : act (s.takeReadLease g x) = (s.takeReadLease g x, .error e)) :
    holdingReadLease g x act s = (s, .error e) := by
  refine (holding_error (g := fun _ => act) rfl h).trans ?_
  rw [release_takeReadLease]

/-- What succeeds under a read lease keeps the lease. -/
lemma holdingReadLease_ok (h : act (s.takeReadLease g x) = (z, .ok a)) :
    holdingReadLease g x act s = (z, .ok a) :=
  holding_ok (g := fun _ => act) rfl h

end Undo

/-! ### Opens in order keep what they need -/

section Order

variable (f : OpenFaults) (s : Store κ) (D : Path) (w g : RegistryId) (c : ClaimId)

/-- **A read-only mapping** keeps its holds where it succeeds, and changes nothing where it
fails. -/
lemma mapInFilesWith_readOnly (n : UInt64) :
    s.mapInFilesWith f D w g c n true =
      match s.disk.storedLengthWith f (contentPath D (s.identifier c)) with
      | .error e => (s, .error e)
      | .ok none => (s, .error (missingContent (s.identifier c) n.toNat))
      | .ok (some _) =>
        match FileBacking.openReadOnlyWith f s.disk (contentPath D (s.identifier c)) n with
        | .error e => (s, .error e)
        | .ok b => succeed ((s.takeReadLease g (s.identifier c)).addHeldMapping
            { backing := .file b, readOnly := true, hooks := .empty } c
            (some (.read g (s.identifier c)))) := by
  have fails : ∀ {act : Store κ → Store κ × Except Failure HandleId} {e : Failure},
      (∀ z : Store κ, z.disk = s.disk → act z = (z, .error e)) →
      holdingReference c (holdingReadLease g (s.identifier c) act) s = (s, .error e) := by
    intro act e h
    exact holdingReference_disk (d := s.disk) (holdingReadLease_error (h _ rfl))
  unfold mapInFilesWith
  simp only [if_true]
  cases hstat : s.disk.storedLengthWith f (contentPath D (s.identifier c)) with
  | error e =>
    refine fails fun z hz => ?_
    rw [hz, hstat]
  | ok length =>
    cases length with
    | none =>
      refine fails fun z hz => ?_
      rw [hz, hstat]
    | some length =>
      dsimp only
      cases hopen : FileBacking.openReadOnlyWith f s.disk (contentPath D (s.identifier c)) n with
      | error e =>
        refine fails fun z hz => ?_
        rw [hz, hstat]
        dsimp only
        rw [hopen]
      | ok b =>
        refine holdingReference_ok (holdingReadLease_ok ?_)
        simp only [disk_takeReadLease, disk_takeReference, hstat, hopen]
        rfl

/-- **A writable mapping** keeps its holds where it succeeds, and changes the disk at most where it
fails. -/
lemma mapInFilesWith_writable (n : UInt64) :
    s.mapInFilesWith f D w g c n false =
      match s.takeWriteLease w (s.identifier c) with
      | .error e => (s, .error e)
      | .ok leased =>
        match FileBacking.openWritableWith f s.disk (contentPath D (s.identifier c)) n with
        | (d, .error e) => ({ s with disk := d }, .error e)
        | (d, .ok b) => succeed ({ leased with disk := d }.addHeldMapping
            { backing := .file { b with gate := some (.readers g (s.identifier c)) }
              readOnly := false
              hooks := .empty } c
            (some (.write w (s.identifier c)))) := by
  unfold mapInFilesWith
  simp only [Bool.false_eq_true, if_false]
  have hlease := takeWriteLease_takeReference s c w (s.identifier c)
  cases hl : s.takeWriteLease w (s.identifier c) with
  | error e =>
    rw [hl] at hlease
    exact holdingReference_disk (d := s.disk) (holdingLease_refused hlease)
  | ok leased =>
    rw [hl] at hlease
    have hdisk : leased.disk = s.disk := by
      obtain ⟨_, -, rfl⟩ := takeWriteLease_ok hl
      rfl
    dsimp only
    cases hopen : FileBacking.openWritableWith f s.disk (contentPath D (s.identifier c)) n with
    | mk d answer =>
      cases answer with
      | error e =>
        refine holdingReference_disk (holdingLease_disk hlease ?_)
        simp only [disk_takeReference, hdisk, hopen]
      | ok b =>
        refine holdingReference_ok (holdingLease_ok hlease ?_)
        simp only [disk_takeReference, hdisk, hopen]
        rfl

/-- **A reader** keeps its reference where it succeeds, and changes nothing where it fails. -/
lemma readInFilesWith_eq :
    s.readInFilesWith f D c =
      match s.disk.openToReadWith f (contentPath D (s.identifier c))
          (missingContent (s.identifier c) 0) with
      | .error e => (s, .error e)
      | .ok i => succeed (s.addReader c (.file i (s.disk.length i))) := by
  unfold readInFilesWith
  cases hopen : s.disk.openToReadWith f (contentPath D (s.identifier c))
      (missingContent (s.identifier c) 0) with
  | error e =>
    refine holdingReference_disk (d := s.disk) ?_
    simp only [disk_takeReference, hopen]
    rfl
  | ok i =>
    refine holdingReference_ok ?_
    simp only [disk_takeReference, hopen]
    rfl

/-- **A writer** keeps its holds where it succeeds, and changes the disk at most where it fails. -/
lemma writeInFilesWith_eq (append : Bool) :
    s.writeInFilesWith f D w g c append =
      match s.takeWriteLease w (s.identifier c) with
      | .error e => (s, .error e)
      | .ok leased =>
        match openToWriteWith f (s.readerRegistry g) (s.identifier c) s.disk
            (contentPath D (s.identifier c)) append with
        | (d, .error e) => ({ s with disk := d }, .error e)
        | (d, .ok id) => succeed ({ leased with disk := d }.addWriter c
            (.file id (if append then none else some 0)) (.write w (s.identifier c))) := by
  unfold writeInFilesWith
  have hlease := takeWriteLease_takeReference s c w (s.identifier c)
  cases hl : s.takeWriteLease w (s.identifier c) with
  | error e =>
    rw [hl] at hlease
    exact holdingReference_disk (d := s.disk) (holdingLease_refused hlease)
  | ok leased =>
    rw [hl] at hlease
    have hdisk : leased.disk = s.disk := by
      obtain ⟨_, -, rfl⟩ := takeWriteLease_ok hl
      rfl
    have hreaders : (leased.takeReference c).readerRegistry g = s.readerRegistry g := by
      obtain ⟨_, -, rfl⟩ := takeWriteLease_ok hl
      rfl
    dsimp only
    cases hopen : openToWriteWith f (s.readerRegistry g) (s.identifier c) s.disk
        (contentPath D (s.identifier c)) append with
    | mk d answer =>
      cases answer with
      | error e =>
        refine holdingReference_disk (holdingLease_disk hlease ?_)
        simp only [disk_takeReference, hdisk, hreaders, hopen]
      | ok id =>
        refine holdingReference_ok (holdingLease_ok hlease ?_)
        simp only [disk_takeReference, hdisk, hreaders, hopen]
        rfl

end Order

/-! ### Without faults -/

section Quiet

variable (d : Disk) (p : Path)

/-- Without faults a stored length is the plain one. -/
lemma storedLengthWith_quiet : d.storedLengthWith .quiet p = d.storedLength p := rfl

/-- Without faults a file is mapped read-only in the plain way. -/
lemma openReadOnlyWith_quiet (n : UInt64) :
    FileBacking.openReadOnlyWith .quiet d p n = FileBacking.openReadOnly d p n := rfl

/-- Without faults a file is opened for reading if its path leads to something. -/
lemma openToReadWith_quiet (missing : Failure) : d.openToReadWith .quiet p missing =
    match d.resolve p with
    | .error (.os .notFound) => .error missing
    | .error e => .error (ioFailure "open" p e)
    | .ok i => .ok i := rfl

/-- Without faults a file is opened, and made where it is missing. -/
lemma openMakingWith_quiet : d.openMakingWith .quiet p =
    match d.makeParent p with
    | (d, .error e) => (d, .error e)
    | (d, .ok ()) =>
      match d.openCreating p with
      | .error e => (d, .error (ioFailure "open" p e))
      | .ok (id, d) => (d, .ok id) := rfl

/-- Without faults a file is mapped writable in the plain way. -/
lemma openWritableWith_quiet (n : UInt64) :
    FileBacking.openWritableWith .quiet d p n = FileBacking.openWritable d p n := by
  rw [FileBacking.openWritableWith, FileBacking.openWritable, openMakingWith_quiet]
  cases d.makeParent p with
  | mk d₁ answer =>
    cases answer with
    | error e => rfl
    | ok _ =>
      dsimp only
      cases d₁.openCreating p with
      | error e => rfl
      | ok r => rfl

/-- Without faults a file is cut to nothing. -/
lemma emptyFileWith_quiet (id : FileId) :
    Disk.emptyFileWith .quiet id p = emptyFile id p := by
  funext d
  rw [Disk.emptyFileWith, emptyFile]
  rfl

variable (s : Store κ) (D : Path) (w g : RegistryId) (c : ClaimId)

/-- Without faults a file repository opens the plain mapping. -/
lemma mapInFilesWith_quiet (n : UInt64) (readOnly : Bool) :
    s.mapInFilesWith .quiet D w g c n readOnly = s.mapInFiles D w g c n readOnly := by
  cases readOnly with
  | true =>
    rw [mapInFilesWith_readOnly, mapInFiles, storedLengthWith_quiet, openReadOnlyWith_quiet]
    refine Eq.trans ?_ (if_pos rfl).symm
    cases s.disk.storedLength (contentPath D (s.identifier c)) with
    | error e => rfl
    | ok length =>
      cases length with
      | none => rfl
      | some length =>
        cases FileBacking.openReadOnly s.disk (contentPath D (s.identifier c)) n <;> rfl
  | false =>
    rw [mapInFilesWith_writable, mapInFiles, openWritableWith_quiet]
    refine Eq.trans ?_ (if_neg Bool.false_ne_true).symm
    cases s.takeWriteLease w (s.identifier c) with
    | error e => rfl
    | ok leased =>
      cases FileBacking.openWritable s.disk (contentPath D (s.identifier c)) n with
      | mk d answer => cases answer <;> rfl

/-- Without faults it opens the plain reader. -/
lemma readInFilesWith_quiet : s.readInFilesWith .quiet D c = s.readInFiles D c := by
  rw [readInFilesWith_eq, openToReadWith_quiet]
  unfold readInFiles
  dsimp only
  cases s.disk.resolve (contentPath D (s.identifier c)) with
  | ok i => rfl
  | error e =>
    by_cases he : e = .os .notFound
    · subst he
      rfl
    · split <;> split <;> simp_all

/-- Without faults it opens the plain writer. -/
lemma writeInFilesWith_quiet (append : Bool) :
    s.writeInFilesWith .quiet D w g c append = s.writeInFiles D w g c append := by
  rw [writeInFilesWith_eq, writeInFiles, openToWriteWith, openMakingWith_quiet]
  simp only [emptyFileWith_quiet]
  cases s.takeWriteLease w (s.identifier c) with
  | error e => rfl
  | ok leased =>
    dsimp only
    cases s.disk.makeParent (contentPath D (s.identifier c)) with
    | mk d₁ answer =>
      cases answer with
      | error e => rfl
      | ok _ =>
        dsimp only
        cases d₁.openCreating (contentPath D (s.identifier c)) with
        | error e => rfl
        | ok r =>
          cases append with
          | true => rfl
          | false =>
            dsimp only
            simp only [Bool.false_eq_true, if_false]
            cases (s.readerRegistry g).exclusive (s.identifier c)
                (emptyFile r.1 (contentPath D (s.identifier c))) r.2 with
            | mk d₂ answer => cases answer <;> rfl

/-- **Without faults an open is the operation of a file repository.** -/
theorem openInFilesWith_quiet (o : ContentOpen) :
    s.openInFilesWith .quiet D w g c o = s.openInFiles D w g c o := by
  cases o with
  | map n readOnly => exact s.mapInFilesWith_quiet D w g c n readOnly
  | read => exact s.readInFilesWith_quiet D c
  | write append => exact s.writeInFilesWith_quiet D w g c append

end Quiet

/-! ### Opens that succeed -/

section Succeeds

variable {f : OpenFaults} {d d' : Disk} {p : Path} {id : FileId}

/-- What is found out is so. -/
lemma storedLength_of_with {n : Nat} (h : d.storedLengthWith f p = .ok (some n)) :
    d.storedLength p = .ok (some n) := by
  unfold Disk.storedLengthWith at h
  split at h
  · next hfile =>
    rw [Disk.storedLength, (unlessFault_eq_ok.1 hfile).2]
    exact h
  · cases h
  · cases h
  · cases h

/-- A file that is mapped is mapped. -/
lemma ofOpened_of_with {i : Item} {n : Nat} {b : FileBacking}
    (h : FileBacking.ofOpenedWith f p i n = .ok b) : FileBacking.ofOpened p i n = .ok b := by
  unfold FileBacking.ofOpenedWith at h
  split at h
  · exact h
  · split at h
    · exact h
    · cases h

/-- A read-only mapping that is opened under faults is the plain one. -/
lemma openReadOnly_of_with {n : UInt64} {b : FileBacking}
    (h : FileBacking.openReadOnlyWith f d p n = .ok b) :
    FileBacking.openReadOnly d p n = .ok b := by
  unfold FileBacking.openReadOnlyWith at h
  split at h
  · cases h
  · next i hopen =>
    rw [FileBacking.openReadOnly, (unlessFault_eq_ok.1 hopen).2]
    dsimp only
    split at h
    · cases h
    · split at h
      · cases h
      · next hlong =>
        rw [if_neg hlong]
        exact ofOpened_of_with h

/-- A reader that is opened under faults is the plain one. -/
lemma openToRead_of_with {missing : Failure} {i : Item}
    (h : d.openToReadWith f p missing = .ok i) : d.openToReadWith .quiet p missing = .ok i := by
  unfold Disk.openToReadWith at h
  split at h
  · cases h
  · cases h
  · next hopen =>
    rw [openToReadWith_quiet, (unlessFault_eq_ok.1 hopen).2]
    split at h
    · cases h
    · exact h

/-- A directory that is made is made. -/
lemma makeParent_of_with (h : d.makeParentWith f p = (d', .ok ())) :
    d.makeParent p = (d', .ok ()) := by
  unfold Disk.makeParentWith at h
  split at h
  · exact h
  · next hp =>
    rw [Disk.makeParent, hp]
    exact h
  · cases (Prod.mk.inj h).2

/-- **A file that is opened** has its directory, and was opened without a fault. -/
lemma openMakingWith_ok (h : d.openMakingWith f p = (d', .ok id)) :
    ∃ d₁, d.makeParent p = (d₁, .ok ()) ∧ d₁.openCreating p = .ok (id, d') := by
  unfold Disk.openMakingWith at h
  split at h
  · cases (Prod.mk.inj h).2
  · next d₁ hmake =>
    split at h
    · cases (Prod.mk.inj h).2
    · next id' d₂ hopen =>
      obtain ⟨rfl, hid⟩ := Prod.mk.inj h
      obtain rfl := Except.ok.inj hid
      exact ⟨d₁, makeParent_of_with hmake, (unlessFault_eq_ok.1 hopen).2⟩

/-- A file that is opened or made under faults is the one without them. -/
lemma openMaking_of_with (h : d.openMakingWith f p = (d', .ok id)) :
    d.openMakingWith .quiet p = (d', .ok id) := by
  obtain ⟨d₁, hmake, hopen⟩ := openMakingWith_ok h
  rw [openMakingWith_quiet, hmake]
  dsimp only
  rw [hopen]

/-- A writable mapping that is opened under faults is the plain one. -/
lemma openWritable_of_with {n : UInt64} {b : FileBacking}
    (h : FileBacking.openWritableWith f d p n = (d', .ok b)) :
    FileBacking.openWritable d p n = (d', .ok b) := by
  rw [← openWritableWith_quiet]
  unfold FileBacking.openWritableWith at h ⊢
  split at h
  · cases (Prod.mk.inj h).2
  · next d₁ id hopen =>
    rw [openMaking_of_with hopen]
    dsimp only
    unfold FileBacking.extendWith at h ⊢
    dsimp only [OpenFaults.quiet]
    split at h
    · cases (Prod.mk.inj h).2
    · split at h
      · next hshort =>
        rw [if_pos hshort]
        split at h
        · cases (Prod.mk.inj h).2
        · next d₂ hset =>
          obtain ⟨rfl, hb⟩ := Prod.mk.inj h
          rw [unlessFault_none, (unlessFault_eq_ok.1 hset).2]
          exact Prod.ext rfl (ofOpened_of_with hb)
      · next hlong =>
        obtain ⟨rfl, hb⟩ := Prod.mk.inj h
        rw [if_neg hlong]
        exact Prod.ext rfl (ofOpened_of_with hb)

/-- A file that is emptied under faults is emptied in the plain way. -/
lemma emptyFile_of_with (h : d.emptyFileWith f id p = (d', .ok ())) :
    emptyFile id p d = (d', .ok ()) := by
  unfold Disk.emptyFileWith at h
  split at h
  · next d₁ hset =>
    rw [emptyFile, (unlessFault_eq_ok.1 hset).2]
    exact h
  · cases (Prod.mk.inj h).2

/-- A writer that is opened under faults is the plain one. -/
lemma openToWrite_of_with {r : ReaderRegistry} {x : String} {append : Bool}
    (h : openToWriteWith f r x d p append = (d', .ok id)) :
    openToWriteWith .quiet r x d p append = (d', .ok id) := by
  unfold openToWriteWith at h ⊢
  split at h
  · cases (Prod.mk.inj h).2
  · next d₁ id' hopen =>
    rw [openMaking_of_with hopen]
    dsimp only
    split at h
    · next happend =>
      rw [if_pos happend]
      exact h
    · next happend =>
      rw [if_neg happend]
      rw [emptyFileWith_quiet]
      unfold ReaderRegistry.exclusive at h ⊢
      split at h
      · next hempty =>
        cases (Prod.mk.inj h).2
      · next d₂ hempty =>
        split at hempty
        · cases (Prod.mk.inj hempty).2
        · next hfree =>
          rw [if_neg hfree, emptyFile_of_with hempty]
          exact h

variable {s s' : Store κ} {D : Path} {w g : RegistryId} {c : ClaimId} {h : HandleId}

/-- **An open that succeeds is the operation of a file repository.**

**Proof sketch.** By the open. Each of its steps that succeeds under a fault succeeds with the same
result without one, and a step that fails ends the open. -/
theorem openInFilesWith_ok {o : ContentOpen}
    (hopen : s.openInFilesWith f D w g c o = (s', .ok h)) :
    s.openInFiles D w g c o = (s', .ok h) := by
  rw [← openInFilesWith_quiet]
  cases o with
  | map n readOnly =>
    cases readOnly with
    | true =>
      rw [openInFilesWith, mapInFilesWith_readOnly] at hopen ⊢
      split at hopen
      · cases (Prod.mk.inj hopen).2
      · cases (Prod.mk.inj hopen).2
      · next length hstat =>
        split at hopen
        · cases (Prod.mk.inj hopen).2
        · next b hb =>
          rw [storedLengthWith_quiet, storedLength_of_with hstat]
          dsimp only
          rw [openReadOnlyWith_quiet, openReadOnly_of_with hb]
          exact hopen
    | false =>
      rw [openInFilesWith, mapInFilesWith_writable] at hopen ⊢
      split at hopen
      · cases (Prod.mk.inj hopen).2
      · next leased hl =>
        split at hopen
        · cases (Prod.mk.inj hopen).2
        · next d b hb =>
          rw [openWritableWith_quiet, openWritable_of_with hb]
          exact hopen
  | read =>
    rw [openInFilesWith, readInFilesWith_eq] at hopen ⊢
    split at hopen
    · cases (Prod.mk.inj hopen).2
    · next i hi =>
      rw [openToRead_of_with hi]
      exact hopen
  | write append =>
    rw [openInFilesWith, writeInFilesWith_eq] at hopen ⊢
    split at hopen
    · cases (Prod.mk.inj hopen).2
    · next leased hl =>
      split at hopen
      · cases (Prod.mk.inj hopen).2
      · next d id hid =>
        rw [openToWrite_of_with hid]
        exact hopen

end Succeeds

/-! ### Opens that fail -/

section Fails

variable (f : OpenFaults) (s : Store κ) (D : Path) (w g : RegistryId) (c : ClaimId)

/-- **The disk after an open that failed**: it is as it was, unless the write lease of the
identifier was free and the file was being opened for writing. -/
inductive Interrupts : ContentOpen → Disk → Prop
  /-- The content was not being opened for writing. -/
  | reading {o : ContentOpen} (reads : o.isWriting = false) : Interrupts o s.disk
  /-- The write lease was refused. -/
  | refused {o : ContentOpen} (taken : (s.writerRegistry w).isWriting (s.identifier c) = true) :
      Interrupts o s.disk
  /-- The file was being opened for a writable mapping. -/
  | mapping {n : UInt64} {d : Disk} {e : Failure}
      (free : (s.writerRegistry w).isWriting (s.identifier c) = false)
      (opens : FileBacking.openWritableWith f s.disk (contentPath D (s.identifier c)) n =
        (d, .error e)) : Interrupts (.map n false) d
  /-- The file was being opened for a writer. -/
  | writing {append : Bool} {d : Disk} {e : Failure}
      (free : (s.writerRegistry w).isWriting (s.identifier c) = false)
      (opens : openToWriteWith f (s.readerRegistry g) (s.identifier c) s.disk
        (contentPath D (s.identifier c)) append = (d, .error e)) : Interrupts (.write append) d

variable {f s D w g c} {s' : Store κ} {e : Failure}

/-- **An open that fails changes nothing but the disk.** -/
theorem openInFilesWith_error {o : ContentOpen}
    (hopen : s.openInFilesWith f D w g c o = (s', .error e)) :
    s' = { s with disk := s'.disk } ∧ Interrupts f s D w g c o s'.disk := by
  cases o with
  | map n readOnly =>
    cases readOnly with
    | true =>
      rw [openInFilesWith, mapInFilesWith_readOnly] at hopen
      split at hopen
      · obtain ⟨rfl, -⟩ := Prod.mk.inj hopen
        exact ⟨rfl, .reading rfl⟩
      · obtain ⟨rfl, -⟩ := Prod.mk.inj hopen
        exact ⟨rfl, .reading rfl⟩
      · split at hopen
        · obtain ⟨rfl, -⟩ := Prod.mk.inj hopen
          exact ⟨rfl, .reading rfl⟩
        · cases (Prod.mk.inj hopen).2
    | false =>
      rw [openInFilesWith, mapInFilesWith_writable] at hopen
      split at hopen
      · next hl =>
        obtain ⟨rfl, -⟩ := Prod.mk.inj hopen
        exact ⟨rfl, .refused (takeWriteLease_error hl).2⟩
      · next leased hl =>
        split at hopen
        · next d e' hd =>
          obtain ⟨rfl, -⟩ := Prod.mk.inj hopen
          exact ⟨rfl, .mapping (isWriting_of_takeWriteLease hl) hd⟩
        · cases (Prod.mk.inj hopen).2
  | read =>
    rw [openInFilesWith, readInFilesWith_eq] at hopen
    split at hopen
    · obtain ⟨rfl, -⟩ := Prod.mk.inj hopen
      exact ⟨rfl, .reading rfl⟩
    · cases (Prod.mk.inj hopen).2
  | write append =>
    rw [openInFilesWith, writeInFilesWith_eq] at hopen
    split at hopen
    · next hl =>
      obtain ⟨rfl, -⟩ := Prod.mk.inj hopen
      exact ⟨rfl, .refused (takeWriteLease_error hl).2⟩
    · next leased hl =>
      split at hopen
      · next d e' hd =>
        obtain ⟨rfl, -⟩ := Prod.mk.inj hopen
        exact ⟨rfl, .writing (isWriting_of_takeWriteLease hl) hd⟩
      · cases (Prod.mk.inj hopen).2

end Fails

/-! ### Opens in a repository -/

section Repositories

variable [DecidableEq κ] [ToString κ]

/-- An open of content of a claim in a backend. -/
def openIn (s : Store κ) (b : Backend) (c : ClaimId) :
    ContentOpen → Store κ × Except Failure HandleId
  | .map n readOnly => s.mapIn b c n readOnly
  | .read => s.readIn b c
  | .write append => s.writeIn b c append

/-- An open of content of a claim in a repository. -/
def openContent (s : Store κ) (r : RepositoryId) (c : ClaimId) (o : ContentOpen) :
    Store κ × Except Failure HandleId :=
  s.inRepository r c fun s b => s.openIn b c o

/-- An open of content of a claim in a repository, whatever fails on the way to a file. -/
def openContentWith (f : OpenFaults) (s : Store κ) (r : RepositoryId) (c : ClaimId)
    (o : ContentOpen) : Store κ × Except Failure HandleId :=
  s.inRepository r c fun s b =>
    match b with
    | .files D w g => s.openInFilesWith f D w g c o
    | .volatile .. | .database .. => s.openIn b c o

variable {f : OpenFaults} {s s' : Store κ} {r : RepositoryId} {c : ClaimId} {o : ContentOpen}

/-- The backend of a file repository opens files. -/
lemma openIn_files (s : Store κ) (D : Path) (w g : RegistryId) (c : ClaimId) (o : ContentOpen) :
    s.openIn (.files D w g) c o = s.openInFiles D w g c o := by
  cases o <;> rfl

/-- Content of a file repository is opened in its directory. -/
lemma openContentWith_files {D : Path} {w g : RegistryId} (hb : s.backend? r = some (.files D w g))
    (f : OpenFaults) (c : ClaimId) (o : ContentOpen) :
    s.openContentWith f r c o = s.openInFilesWith f D w g c o := by
  rw [openContentWith, inRepository, hb]

/-- **An open comes to the operation of its repository**, or it fails in a file repository and
changes nothing but the disk. -/
lemma openContentWith_cases (f : OpenFaults) (s : Store κ) (r : RepositoryId) (c : ClaimId)
    (o : ContentOpen) : s.openContentWith f r c o = s.openContent r c o ∨
      ∃ D w g d e, s.backend? r = some (.files D w g) ∧ Interrupts f s D w g c o d ∧
        s.openContentWith f r c o = ({ s with disk := d }, .error e) := by
  unfold openContentWith openContent inRepository
  cases hb : s.backend? r with
  | none => exact .inl rfl
  | some b =>
    cases b with
    | files D w g =>
      dsimp only
      rw [openIn_files]
      cases hopen : s.openInFilesWith f D w g c o with
      | mk s' answer =>
        cases answer with
        | ok h => exact .inl (openInFilesWith_ok hopen).symm
        | error e =>
          obtain ⟨heq, hdisk⟩ := openInFilesWith_error hopen
          exact .inr ⟨D, w, g, s'.disk, e, rfl, hdisk, Prod.ext heq rfl⟩
    | _ => exact .inl rfl

end Repositories

end Store

end ClaimStore
