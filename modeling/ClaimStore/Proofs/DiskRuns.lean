import ClaimStore.Proofs.DiskOpens

/-!
# What runs change on the disk

What any operation may change on the disk is told from the operation: content that is opened for
writing changes its path, content that is removed its name, an operation through a handle the file
that is open, and nothing else changes anything. This holds whatever fails on the way, and what such
changes keep is kept by every run.

## Main definitions

* `Store.writtenPath?`, `Store.removedPath?` — the path of the file that an operation opens for
  writing, or removes.
* `Operation.changed?` — the handle whose file an operation may change.
* `Store.Alters` — the changes of the disk that an operation may make.
* `Store.DiskStep` — a step that makes such changes, and opens files at the end of the path only.

## Main results

* `Store.diskStep_stepUnder` — what an operation changes on the disk.
* `Store.extends_stepUnder`, `Store.disk_sound_runUnder` — the disk is extended, and stays sound.
* `Store.disk_induction` — what small changes keep, every run keeps.
-/

set_option autoImplicit false

namespace ClaimStore

open Disk (Changes Making Opening)

/-- The path of the file that keeps the content of an identifier, in a file repository. -/
def Backend.filePath? (b : Backend) (x : String) : Option Path :=
  match b with
  | .files directory _ _ => some (contentPath directory x)
  | .volatile .. | .database .. => none

/-- The handle whose file an operation may change. -/
def Operation.changed? {κ : Type} : Operation κ → Option HandleId
  | .writeAt h _ _ | .fillView h _ | .resize h _ | .flush h | .unmap h | .writeRaw h _
  | .writeData h _ | .close h | .copy _ h | .drop h => some h
  | _ => none

namespace Store

variable {κ : Type} {s s' : Store κ} {op : Operation κ} {h : HandleId} {c : ClaimId}

section Steps

/-- The path of the file that an operation opens for writing: of the content of a claim in a file
repository, or of a database. -/
def writtenPath? (s : Store κ) : Operation κ → Option Path
  | .mapContent r c _ false | .writeContent r c _ =>
    (s.backend? r).bind fun b => b.filePath? (s.identifier c)
  | .mapClaim c _ false | .writeClaim c _ =>
    (s.repositoryOf c).bind fun p => p.2.filePath? (s.identifier c)
  | .openRepository (.database p) => some p
  | _ => none

/-- The path of the file that an operation removes. -/
def removedPath? (s : Store κ) : Operation κ → Option Path
  | .removeContent r c => (s.backend? r).bind fun b => b.filePath? (s.identifier c)
  | _ => none

/-- **The changes of the disk that an operation may make.** -/
inductive Alters (s : Store κ) (op : Operation κ) (d : Disk) : Disk.Change → Prop
  /-- A directory of a repository is made. -/
  | making {D : Path} {ch : Disk.Change} (op_eq : op = .openRepository (.files D))
      (making : Making D.components d ch) : Alters s op d ch
  /-- A file is opened for writing. -/
  | opening {p : Path} {ch : Disk.Change} (path_eq : s.writtenPath? op = some p)
      (opening : Opening p d ch) : Alters s op d ch
  /-- A file loses its name. -/
  | removing {p : Path} {j : DirectoryId} {n : String} (path_eq : s.removedPath? op = some p)
      (locate_eq : s.disk.locate p = .ok (.name j n)) : Alters s op d (.removeName j n)
  /-- A file is changed that a handle has open. -/
  | through {h : HandleId} {id : FileId} {f : FileData → FileData}
      (changed_eq : op.changed? = some h) (opens : s.OpensFile h id) : Alters s op d (.modify id f)

/-- **A file is made** only where the path leads that the operation opens for writing. -/
lemma Alters.locate_eq {d : Disk} {j : DirectoryId} {n : String}
    (h : s.Alters op d (.addFile j n)) :
    ∃ p, s.writtenPath? op = some p ∧ d.locate p = .ok (.name j n) := by
  cases h with
  | making _ h => exact absurd h Disk.not_making_addFile
  | @opening p _ hp h =>
    cases h with
    | above h => exact absurd h Disk.not_making_addFile
    | make hl => exact ⟨p, hp, hl⟩

/-- **A step that makes such changes**, and opens no file but that of the path. -/
structure DiskStep (s : Store κ) (op : Operation κ) (s' : Store κ) : Prop where
  /-- The disk changes as it may. -/
  changes : Changes (s.Alters op) s.disk s'.disk
  /-- A handle with an open file is new and has that of the path, or had it before. -/
  opens : ∀ i id, s'.OpensFile i id → s.OpensFile i id ∨
    (i = s.handles.length ∧ ∃ p, s.writtenPath? op = some p ∧ s'.disk.Ends p id)

namespace DiskStep

/-- A step that changes the file of no handle: none has the next number. -/
lemma still (t : Touches s.handles.length s s') : DiskStep s op s' where
  changes := t.changes.mono fun _ _ ⟨_, _, _, _, hx, _⟩ =>
    absurd (lt_of_handle? hx) (Nat.lt_irrefl _)
  opens i id ho := .inl (t.opens i id ho)

/-- A step through a handle. -/
lemma of_touches (t : Touches h s s') (hop : op.changed? = some h) : DiskStep s op s' where
  changes := t.changes.mono fun _ _ ⟨_, _, hc, ho⟩ => hc ▸ .through hop ho
  opens i id ho := .inl (t.opens i id ho)

/-- A step that opens the file of a path. -/
lemma of_opensAt {p : Path} (o : OpensAt p s s') (hp : s.writtenPath? op = some p) :
    DiskStep s op s' where
  changes := o.changes.mono fun _ _ hc => .opening hp hc
  opens i id ho := (o.opens i id ho).imp_right fun ⟨hi, he⟩ => ⟨hi, p, hp, he⟩

/-- A step that leaves the handles alone. -/
lemma of_handles_eq (hc : Changes (s.Alters op) s.disk s'.disk) (hh : s'.handles = s.handles) :
    DiskStep s op s' where
  changes := hc
  opens i id := fun ⟨x, hx, ho⟩ => .inl ⟨x, by rw [← hx, handle?, handle?, hh], ho⟩

/-- Nothing at all is a step that makes such changes. -/
lemma refl (s : Store κ) : DiskStep s op s := of_handles_eq .refl rfl

end DiskStep

variable {b : Backend} {r : RepositoryId}

/-! ### Repositories -/

/-- What holds for the backend of an open repository holds for the repository. -/
lemma diskStep_inRepository {α : Type} {act : Store κ → Backend → Store κ × Except Failure α}
    (h : ∀ b, s.backend? r = some b → DiskStep s op (act s b).1) :
    DiskStep s op (s.inRepository r c act).1 := by
  unfold Store.inRepository
  split
  · next b hb => exact h b hb
  · exact .refl s

/-- What holds for the backend of the repository of a claim holds for an operation through the
claim. -/
lemma diskStep_routed {α : Type} {act : Store κ → Backend → Store κ × Except Failure α}
    (h : ∀ r b, s.repositoryOf c = some (r, b) → DiskStep s op (act s b).1) :
    DiskStep s op (s.routed c act).1 := by
  unfold Store.routed
  split
  · next r b hb => exact h r b hb
  · exact .refl s

/-- What is refused changes nothing. -/
lemma DiskStep.of_cases {α : Type} {x y : Store κ × Except Failure α}
    (hxy : x = y ∨ ∃ e, x = (s, .error e)) (hy : DiskStep s op y.1) : DiskStep s op x.1 := by
  rcases hxy with rfl | ⟨e, rfl⟩
  · exact hy
  · exact .refl s

/-- What a repository changes on the disk when it is opened: a file repository makes its directory,
a database its file, and a volatile one changes nothing. -/
lemma diskStep_openRepository (hd : s.disk.Sound) (kind : RepositoryKind) :
    DiskStep s (.openRepository kind) (s.openRepository kind).1 := by
  cases kind with
  | files D =>
    have hmade := (Disk.changes_makeWithParents (D.depth + 1) hd D).mono
      (Q := s.Alters (.openRepository (.files D))) fun _ _ hc => .making rfl hc
    unfold openRepository openFiles
    dsimp only
    split <;> next h =>
      rw [Disk.makeDirectories] at h
      rw [h] at hmade
      exact .of_handles_eq hmade rfl
  | volatile maxBytes maxCount => exact .of_handles_eq .refl rfl
  | database p =>
    obtain ⟨hc, hh⟩ := changes_openDatabase hd p
    have hopen := hc.mono (Q := s.Alters (.openRepository (.database p)))
      fun _ _ hc => .opening rfl hc
    unfold openRepository openRows
    dsimp only
    split <;> next h => rw [h] at hopen hh; exact .of_handles_eq hopen hh

variable [DecidableEq κ]

/-! ### Content -/

/-- What a mapping changes on the disk when it is opened: nothing, unless it is writable and of a
file. -/
lemma diskStep_mapIn [ToString κ] (hd : s.disk.Sound) (hb : s.Knows b) (n : UInt64)
    (readOnly : Bool)
    (hp : ∀ p, readOnly = false → b.filePath? (s.identifier c) = some p →
      s.writtenPath? op = some p) : DiskStep s op (s.mapIn b c n readOnly).1 := by
  have hm := makes_mapIn hb c n readOnly
  cases b with
  | files D w g =>
    cases readOnly with
    | true =>
      show DiskStep s op (s.mapInFiles D w g c n true).1
      exact .still (touches_mapInFiles n)
    | false =>
      show DiskStep s op (s.mapInFiles D w g c n false).1
      exact .of_opensAt (opensAt_mapInFiles hd n) (hp _ rfl rfl)
  | volatile t w =>
    refine .still (touches_makes hm ?_ (disk_mapInTable s n readOnly))
    rintro x ⟨k, hk, rfl⟩
    cases hk with
    | entry => exact openFile?_entry _ _ _
  | database d p w =>
    refine .still (touches_makes hm ?_ (disk_mapInRows s d n readOnly))
    rintro x ⟨k, hk, rfl⟩
    cases hk with
    | row => exact openFile?_buffer _ _ _

/-- A reader changes nothing on the disk when it is opened. -/
lemma diskStep_readIn (hb : s.Knows b) : DiskStep s op (s.readIn b c).1 := by
  have hm := makes_readIn hb c
  have hx : ∀ x, NewReader b c s (s.readIn b c).1 x → x.openFile? = none := by
    rintro x ⟨source, -, rfl⟩
    rfl
  cases b with
  | files D w g =>
    show DiskStep s op (s.readInFiles D c).1
    exact .still touches_readInFiles
  | volatile t w => exact .still (touches_makes hm hx (disk_readInTable s))
  | database d p w => exact .still (touches_makes hm hx (disk_readInRows s d))

/-- What a writer changes on the disk when it is opened: nothing, unless it is to a file. -/
lemma diskStep_writeIn (hd : s.disk.Sound) (hb : s.Knows b) (append : Bool)
    (hp : ∀ p, b.filePath? (s.identifier c) = some p → s.writtenPath? op = some p) :
    DiskStep s op (s.writeIn b c append).1 := by
  have hm := makes_writeIn hb c append
  cases b with
  | files D w g =>
    show DiskStep s op (s.writeInFiles D w g c append).1
    exact .of_opensAt (opensAt_writeInFiles hd append) (hp _ rfl)
  | volatile t w =>
    refine .still (touches_makes hm ?_ (disk_writeInTable s append))
    rintro x ⟨k, hk, rfl⟩
    cases hk with
    | entry => rfl
  | database d p w =>
    refine .still (touches_makes hm ?_ (disk_writeInRows s d append))
    rintro x ⟨k, hk, rfl⟩
    cases hk with
    | row => rfl

/-- What a removal changes on the disk: the name of the file, if there is one. -/
lemma diskStep_removeIn
    (hp : ∀ p, b.filePath? (s.identifier c) = some p → s.removedPath? op = some p) :
    DiskStep s op (s.removeIn b c).1 := by
  rcases s.removeIn_cases b c with ⟨f, heq⟩ | ⟨-, heq⟩ <;> rw [heq]
  · exact .refl s
  · cases b with
    | files D w g =>
      obtain ⟨hc, hh⟩ := changes_removeInFiles (s := s) (D := D) (s.identifier c)
      have hstep : DiskStep s op (s.removeInFiles D (s.identifier c)).1 := by
        refine .of_handles_eq (hc.mono fun d ch => ?_) hh
        rintro ⟨j, n, hl, rfl⟩
        exact .removing (hp _ rfl) hl
      exact hstep
    | volatile t w => exact .still (touches_removeInTable s _)
    | database d p w => exact .of_handles_eq .refl rfl

/-! ### Operations -/

variable [ToString κ]

/-- What an operation on repositories or claims changes on the disk. -/
lemma diskStep_setup (hd : s.disk.Sound) (f : Faults) (hop : op.group = .setup) :
    DiskStep s op (s.performUnder f op) := by
  cases op with
  | openRepository kind => exact diskStep_openRepository hd kind
  | closeRepository r => exact .of_handles_eq .refl rfl
  | addClaim x r => exact .of_handles_eq .refl rfl
  | acquire c => exact .still (touches_added rfl rfl rfl)
  | removeContent r c =>
    refine .of_cases (s.removeContentUnder_cases f r c)
      (diskStep_inRepository fun b hb => diskStep_removeIn fun p hp => ?_)
    rw [removedPath?, hb]
    exact hp
  | _ => cases hop

/-- What an open of content changes on the disk: its path, if it is one for writing. -/
lemma diskStep_opening (hs : s.Sound) (hd : s.disk.Sound) (f : Faults) (hop : op.group = .opening) :
    DiskStep s op (s.performUnder f op) := by
  cases op with
  | mapContent r c n readOnly =>
    refine .of_cases (s.mapContentUnder_cases f r c n readOnly)
      (diskStep_inRepository fun b hb => ?_)
    refine diskStep_mapIn hd (hs.knows hb) n readOnly fun p hro hp => ?_
    subst hro
    rw [writtenPath?, hb]
    exact hp
  | readContent r c =>
    exact .of_cases (s.readContentUnder_cases f r c)
      (diskStep_inRepository fun b hb => diskStep_readIn (hs.knows hb))
  | writeContent r c append =>
    refine .of_cases (s.writeContentUnder_cases f r c append)
      (diskStep_inRepository fun b hb => diskStep_writeIn hd (hs.knows hb) append fun p hp => ?_)
    rw [writtenPath?, hb]
    exact hp
  | mapClaim c n readOnly =>
    refine .of_cases (s.mapClaimUnder_cases f c n readOnly) (diskStep_routed fun r b hb => ?_)
    refine diskStep_mapIn hd (hs.knows (backend?_of_repositoryOf hb)) n readOnly fun p hro hp => ?_
    subst hro
    rw [writtenPath?, hb]
    exact hp
  | readClaim c =>
    exact .of_cases (s.readClaimUnder_cases f c)
      (diskStep_routed fun r b hb => diskStep_readIn (hs.knows (backend?_of_repositoryOf hb)))
  | writeClaim c append =>
    refine .of_cases (s.writeClaimUnder_cases f c append) (diskStep_routed fun r b hb =>
      diskStep_writeIn hd (hs.knows (backend?_of_repositoryOf hb)) append fun p hp => ?_)
    rw [writtenPath?, hb]
    exact hp
  | _ => cases hop

/-- What an operation on a mapping changes on the disk: the file that the mapping has open. -/
lemma diskStep_mapping (f : Faults) (hop : op.group = .mapping) :
    DiskStep s op (s.performUnder f op) := by
  cases op with
  | writeAt map offset b => exact .of_touches (touches_writeAt s map offset b) rfl
  | fillView map byte => exact .of_touches (touches_fillView s map byte) rfl
  | resize map n => exact .of_touches (touches_resizeUnder f s map n) rfl
  | flush map => exact .of_touches (touches_flushUnder f s map) rfl
  | registerHook map name failure probe =>
    exact .still (touches_registerHook s map name failure probe)
  | _ => cases hop

/-- What an operation on a stream changes on the disk: the file that a writer has open. -/
lemma diskStep_stream (f : Faults) (hop : op.group = .stream) :
    DiskStep s op (s.performUnder f op) := by
  cases op with
  | readRaw reader n => exact .still (touches_deliver s reader _)
  | readData reader buffer maxLen => exact .still (touches_readData s reader buffer maxLen)
  | readToEnd reader => exact .still (touches_readToEnd s reader)
  | seek reader offset => exact .still (touches_seek s reader offset)
  | writeRaw writer b => exact .of_touches (touches_accept s writer _) rfl
  | writeData writer b => exact .of_touches (touches_writeData s writer b.bytes) rfl
  | copy reader writer =>
    show DiskStep s _ (s.perform (.copy reader writer))
    rcases s.perform_copy reader writer with heq | ⟨s', r, hcopy, heq⟩ <;> rw [heq]
    · exact .refl s
    · exact .of_touches (touches_copy hcopy) rfl
  | _ => cases hop

/-- What the end of a handle changes on the disk: the file that it had open. -/
lemma diskStep_ending (f : Faults) (hop : op.group = .ending) :
    DiskStep s op (s.performUnder f op) := by
  cases op with
  | unmap map => exact .of_touches (touches_unmapUnder f s map) rfl
  | close writer => exact .of_touches (touches_closeUnder f s writer) rfl
  | drop h => exact .of_touches (touches_dropUnder f s h) rfl
  | _ => cases hop

/-- Calls on tables change nothing on the disk. -/
lemma diskStep_calls (s : Store κ) : TableCalls s (DiskStep s) where
  none _ := .refl s
  addTable _ _ := .of_handles_eq .refl rfl
  insertEntry _ _ _ := by
    unfold insertEntry
    split
    · exact .refl s
    · exact .still (touches_added rfl rfl rfl)
  borrowEntry _ _ _ := by
    unfold borrowEntry
    split
    · exact .refl s
    · exact .still (touches_added rfl rfl rfl)
  cloneBorrow _ _ _ _ := .still (touches_added rfl rfl rfl)
  removeEntry _ _ _ := .of_handles_eq .refl rfl
  lockValue _ _ _ _ _ := by
    unfold lockValue
    split
    · exact .refl s
    · exact .still (touches_added rfl rfl rfl)
  storeValue _ _ _ _ _ _ := by
    unfold storeValue
    split
    · exact .of_handles_eq .refl rfl
    · exact .refl s
  resizeValue _ _ _ _ _ _ _ := by
    unfold resizeValue
    split
    · exact .refl s
    · exact .of_handles_eq .refl rfl
  appendValue _ _ _ _ _ _ _ := by
    unfold appendValue
    split
    · exact .refl s
    · exact .of_handles_eq .refl rfl
  mapKey _ key n readOnly _ := .still (touches_mapKey s key n readOnly)
  mapBorrow _ n readOnly _ e _ := .still (touches_mapEntry s e n readOnly)

/-- **What an operation changes on the disk**, whatever fails on the way.

**Proof sketch.** The operations are taken group by group: an open for writing changes its path, a
removal its name, an operation through a handle the file that is open there. -/
lemma diskStep_stepUnder (hs : s.Sound) (hd : s.disk.Sound) (f : Faults) (op : Operation κ) :
    DiskStep s op (s.stepUnder f op) := by
  unfold stepUnder
  split
  swap
  · exact .refl s
  next happ =>
  cases hop : op.group with
  | setup => exact diskStep_setup hd f hop
  | opening => exact diskStep_opening hs hd f hop
  | mapping => exact diskStep_mapping f hop
  | stream => exact diskStep_stream f hop
  | ending => exact diskStep_ending f hop
  | table =>
    rw [performUnder_table f s hop]
    exact (diskStep_calls s).perform hop happ

/-! ### Runs -/

/-- **An operation extends the disk.** -/
lemma extends_stepUnder (hs : s.Sound) (hd : s.disk.Sound) (f : Faults) (op : Operation κ) :
    s.disk.Extends (s.stepUnder f op).disk :=
  (diskStep_stepUnder hs hd f op).changes.extends

/-- **What small changes keep, every run keeps.** -/
lemma disk_induction {P : Disk → Prop} (hafter : ∀ d c, d.Sound → d.Admits c → P d → P (d.after c))
    (hs : s.Sound) (hd : s.disk.Sound) (hP : P s.disk) (ops : List (Faults × Operation κ)) :
    (s.runUnder ops).disk.Sound ∧ P (s.runUnder ops).disk := by
  refine (runUnder_induction (P := fun s => s.Sound ∧ s.disk.Sound ∧ P s.disk) ?_
    ⟨hs, hd, hP⟩ ops).2
  rintro f s op ⟨hs, hd, hP⟩
  refine ⟨hs.stepUnder f op, (extends_stepUnder hs hd f op).sound hd, ?_⟩
  have hkept : ∀ {d}, Changes (s.Alters op) s.disk d → P d := by
    intro d hc
    induction hc with
    | refl => exact hP
    | step before admits _ ih => exact hafter _ _ (before.extends.sound hd) admits ih
  exact hkept (diskStep_stepUnder hs hd f op).changes

/-- **The disk of every run is sound.** -/
lemma disk_sound_runUnder (name : String) (ops : List (Faults × Operation κ)) :
    ((onDirectory name : Store κ).runUnder ops).disk.Sound :=
  (disk_induction (P := fun _ => True) (fun _ _ _ _ h => h) (sound_onDirectory name)
    (Disk.sound_withDirectory name) trivial ops).1

end Steps

end Store

end ClaimStore
