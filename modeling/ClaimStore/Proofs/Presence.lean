import ClaimStore.Proofs.DiskRuns
import ClaimStore.Proofs.RowChanges

/-!
# Whether content is there

All ways to ask a file repository about content agree on whether it is there, for identifiers of
plain names: for content of `n` bytes it exists, is `n` bytes long, can be read to the end, mapped
up to its length and removed; otherwise it does not exist, has no length, is not found and cannot be
removed. They agree exactly where nothing is in the way: where no name on the way to the content is
too long and none stands for a file, and where the last one does not stand for a directory.

## Main definitions

* `Disk.find` — what is found under names, one below the other.
* `Disk.Clear` — nothing is in the way.
* `Store.Present`, `Store.Absent`, `Store.Agrees` — what the answers say.
* `Store.Housed` — the directories of file repositories are there.

## Main results

* `Disk.clear_iff` — where nothing is in the way, there is a file or nothing.
* `Store.agrees_iff` — the answers agree on a file and on nothing.
* `Store.agrees_runUnder_iff` — the answers agree exactly where nothing is in the way.
-/

set_option autoImplicit false

namespace ClaimStore

/-! ### Names below a directory -/

namespace Disk

variable {d : Disk} {k : DirectoryId} {ns : List String} {n : String}

/-- What is found under names, one below the other, from a directory on. -/
def find (d : Disk) (k : DirectoryId) : List String → Except Errno Item
  | [] => .ok (.directory k)
  | n :: ns =>
    match d.lookupName k n with
    | .error e => .error e
    | .ok none => .error .notFound
    | .ok (some (.directory j)) => d.find j ns
    | .ok (some (.file id)) => if ns = [] then .ok (.file id) else .error .notADirectory

/-- **Nothing is in the way** to a file under names, one below the other: no name that is looked up
is too long, none before the last one stands for a file, and the last one does not stand for a
directory. -/
def Clear (d : Disk) (k : DirectoryId) : List String → Prop
  | [] => False
  | n :: ns => n.utf8ByteSize ≤ maxNameBytes ∧
    match (d.entries k).lookup n with
    | none => True
    | some (.file _) => ns = []
    | some (.directory j) => d.Clear j ns

/-- **Where nothing is in the way**, there is a file or nothing. -/
lemma clear_iff : d.Clear k ns ↔
    (∃ id, d.find k ns = .ok (.file id)) ∨ d.find k ns = .error .notFound := by
  induction ns generalizing k with
  | nil => simp [Clear, find]
  | cons n ns ih =>
    rw [Clear, find, lookupName]
    by_cases hlong : maxNameBytes < n.utf8ByteSize
    · simp [if_pos hlong, Nat.not_le.2 hlong]
    · rw [if_neg hlong]
      simp only [Nat.le_of_not_lt hlong, true_and]
      rcases (d.entries k).lookup n with _ | ⟨j | id⟩
      · simp
      · exact ih
      · by_cases hns : ns = [] <;> simp [hns]

/-- The last name is looked up in the directory that the others lead to. -/
lemma find_concat (hplain : ∀ m ∈ ns, Plain m) (n : String) :
    d.find k (ns ++ [n]) = (d.walk k ns).bind fun j => (d.lookupName j n).bind fun
      | none => .error .notFound
      | some i => .ok i := by
  induction ns generalizing k with
  | nil =>
    show d.find k [n] = (d.lookupName k n).bind _
    rw [find]
    rcases d.lookupName k n with e | _ | ⟨j | id⟩ <;> rfl
  | cons m ns ih =>
    have hm := hplain m List.mem_cons_self
    rw [List.cons_append, find, walk, enter, if_neg hm.ne_dot, if_neg hm.ne_dots]
    rcases d.lookupName k m with e | _ | ⟨j | id⟩
    · rfl
    · rfl
    · exact ih fun m' hm' => hplain m' (List.mem_cons_of_mem _ hm')
    · simp only [List.append_eq_nil_iff, List.cons_ne_nil, and_false, if_false]
      rfl

/-- What is a file can be removed. -/
lemma unlink_of_file {p : Path} {id : FileId} (h : d.resolve p = .ok (.file id)) :
    ∃ d', d.unlink p = .ok d' := by
  unfold resolve at h
  unfold unlink
  split at h
  · cases h
  · cases h
  · split at h
    · cases h
    · cases h
    · cases h
    · split at h
      · cases h
      · next hslash => exact ⟨_, if_neg hslash⟩

/-- What is nothing cannot. -/
lemma unlink_of_notFound {p : Path} (h : d.resolve p = .error (.os .notFound)) :
    d.unlink p = .error (.os .notFound) := by
  unfold resolve at h
  unfold unlink
  split at h
  · exact congrArg _ (Except.error.inj h)
  · cases h
  · split at h
    · exact congrArg _ (Except.error.inj h)
    · rfl
    · cases h
    · split at h
      · cases h
      · cases h

end Disk

namespace FileBacking

variable {d : Disk} {p : Path} {id : FileId} {m : UInt64}

/-- A file can be mapped read-only up to its length. -/
lemma openReadOnly_of_le (h : d.resolve p = .ok (.file id)) (hm : m.toNat ≤ (d.bytes id).size) :
    ∃ b, openReadOnly d p m = .ok b := by
  unfold openReadOnly
  rw [h]
  dsimp only
  split
  · next hlt => exact absurd hlt (Nat.not_lt.2 hm)
  · unfold ofOpened
    split <;> exact ⟨_, rfl⟩

/-- It cannot be mapped beyond it. -/
lemma openReadOnly_of_lt (h : d.resolve p = .ok (.file id)) (hm : (d.bytes id).size < m.toNat) :
    openReadOnly d p m = .error (.content
      (.insufficientBackingStore p.toString m.toNat (d.bytes id).size)) := by
  unfold openReadOnly
  rw [h]
  exact if_pos hm

end FileBacking

namespace Nested

variable {x : String} {d : Disk} {D : Path} {k : DirectoryId}

/-- **Where the path of an identifier of plain names leads**: to its last name, below the directory
of the repository. -/
lemma locate_eq (hx : Nested x) (htakes : Disk.Takes (contentPath D x))
    (hw : d.walk Disk.root D.components = .ok k) {ns : List String} {n : String}
    (hn : names x = ns ++ [n]) :
    d.locate (contentPath D x) = match d.walk k ns with
      | .error e => .error (.os e)
      | .ok j => .ok (.name j n) := by
  have hplain := hx n (by simp [hn])
  have hcs : (contentPath D x).components = (D.components ++ ns) ++ [n] := by
    rw [hx.components_contentPath, hn, List.append_assoc]
  rw [Disk.locate_concat htakes hcs hplain.ne_dot hplain.ne_dots, Disk.walk_append, hw]
  rfl

/-- **What the path leads to** is what is found under the names. -/
lemma resolve_eq (hx : Nested x) (htakes : Disk.Takes (contentPath D x))
    (hw : d.walk Disk.root D.components = .ok k) :
    d.resolve (contentPath D x) = (d.find k (names x)).mapError .os := by
  obtain ⟨ns, n, hn⟩ : ∃ ns n, names x = ns ++ [n] :=
    ⟨_, _, (List.dropLast_append_getLast (names_ne_nil x)).symm⟩
  rw [Disk.resolve, hx.locate_eq htakes hw hn, hn,
    Disk.find_concat (fun m hm => hx m (by simp [hn, hm])) n]
  cases d.walk k ns with
  | error e => rfl
  | ok j =>
    show _ = ((d.lookupName j n).bind _).mapError _
    dsimp only
    rcases d.lookupName j n with e | _ | ⟨i | id⟩
    · rfl
    · rfl
    · rfl
    · rw [hx.endsInSlash_contentPath]
      rfl

/-- A path that the disk does not take leads nowhere, and not to nothing either. -/
lemma resolve_of_not_takes (hx : Nested x) (htakes : ¬ Disk.Takes (contentPath D x)) :
    ∃ e, d.resolve (contentPath D x) = .error e ∧ e ≠ .os .notFound := by
  unfold Disk.resolve Disk.locate
  rw [hx.isEmpty_contentPath, Path.utf8ByteSize_toString]
  cases hnul : (contentPath D x).hasNul with
  | true => exact ⟨.nulInPath, rfl, nofun⟩
  | false =>
    have hlong : Disk.maxPathBytes ≤ (contentPath D x).textSize :=
      Nat.le_of_not_lt fun hlt => htakes ⟨hnul, hlt⟩
    simp only [Bool.false_eq_true, if_false, if_pos hlong]
    exact ⟨_, rfl, by decide⟩

end Nested

/-- **Nothing is in the way to the content** of an identifier below a directory: the disk takes its
path, and nothing is in the way under its names. -/
def Disk.ClearPath (d : Disk) (D : Path) (x : String) : Prop :=
  Disk.Takes (contentPath D x) ∧
    ∃ k, d.walk Disk.root D.components = .ok k ∧ d.Clear k (names x)

/-- **Where nothing is in the way to the content**, there is a file or nothing. -/
lemma Nested.clearPath_iff {x : String} {d : Disk} {D : Path} {k : DirectoryId} (hx : Nested x)
    (hw : d.walk Disk.root D.components = .ok k) :
    (∃ id, d.resolve (contentPath D x) = .ok (.file id)) ∨
      d.resolve (contentPath D x) = .error (.os .notFound) ↔ d.ClearPath D x := by
  have hwalk : ∀ k', d.walk Disk.root D.components = .ok k' ↔ k = k' := fun k' => by
    rw [hw, Except.ok.injEq]
  simp only [Disk.ClearPath, hwalk, exists_eq_left']
  by_cases htakes : Disk.Takes (contentPath D x)
  · rw [Disk.clear_iff, hx.resolve_eq htakes hw]
    cases d.find k (names x) <;> simp [htakes, Except.mapError]
  · obtain ⟨e, he, hne⟩ := hx.resolve_of_not_takes (d := d) htakes
    simp [htakes, he, hne]

namespace Store

/-! ### Answers -/

section Answers

variable {κ : Type} [DecidableEq κ] [ToString κ] {s : Store κ} {r : RepositoryId} {c : ClaimId}
  {D : Path} {w g : RegistryId} {id : FileId}

/-- **All answers say that content of `n` bytes is there.** -/
structure Present (s : Store κ) (r : RepositoryId) (c : ClaimId) (n : Nat) : Prop where
  /-- It exists. -/
  exists_eq : s.holdsContent r c = .ok true
  /-- It has this length. -/
  size_eq : s.storedLength r c = .ok (some n)
  /-- A reader has this length and delivers that many bytes. -/
  reads : ∃ h k b, (s.readContent r c).2 = .ok h ∧ (s.readContent r c).1.reader? h = some k ∧
    (s.readContent r c).1.readerLength k = n ∧
      ((s.readContent r c).1.readToEnd h).2 = .ok b ∧ b.size = n
  /-- A read-only mapping can have this length at most. -/
  maps_iff : ∀ m : UInt64, (∃ h, (s.mapContent r c m true).2 = .ok h) ↔ m.toNat ≤ n
  /-- It can be removed. -/
  removes : (s.removeContent r c).2 = .ok true

/-- **All answers say that no content is there.** -/
structure Absent (s : Store κ) (r : RepositoryId) (c : ClaimId) : Prop where
  /-- It does not exist. -/
  exists_eq : s.holdsContent r c = .ok false
  /-- It has no length. -/
  size_eq : s.storedLength r c = .ok none
  /-- A reader does not find it. -/
  reads : (s.readContent r c).2 = .error (.content (.notFound (s.identifier c)))
  /-- A read-only mapping of no bytes does not find it either. -/
  maps_empty : (s.mapContent r c 0 true).2 = .error (.content (.notFound (s.identifier c)))
  /-- A read-only mapping of more bytes asks for too much. -/
  maps : ∀ m : UInt64, m ≠ 0 → (s.mapContent r c m true).2 =
    .error (.content (.insufficientBackingStore (s.identifier c) m.toNat 0))
  /-- There is nothing to remove. -/
  removes : (s.removeContent r c).2 = .ok false

/-- **The answers agree** on whether content is there. -/
def Agrees (s : Store κ) (r : RepositoryId) (c : ClaimId) : Prop :=
  (∃ n, s.Present r c n) ∨ s.Absent r c

section Files

variable (hb : s.backend? r = some (.files D w g)) (href : s.references c = 0)
include hb

omit [ToString κ] in
/-- A file repository asks for the length of the file at the path of the content. -/
lemma storedLength_files :
    s.storedLength r c = s.disk.storedLength (contentPath D (s.identifier c)) := by
  rw [storedLength, hb]
  rfl

omit [ToString κ] in
/-- It reads the file in its directory. -/
lemma readContent_files : s.readContent r c = s.readInFiles D c := by
  rw [readContent, inRepository, hb]
  rfl

/-- It maps the file in its directory. -/
lemma mapContent_files (m : UInt64) (readOnly : Bool) :
    s.mapContent r c m readOnly = s.mapInFiles D w g c m readOnly := by
  rw [mapContent, inRepository, hb]
  rfl

include href in
omit [ToString κ] in
/-- It unlinks the file in its directory, where the claim is not referenced. -/
lemma removeContent_files : s.removeContent r c = s.removeInFiles D (s.identifier c) := by
  rw [removeContent, inRepository, hb]
  exact removeIn_of_unreferenced href _

omit [ToString κ] in
/-- A file is read. -/
lemma readContent_file (h : s.disk.resolve (contentPath D (s.identifier c)) = .ok (.file id)) :
    s.readContent r c =
      succeed (s.addReader c (.file (.file id) (s.disk.length (.file id)))) := by
  rw [readContent_files hb]
  unfold readInFiles
  dsimp only
  rw [h]

include href in
/-- **A file is present** to all who ask. -/
lemma present_of_resolve (h : s.disk.resolve (contentPath D (s.identifier c)) = .ok (.file id)) :
    s.Present r c (s.disk.bytes id).size := by
  have hlen : s.storedLength r c = .ok (some (s.disk.bytes id).size) := by
    rw [storedLength_files hb, Disk.storedLength, h]
  refine ⟨by rw [holdsContent, hlen]; rfl, hlen, ?_, fun m => ?_, ?_⟩
  · have hsource : s.sourceBytes (.file (.file id) (s.disk.length (.file id))) =
        .ok (s.disk.bytes id) := rfl
    obtain ⟨hreader, hdelivers⟩ := readToEnd_addReader c hsource
    rw [readContent_file hb h]
    exact ⟨s.handles.length, _, _, rfl, hreader, rfl, hdelivers, rfl⟩
  · rw [mapContent_files hb]
    unfold mapInFiles
    simp only [if_true, Disk.storedLength, h]
    by_cases hm : m.toNat ≤ (s.disk.bytes id).size
    · obtain ⟨b, hopen⟩ := FileBacking.openReadOnly_of_le h hm
      simp only [hopen, hm, iff_true]
      exact ⟨_, rfl⟩
    · simp [FileBacking.openReadOnly_of_lt h (Nat.lt_of_not_le hm), hm]
  · obtain ⟨d', hd'⟩ := Disk.unlink_of_file h
    rw [removeContent_files hb href]
    unfold removeInFiles
    dsimp only
    rw [hd']

include href in
/-- **Nothing is absent** to all who ask. -/
lemma absent_of_resolve
    (h : s.disk.resolve (contentPath D (s.identifier c)) = .error (.os .notFound)) :
    s.Absent r c := by
  have hlen : s.storedLength r c = .ok none := by
    rw [storedLength_files hb, Disk.storedLength, h]
  have hmap : ∀ m : UInt64, (s.mapContent r c m true).2 =
      .error (missingContent (s.identifier c) m.toNat) := by
    intro m
    rw [mapContent_files hb]
    unfold mapInFiles
    simp only [if_true, Disk.storedLength, h]
  refine ⟨by rw [holdsContent, hlen]; rfl, hlen, ?_, hmap 0, fun m hm => ?_, ?_⟩
  · rw [readContent_files hb]
    unfold readInFiles
    dsimp only
    rw [h]
    rfl
  · rw [hmap, missingContent, if_neg]
    intro h0
    exact hm (UInt64.toNat_inj.1 h0)
  · rw [removeContent_files hb href]
    unfold removeInFiles
    dsimp only
    rw [Disk.unlink_of_notFound h]

include href in
/-- **The answers agree on a file and on nothing**, and on nothing else. -/
lemma agrees_iff : s.Agrees r c ↔
    (∃ id, s.disk.resolve (contentPath D (s.identifier c)) = .ok (.file id)) ∨
      s.disk.resolve (contentPath D (s.identifier c)) = .error (.os .notFound) := by
  constructor
  · rintro (⟨n, h⟩ | h)
    · have hlen := h.size_eq
      rw [storedLength_files hb, Disk.storedLength] at hlen
      split at hlen
      · next id hr => exact .inl ⟨id, hr⟩
      · cases hlen
      · cases hlen
      · cases hlen
    · have hread := h.reads
      rw [readContent_files hb] at hread
      unfold readInFiles at hread
      dsimp only at hread
      split at hread
      · next hr => exact .inr hr
      · cases hread
      · cases hread
  · rintro (⟨id, h⟩ | h)
    · exact .inl ⟨_, present_of_resolve hb href h⟩
    · exact .inr (absent_of_resolve hb href h)

end Files

end Answers

/-! ### Directories of repositories -/

section Houses

variable {κ : Type} {s : Store κ} {l : Ledger} {b : Backend} {D : Path} {w g : RegistryId}

/-- **The directories of file repositories are there**, also of those that were closed. -/
def Housed (s : Store κ) : Prop :=
  ∀ r D w g, s.backendOf? r = some (.files D w g) →
    ∃ k, s.disk.walk Disk.root D.components = .ok k

/-- **A file repository that is opened** has its directory made, and a registry of readers of its
own. -/
lemma openRepository_files {kind : RepositoryKind}
    (hb : (s.openRepository kind).1.backendOf? s.repositories.length = some (.files D w g)) :
    s.disk.makeDirectories D = ((s.openRepository kind).1.disk, .ok ()) ∧
      g = s.readerRegistries.length := by
  have none_last : ∀ {s' : Store κ}, s'.repositories = s.repositories →
      s'.backendOf? s.repositories.length = none := fun hr => by
    rw [backendOf?, hr, List.getElem?_eq_none (Nat.le_refl _), Option.map_none]
  have last : ∀ {s' : Store κ} {b : Backend}, s'.repositories = s.repositories ++ [⟨b, true⟩] →
      s'.backendOf? s.repositories.length = some b := fun hr => by
    rw [backendOf?, hr, List.getElem?_concat_length, Option.map_some]
  cases kind with
  | files D' =>
    unfold openRepository openFiles at hb ⊢
    dsimp only at hb ⊢
    split at hb
    · cases (none_last rfl).symm.trans hb
    · next d hmade =>
      obtain ⟨rfl, -, rfl⟩ := Backend.files.inj (Option.some.inj ((last rfl).symm.trans hb))
      exact ⟨hmade, rfl⟩
  | volatile maxBytes maxCount =>
    cases (last (b := .volatile s.tables.length s.writerRegistries.length) rfl).symm.trans hb
  | database p =>
    have opened := s.opensDatabase p
    unfold openRepository openRows at hb
    dsimp only at hb
    split at hb
    · next s' f h =>
      rw [h] at opened
      cases (none_last opened.repositories_eq).symm.trans hb
    · next s' d h =>
      rw [h] at opened
      have hr : (s'.addWriterRegistry.1.addRepository
          (.database d p s'.addWriterRegistry.2)).1.repositories = s.repositories ++
            [⟨.database d p s'.addWriterRegistry.2, true⟩] := by
        show s'.repositories ++ _ = _
        rw [opened.repositories_eq]
      cases (last hr).symm.trans hb

variable [DecidableEq κ] [ToString κ]

/-- **A file repository after an operation** was there, or it was opened by it. -/
lemma Tells.files_back (ht : Tells l s) (hs : s.Sound) (f : Faults) (op : Operation κ)
    {r : RepositoryId} (hb : (s.stepUnder f op).backendOf? r = some (.files D w g)) :
    s.backendOf? r = some (.files D w g) ∨ r = s.repositories.length ∧
      s.disk.makeDirectories D = ((s.stepUnder f op).disk, .ok ()) ∧
        g = s.readerRegistries.length := by
  rcases s.stepUnder_cases f op with hsame | alike
  · exact .inl (hsame ▸ hb)
  · have hstep := (backendOf?_congr alike.repositories_eq r).symm.trans hb
    rcases (ht.effect_step hs op).backendOf?_back hstep with hold | ⟨rfl, -, kind, rfl⟩
    · exact .inl hold
    · have hopen : s.stepUnder f (.openRepository kind) = (s.openRepository kind).1 := if_pos rfl
      rw [hopen] at hb ⊢
      exact .inr ⟨rfl, openRepository_files hb⟩

/-- **Operations keep the directories.** -/
lemma Housed.stepUnder (h : Housed s) (ht : Tells l s) (hs : s.Sound) (hd : s.disk.Sound)
    (f : Faults) (op : Operation κ) : Housed (s.stepUnder f op) := by
  intro r D w g hb
  rcases ht.files_back hs f op hb with hold | ⟨-, hmade, -⟩
  · obtain ⟨k, hk⟩ := h r D w g hold
    exact ⟨k, (extends_stepUnder hs hd f op).walk_eq hd hd.root_lt hk⟩
  · exact Disk.walk_makeDirectories hd hmade

/-- **They are there after every run.** -/
lemma housed_runUnder (name : String) (ops : List (Faults × Operation κ)) :
    Housed ((onDirectory name : Store κ).runUnder ops) := by
  refine (ledger_induction (P := fun (s : Store κ) l =>
    (s.Sound ∧ Tells l s) ∧ s.disk.Sound ∧ Housed s) ?_
    ⟨⟨sound_onDirectory name, tells_empty name⟩, Disk.sound_withDirectory name, ?_⟩ ops).2.2
  · rintro f s l op ⟨⟨hs, ht⟩, hd, h⟩
    exact ⟨⟨hs.stepUnder f op, ht.stepUnder hs f op⟩, (extends_stepUnder hs hd f op).sound hd,
      h.stepUnder ht hs hd f op⟩
  · intro r D w g hb
    cases hb

end Houses

/-! ### All states -/

section Runs

variable {κ : Type} [DecidableEq κ] [ToString κ]

/-- **Whether content is there in every reachable state.** After every run, whatever fails on the
way, and for every identifier of plain names whose claim is not referenced: all answers of a file
repository about its content agree exactly where nothing is in the way to it. -/
theorem agrees_runUnder_iff (name : String) (ops : List (Faults × Operation κ)) {r : RepositoryId}
    {c : ClaimId} {D : Path} {w g : RegistryId}
    (hb : ((onDirectory name : Store κ).runUnder ops).backend? r = some (.files D w g))
    (hx : Nested (((onDirectory name : Store κ).runUnder ops).identifier c))
    (href : ((onDirectory name : Store κ).runUnder ops).references c = 0) :
    ((onDirectory name : Store κ).runUnder ops).Agrees r c ↔
      ((onDirectory name : Store κ).runUnder ops).disk.ClearPath D
        (((onDirectory name : Store κ).runUnder ops).identifier c) := by
  obtain ⟨k, hw⟩ := housed_runUnder name ops r D w g (backendOf?_of_backend? hb)
  rw [agrees_iff hb href, hx.clearPath_iff hw]

end Runs

/-- A run that makes a directory for a nested identifier: content is written under `a/b`. -/
def nestedRun : List (Faults × Operation Nat) :=
  [(.quiet, .openRepository (.files (.ofString "d"))), (.quiet, .addClaim "a/b" (some 0)),
    (.quiet, .addClaim "a" (some 0)), (.quiet, .writeClaim 0 false),
    (.quiet, .writeData 0 ⟨.ofList [1, 2, 3], Payload.size_three_lt⟩), (.quiet, .drop 0)]

/-- After it the answers about `a/b` agree, since nothing is in the way. -/
theorem agrees_nestedRun :
    ((onDirectory "d" : Store).runUnder nestedRun).backend? 0 = some (.files (.ofString "d") 0 0) ∧
      Nested (((onDirectory "d" : Store).runUnder nestedRun).identifier 0) ∧
        ((onDirectory "d" : Store).runUnder nestedRun).references 0 = 0 ∧
          (((onDirectory "d" : Store).runUnder nestedRun).Agrees 0 0 ↔
            ((onDirectory "d" : Store).runUnder nestedRun).disk.ClearPath (.ofString "d")
              (((onDirectory "d" : Store).runUnder nestedRun).identifier 0)) :=
  ⟨by decide +kernel, by decide +kernel, by decide +kernel,
    agrees_runUnder_iff "d" nestedRun (w := 0) (g := 0) (by decide +kernel) (by decide +kernel)
      (by decide +kernel)⟩

/-- **The answers do not always agree**: after that run the content of `a` does not exist, and a
reader opens it all the same. -/
theorem not_agrees_directory : ¬ ∀ (ops : List (Faults × Operation Nat)) r c D w g,
    ((onDirectory "d" : Store).runUnder ops).backend? r = some (.files D w g) →
      Nested (((onDirectory "d" : Store).runUnder ops).identifier c) →
        ((onDirectory "d" : Store).runUnder ops).references c = 0 →
          ((onDirectory "d" : Store).runUnder ops).Agrees r c := by
  intro h
  rcases h nestedRun 0 1 (.ofString "d") 0 0 (by decide +kernel) (by decide +kernel)
    (by decide +kernel) with ⟨n, h⟩ | h
  · have hexists := h.exists_eq
    revert hexists
    decide +kernel
  · have hreads := h.reads
    revert hreads
    decide +kernel

end Store

end ClaimStore
