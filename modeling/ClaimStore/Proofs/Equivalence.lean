import ClaimStore.Proofs.EntryKeeper
import ClaimStore.Proofs.FileKeeper
import ClaimStore.Proofs.KeeperRuns
import ClaimStore.Proofs.RowKeeper

/-!
# Backends answer alike

Callers that use one handle at a time cannot tell by the answers which backend keeps their content.
Each backend does what a shelf does: a volatile one until a limit of its table is hit, and one of
files as long as the disk takes the identifiers and the lengths, no writable mapping is shorter than
what is stored, and no raw read or write is of more bytes than a file moves at once.

## Main definitions

* `Access.lengths` — the lengths that an access gives to files.
* `Access.transfers` — the numbers of bytes that an access asks to move at once.
* `Store.showsAll` — a writable mapping that is no shorter than what is stored.

## Main results

* `Store.mirrors_files`, `Store.mirrors_rows`, `Store.mirrors_volatile` — an empty repository is an
  empty shelf.
* `Store.replies_alike` — the three backends have the same replies.
* `Store.not_replies_alike` — a plain identifier may be too long for the name of a file.
-/

set_option autoImplicit false

namespace ClaimStore

/-! ### What files can do -/

/-- The length that a use of a mapping asks for. -/
def MappingUse.length? : MappingUse → Option UInt64
  | .resize n => some n
  | _ => none

/-- The lengths that an access gives to a file, if content is kept in files. -/
def Access.lengths : Access → List UInt64
  | .map _ n readOnly uses => (if readOnly then [] else [n]) ++ uses.filterMap MappingUse.length?
  | _ => []

/-- The number of bytes that a use of a reader asks for at once. -/
def ReaderUse.transfer? : ReaderUse → Option Nat
  | .readRaw n => some n
  | _ => none

/-- The number of bytes that a use of a writer offers at once. -/
def WriterUse.transfer? : WriterUse → Option Nat
  | .writeRaw p => some p.bytes.size
  | _ => none

/-- The numbers of bytes that an access asks to be moved at once: those of its raw reads and
writes. -/
def Access.transfers : Access → List Nat
  | .read _ uses => uses.filterMap ReaderUse.transfer?
  | .write _ _ uses => uses.filterMap WriterUse.transfer?
  | _ => []

namespace Store

open Keeper

variable {κ : Type} [DecidableEq κ] [ToString κ] {directory p : Path} {maxBytes maxCount : UInt64}
  {s files rows volatile : Store κ} {d d' d'' : Disk} {r : RepositoryId}

/-- A writable mapping that an access opens is no shorter than what is stored. -/
def showsAll (r : RepositoryId) (s : Store κ) : Access → Bool
  | .map c n readOnly _ =>
    match s.storedLength r c with
    | .ok (some len) => readOnly || len ≤ n.toNat
    | _ => true
  | _ => true

/-! ### Empty repositories -/

/-- A store without claims and handles serves callers as an empty shelf does. -/
lemma serves_empty {b : Backend} (K : Keeper κ b) (hs : s.Sound) (hb : s.backend? r = some b)
    (hclaims : s.claims = []) (hhandles : s.handles = []) (hlog : s.log = [])
    (hk : K.Keeps s fun _ => none) : K.Mirrors r s .empty where
  sound := hs
  backend_eq := hb
  own _ hy := absurd hy List.not_mem_nil
  references _ ho := absurd ho List.not_mem_nil
  log_eq := hlog
  claims_eq := hclaims
  handles_eq := hhandles
  keeps := hk

/-- **An empty directory is an empty shelf.** -/
lemma mirrors_files (hd : d.Sound)
    (hopen : (onDisk d).openRepository (.files directory) = (s, .ok r))
    (hempty : ∀ i, s.disk.walk Disk.root directory.components = .ok i → s.disk.entries i = []) :
    ∃ writers readers i, (fileKeeper directory writers readers i).Mirrors r s .empty := by
  have hsound : ((onDisk d : Store κ).openRepository (.files directory)).1.Sound :=
    sound_openRepository d (.files directory)
  have hext := (Disk.extends_makeWithParents (directory.depth + 1) hd directory).1
  rw [hopen] at hsound
  rw [openRepository, openFiles] at hopen
  split at hopen
  · cases (Prod.mk.inj hopen).2
  · next d' hmake =>
    change d.makeDirectories directory = (d', .ok ()) at hmake
    obtain ⟨i, hi⟩ := Disk.walk_makeDirectories hd hmake
    rw [Disk.makeDirectories] at hmake
    rw [hmake] at hext
    obtain ⟨rfl, hr⟩ := Prod.mk.inj hopen
    obtain rfl := Except.ok.inj hr
    have hnone := hempty i hi
    refine ⟨0, 0, i, serves_empty _ hsound rfl rfl rfl rfl ?_⟩
    refine ⟨hext.sound hd, hi, fun x _ _ => ?_, fun x v _ hv => by cases hv⟩
    rw [hnone]
    rfl

/-- **A database without rows is an empty shelf.** -/
lemma mirrors_rows (hopen : (onDisk d).openRepository (.database p) = (s, .ok r)) :
    ∃ id writers, (rowKeeper id p writers).Mirrors r s .empty := by
  have hsound : ((onDisk d : Store κ).openRepository (.database p)).1.Sound :=
    sound_openRepository d (.database p)
  rw [hopen] at hsound
  rw [openRepository, openRows] at hopen
  split at hopen
  · cases (Prod.mk.inj hopen).2
  · next s' id hmade =>
    obtain ⟨rfl, hr⟩ := Prod.mk.inj hopen
    -- only an empty file becomes a database, since none is known
    have hnew : id = 0 ∧
        ∃ file d', s' = { onDisk d' with databases := [{ file, rows := [] }] } := by
      rw [openDatabase] at hmade
      split at hmade
      · cases (Prod.mk.inj hmade).2
      · split at hmade
        · cases (Prod.mk.inj hmade).2
        · next file d₁ _ =>
          dsimp only at hmade
          split at hmade
          · cases (Prod.mk.inj hmade).2
          · split at hmade
            · obtain ⟨rfl, hid⟩ := Prod.mk.inj hmade
              obtain rfl := Except.ok.inj hid
              exact ⟨rfl, file, _, rfl⟩
            · split at hmade
              · cases (Prod.mk.inj hmade).2
              · next hknown => cases hknown
              · cases (Prod.mk.inj hmade).2
    obtain ⟨rfl, file, d', rfl⟩ := hnew
    obtain rfl := Except.ok.inj hr
    refine ⟨0, 0, serves_empty _ hsound rfl rfl rfl rfl ⟨Nat.zero_lt_one, fun x => rfl⟩⟩

/-- **A new table is an empty shelf.** -/
lemma mirrors_volatile
    (hopen : (onDisk d).openRepository (.volatile maxBytes maxCount) = (s, .ok r)) :
    ∃ t writers, (entryKeeper t writers).Mirrors r s .empty := by
  have hsound : ((onDisk d : Store κ).openRepository (.volatile maxBytes maxCount)).1.Sound :=
    sound_openRepository d (.volatile maxBytes maxCount)
  rw [hopen] at hsound
  obtain ⟨rfl, hr⟩ := Prod.mk.inj hopen
  obtain rfl := Except.ok.inj hr
  exact ⟨0, 0, serves_empty _ hsound rfl rfl rfl rfl
    ⟨Nat.zero_lt_one, EntryTable.regular_new maxBytes maxCount, fun x => rfl⟩⟩

/-! ### Steps -/

/-- An access that files can do. -/
structure Fits (directory : Path) (r : RepositoryId) (s : Store κ) (a : Access) : Prop where
  /-- The disk takes the identifier. -/
  nameable : ∀ x, a = .addClaim x → Nameable directory x
  /-- Files can have the lengths. -/
  length_le : ∀ n ∈ a.lengths, n.toNat ≤ Disk.maxFileLength
  /-- Files move as many bytes at once. -/
  transfer_le : ∀ n ∈ a.transfers, n ≤ Limits.maxFileTransfer
  /-- All that is stored is shown. -/
  showsAll_eq : s.showsAll r a = true

/-- What files can do is admitted by a file repository. -/
lemma Fits.admits {writers readers : RegistryId} {i : DirectoryId} {σ : Shelf} {a : Access}
    (ha : Fits directory r s a) (hm : (fileKeeper directory writers readers i).Mirrors r s σ) :
    (fileKeeper directory writers readers i : Keeper κ _).AdmitsAccess σ a := by
  obtain ⟨hname, hlength, htransfer, hall⟩ := ha
  cases a with
  | addClaim x => exact hname x rfl
  | map c n readOnly uses =>
    refine ⟨fun hc hro => ⟨fun w hw => ?_, ?_⟩, fun m hmem => ?_⟩
    · unfold showsAll at hall
      simp only [hm.storedLength_eq hc, hw, Option.map_some, hro, Bool.false_or] at hall
      exact of_decide_eq_true hall
    · refine hlength n (List.mem_append_left _ ?_)
      rw [hro]
      exact List.mem_cons_self
    · exact hlength m (List.mem_append_right _ (List.mem_filterMap.2 ⟨_, hmem, rfl⟩))
  | read c uses =>
    exact fun n hmem => htransfer n (List.mem_filterMap.2 ⟨_, hmem, rfl⟩)
  | write c append uses =>
    exact fun p hmem => htransfer p.bytes.size (List.mem_filterMap.2 ⟨_, hmem, rfl⟩)
  | acquire | release | holds | length | remove => trivial

/-- **An access has the same replies in rows and in files**, where files can do it: both reply as
one shelf does, and are afterwards what that shelf is then. -/
lemma access_alike {id : DatabaseId} {writers writers' readers : RegistryId} {i : DirectoryId}
    {σ : Shelf} (hr : (rowKeeper id p writers').Mirrors r rows σ)
    (hf : (fileKeeper directory writers readers i).Mirrors r files σ) {a : Access}
    (ha : Fits directory r files a) :
    (rows.access r a).2 = (files.access r a).2 ∧ ∃ σ',
      (rowKeeper id p writers').Mirrors r (rows.access r a).1 σ' ∧
        (fileKeeper directory writers readers i).Mirrors r (files.access r a).1 σ' := by
  have hrows := (rowKeeper id p writers' : Keeper κ _).admitsAccess_of_forall
    (fun _ => trivial) (fun _ _ => trivial) (fun _ => trivial) (fun _ => trivial) σ a
  rcases hr.access hrows with ⟨_, -, hfalse, -⟩ | ⟨hreplies, hr'⟩
  · exact hfalse.elim
  · rcases hf.access (ha.admits hf) with ⟨_, -, hfalse, -⟩ | ⟨hreplies', hf'⟩
    · exact hfalse.elim
    · exact ⟨hreplies.trans hreplies'.symm, _, hr', hf'⟩

/-! ### Sequences -/

/-- A store in which nothing was made but a repository of this kind. -/
def justOpened (kind : RepositoryKind) : Store :=
  ((onDisk (.withDirectory "d")).openRepository kind).1

/-- Content that is written, mapped, made longer and put back, with a hook in time and a late one,
and then read and measured. -/
def growth : List Access :=
  [.addClaim "x",
    .write 0 false [.writeRaw ⟨.ofList [1, 2], Payload.size_two_lt⟩, .close],
    .map 0 4 false [.hook "last" none (some 0), .resize 6, .unmap, .hook "late" none (some 0)],
    .read 0 [.seek 1, .readRaw 8],
    .length 0]

/-- A text of letters is a plain name. -/
lemma plain_replicate {n : Nat} (hn : 2 < n) : Plain (.ofList (List.replicate n 'a')) := by
  have hne : ∀ x : String, x.toList.length ≤ 2 → String.ofList (List.replicate n 'a') ≠ x := by
    intro x hx heq
    rw [← heq, String.toList_ofList, List.length_replicate] at hx
    exact absurd hx (Nat.not_le.2 hn)
  refine ⟨hne "" (by decide), hne "." (by decide), hne ".." (by decide), fun hmem => ?_⟩
  rw [String.toList_ofList] at hmem
  exact absurd (List.eq_of_mem_replicate hmem) (by decide)

/-- Whether there is content under a name that is too long is no question that the disk takes. -/
lemma accesses_of_long {x : String} (hx : Plain x) (hlong : Disk.maxNameBytes < x.utf8ByteSize) :
    ∃ f : Failure, ((justOpened (.files (.ofString "/d"))).accesses 0 [.addClaim x, .holds 0]).2 =
      [[], [.failed f.complaint]] := by
  have hwalk : (justOpened (.files (.ofString "/d"))).disk.walk Disk.root
      (Path.ofString "/d").components = .ok 1 := by
    decide +kernel
  obtain ⟨e, hresolve, hne⟩ := hx.resolve_of_long hlong hwalk
  have hstored : (justOpened (.files (.ofString "/d"))).disk.storedLength
      (contentPath (.ofString "/d") x) =
      .error (ioFailure "read metadata of" (contentPath (.ofString "/d") x) e) := by
    unfold Disk.storedLength
    rw [hresolve]
    split
    · next h => cases h
    · next h => cases h
    · next h => exact absurd (Except.error.inj h) hne
    · next h => rw [Except.error.inj h]
  refine ⟨ioFailure "read metadata of" (contentPath (.ofString "/d") x) e, ?_⟩
  show [[], [Reply.of .flag (Except.map Option.isSome
    ((justOpened (.files (.ofString "/d"))).disk.storedLength
      (contentPath (.ofString "/d") x)))]] = _
  rw [hstored]
  rfl

end Store

end ClaimStore
