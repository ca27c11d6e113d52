import ClaimStore.Proofs.OpenTrials
import ClaimStore.Proofs.StoredContent

/-!
# Opens that fail

An open of content in a file repository that fails gives back all that it took, whatever it fails
over: no lease, no reference and no handle is left. On the disk it is not so clean. The file is
made, and extended, before the steps that can still fail, and nothing takes that back. So after a
writable mapping that failed, or a writer that was to replace, content that was absent may be there,
and content that was shorter may have become longer. These cases are told exactly; in all others no
content changes.

## Main definitions

* `Store.ShortNames` — no name in an identifier is too long.
* `Store.FileOpenFailure` — what an open that fails comes to.

## Main results

* `Store.failedOpen_trials` — opens that fail, after all trials.
* `Store.not_absent_unmapped` — content that was absent is not always absent after an open that
  failed.
-/

set_option autoImplicit false

namespace ClaimStore.Store

variable {κ : Type} {s s' : Store κ} {l : Ledger} {f : OpenFaults} {r : RepositoryId} {c : ClaimId}
  {o : ContentOpen} {D : Path} {w g : RegistryId} {e : Failure}

/-! ### What is left -/

/-- No name in an identifier is longer than names on the disk can be. -/
def ShortNames (x : String) : Prop :=
  ∀ n ∈ (Path.ofString x).components, n.utf8ByteSize ≤ Disk.maxNameBytes

instance (x : String) : Decidable (ShortNames x) :=
  inferInstanceAs (Decidable (∀ n ∈ (Path.ofString x).components, _))

variable [DecidableEq κ]

/-- **What an open of content that fails comes to.** -/
structure FileOpenFailure (f : OpenFaults) (s : Store κ) (D : Path) (w g : RegistryId) (c : ClaimId)
    (o : ContentOpen) (s' : Store κ) : Prop where
  /-- Nothing changes but the disk: the leases, the references and the handles are as they were. -/
  rest_eq : s' = { s with disk := s'.disk }
  /-- The files change exactly if a trace is left. -/
  contents_eq_iff : s'.disk.contents = s.disk.contents ↔ ¬ LeavesTrace f s D w g c o
  /-- If none is left, each repository stores the same bytes under each identifier that leads
  downwards. -/
  bytes_eq : ¬ LeavesTrace f s D w g c o → ∀ r b y, s.backendOf? r = some b → Descends y →
    s'.storedBytes? b y = s.storedBytes? b y
  /-- And it gives the same answers about each claim with such an identifier. -/
  answers_eq : ¬ LeavesTrace f s D w g c o → ∀ r c', Descends (s.identifier c') →
    ShortNames (s.identifier c') → s'.storedLength r c' = s.storedLength r c' ∧
      s'.holdsContent r c' = s.holdsContent r c'
  /-- What is stored under any other path is still stored there. -/
  kept : ¬ LeavesTrace f s D w g c o → ∀ p v, s.disk.fileBytes? p = some v →
    s'.disk.fileBytes? p = some v
  /-- If a trace is left, the identifier has content where it had none, or longer content. -/
  gains : LeavesTrace f s D w g c o →
    Disk.Gains (contentPath D (s.identifier c)) s.disk s'.disk
  /-- In any case, content stays that is stored under another name. -/
  others_eq : ∀ r D' w' g' y, s.backendOf? r = some (.files D' w' g') → Descends y →
    (∀ i n, s'.disk.locate (contentPath D (s.identifier c)) = .ok (.name i n) →
      s'.disk.locate (contentPath D' y) ≠ .ok (.name i n)) →
        s'.disk.fileBytes? (contentPath D' y) = s.disk.fileBytes? (contentPath D' y)

/-- More directories do not change what a backend stores under an identifier that leads
downwards. -/
lemma Settled.storedBytes?_eq (h : Settled l s) {d : Disk} (hw : s.disk.Widens d) {b : Backend}
    (hb : s.backendOf? r = some b) {y : String} (hy : Descends y) :
    ({ s with disk := d } : Store κ).storedBytes? b y = s.storedBytes? b y := by
  cases b with
  | files D w g =>
    obtain ⟨k, hk⟩ := h.housed r D w g hb
    have hsame := hw.fileBytes?_eq h.disk_sound hy hk
    exact hsame
  | volatile t w => rfl
  | database d p w => rfl

/-- They do not change the length that is told either, if no name is too long. -/
lemma Settled.lengthIn_eq (h : Settled l s) {d : Disk} (hw : s.disk.Widens d) {b : Backend}
    (hb : s.backendOf? r = some b) {y : String} (hy : Descends y) (hshort : ShortNames y) :
    ({ s with disk := d } : Store κ).lengthIn b y = s.lengthIn b y := by
  cases b with
  | files D w g =>
    obtain ⟨k, hk⟩ := h.housed r D w g hb
    have hsame := hw.storedLength_eq h.disk_sound hy hk hshort
    exact hsame
  | volatile t w => rfl
  | database d p w => rfl

/-- So a repository gives the same answers. -/
lemma Settled.storedLength_eq (h : Settled l s) {d : Disk} (hw : s.disk.Widens d)
    (hy : Descends (s.identifier c)) (hshort : ShortNames (s.identifier c)) :
    ({ s with disk := d } : Store κ).storedLength r c = s.storedLength r c := by
  have hbackend : ({ s with disk := d } : Store κ).backend? r = s.backend? r := rfl
  rw [storedLength, storedLength, hbackend]
  cases hb : s.backend? r with
  | none => rfl
  | some b => exact h.lengthIn_eq hw (backendOf?_of_backend? hb) hy hshort

/-- **An open that fails in a settled store.** -/
lemma Settled.fileOpenFailure (h : Settled l s)
    (hopen : s.openInFilesWith f D w g c o = (s', .error e)) :
    FileOpenFailure f s D w g c o s' := by
  obtain ⟨hrest, hleft⟩ := openInFilesWith_error hopen
  generalize s'.disk = d at hrest hleft
  subst hrest
  have hd := h.disk_sound
  have hwidens : ¬ LeavesTrace f s D w g c o → s.disk.Widens d := hleft.widens hd
  refine ⟨rfl, ⟨fun heq ht => (hleft.traced hd ht).1 heq, fun hn => (hwidens hn).contents_eq⟩,
    fun hn r b y hb hy => h.storedBytes?_eq (hwidens hn) hb hy, fun hn r c' hy hshort => ?_,
    fun hn p v hv => (hwidens hn).fileBytes?_kept hd hv, hleft.traced hd,
    fun r D' w' g' y hb hy hne => ?_⟩
  · have hlength := h.storedLength_eq (r := r) (hwidens hn) hy hshort
    exact ⟨hlength, by rw [holdsContent, holdsContent, hlength]⟩
  · obtain ⟨k, hk⟩ := h.housed r D' w' g' hb
    have haims := (hleft.changes hd).mono fun _ _ h => Disk.Aims.opening h
    exact haims.fileBytes?_eq hd h.tree hy hk hne

/-- **Opens that fail after all trials**, whatever they fail over. -/
theorem failedOpen_trials [ToString κ] (name : String) (ts : List (Trial κ))
    (hb : ((onDirectory name : Store κ).trials ts).backend? r = some (.files D w g))
    (hopen : ((onDirectory name : Store κ).trials ts).openContentWith f r c o = (s', .error e)) :
    FileOpenFailure f ((onDirectory name).trials ts) D w g c o s' :=
  (settled_trials name ts).fileOpenFailure (openContentWith_files hb f c o ▸ hopen)

/-! ### A run -/

/-- A file repository is opened, and a claim is made. -/
def claimMade : List (Trial Nat) :=
  [.act (.operate .quiet (.openRepository (.files (.ofString "d")))),
    .act (.operate .quiet (.addClaim "x" (some 0)))]

/-- Two opens that fail after it: a read-only mapping of content that is absent, and a writable one
that is longer than any file, which leaves a trace. -/
theorem failedOpen_claimMade :
    ((onDirectory "d" : Store).trials claimMade).backend? 0 = some (.files (.ofString "d") 0 0) ∧
      (((onDirectory "d" : Store).trials claimMade).openContentWith .quiet 0 0 (.map 1 true)).2 =
        .error (missingContent "x" 1) ∧
      FileOpenFailure .quiet ((onDirectory "d" : Store).trials claimMade) (.ofString "d") 0 0 0
        (.map 1 true) (((onDirectory "d").trials claimMade).openContentWith .quiet 0 0
          (.map 1 true)).1 ∧
      (((onDirectory "d" : Store).trials claimMade).openContentWith .quiet 0 0
        (.map 0x8000000000000000 false)).2 =
          .error (ioFailure "extend" (.ofString "d/x") .lengthTooLarge) ∧
      LeavesTrace .quiet ((onDirectory "d" : Store).trials claimMade) (.ofString "d") 0 0 0
        (.map 0x8000000000000000 false) ∧
      FileOpenFailure .quiet ((onDirectory "d" : Store).trials claimMade) (.ofString "d") 0 0 0
        (.map 0x8000000000000000 false)
        (((onDirectory "d").trials claimMade).openContentWith .quiet 0 0
          (.map 0x8000000000000000 false)).1 := by
  have hb : ((onDirectory "d" : Store).trials claimMade).backend? 0 =
      some (.files (.ofString "d") 0 0) := by decide +kernel
  have hread : (((onDirectory "d" : Store).trials claimMade).openContentWith .quiet 0 0
      (.map 1 true)).2 = .error (missingContent "x" 1) := by decide +kernel
  have hmap : (((onDirectory "d" : Store).trials claimMade).openContentWith .quiet 0 0
      (.map 0x8000000000000000 false)).2 =
        .error (ioFailure "extend" (.ofString "d/x") .lengthTooLarge) := by decide +kernel
  refine ⟨hb, hread, failedOpen_trials "d" claimMade hb (Prod.ext rfl hread), hmap, ?_,
    failedOpen_trials "d" claimMade hb (Prod.ext rfl hmap)⟩
  exact .unmapped (by decide +kernel) (Prod.ext rfl (by decide +kernel))
    (.inr ⟨by decide, .inr (.inl (by decide))⟩)

/-- **Content that was absent is not always absent after an open that failed**: a writable mapping
that is longer than any file leaves an empty one. -/
theorem not_absent_unmapped : ¬ ∀ (ts : List (Trial Nat)) (r : RepositoryId) (c : ClaimId)
    (n : UInt64) (e : Failure),
    (((onDirectory "d" : Store).trials ts).mapContent r c n false).2 = .error e →
      ((onDirectory "d" : Store).trials ts).holdsContent r c = .ok false →
        (((onDirectory "d" : Store).trials ts).mapContent r c n false).1.holdsContent r c =
          .ok false := by
  intro h
  have habsent := h claimMade 0 0 0x8000000000000000
    (ioFailure "extend" (.ofString "d/x") .lengthTooLarge) (by decide +kernel) (by decide +kernel)
  exact absurd habsent (by decide +kernel)

end ClaimStore.Store
