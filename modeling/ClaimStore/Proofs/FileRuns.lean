import Mathlib.Data.List.Induction
import ClaimStore.Proofs.FileCover

/-!
# Mappings inside their files

Along every run of a file repository that alone touches its directory, mappings are inside their
files exactly as long as no change of length cuts a file below one of them. Nothing else does: no
writer, no removal and no failed operation.

## Main definitions

* `Operation.InFiles` — the operations on a file repository.
* `Store.inDirectory` — a store with one file repository, on any disk.

## Main results

* `Store.Tidy.step` — the invariant lasts, and mappings stay inside their files unless the
  operation cuts one.
* `Store.covered_run_iff` — mappings are inside their files all along a run if and only if no
  operation of the run cuts a file below one.
* `Store.not_covered_longer` — some runs leave a mapping outside its file.
-/

set_option autoImplicit false

namespace ClaimStore

/-- The operations on a file repository that is there, through claims with plain identifiers. -/
def Operation.InFiles {κ : Type} : Operation κ → Prop
  | .addClaim x _ => Plain x
  | .openRepository _ | .addTable .. | .insertEntry .. | .borrowEntry .. | .cloneBorrow _
  | .removeEntry .. | .lockValue .. | .storeValue .. | .resizeValue .. | .appendValue ..
  | .mapKey .. | .mapBorrow .. => False
  | _ => True

namespace Store

variable {κ : Type} {D : Path} {w g : RegistryId} {s : Store κ}

/-- The store that has one file repository, below the directory `D` of a disk. Where the directory
cannot be made there is none. -/
def inDirectory (d : Disk) (D : Path) : Store κ :=
  ((onDisk d : Store κ).openFiles D).1

/-! ### The first state -/

/-- **A store with one file repository is in order.** -/
lemma tidy_inDirectory {d : Disk} (hd : d.Sound) (D : Path) :
    Tidy D 0 0 (inDirectory d D : Store κ) := by
  have hext : d.Extends ((onDisk d : Store κ).disk.makeWithParents (D.depth + 1) D).1 :=
    (Disk.extends_makeWithParents (D.depth + 1) hd D).1
  have hsound : (inDirectory d D : Store κ).Sound := sound_openRepository d (.files D)
  -- there is no mapping and no claim yet
  have hnone : ∀ h, (inDirectory d D : Store κ).handle? h = none := by
    intro h
    unfold inDirectory openFiles
    split <;> rfl
  have hmapping : ∀ h m, (inDirectory d D : Store κ).mapping? h ≠ some m := by
    intro h m hm
    rw [mapping?_eq_some, hnone] at hm
    cases hm
  have hclaims : (inDirectory d D : Store κ).claims = [] := by
    unfold inDirectory openFiles
    split <;> rfl
  refine ⟨hsound, ?_, fun r b hb => ?_, fun x hx => ?_, fun h m hm => absurd hm (hmapping h m),
    fun h m _ _ hm => absurd hm (hmapping h m), fun h _ m _ _ _ _ hm => absurd hm (hmapping h m)⟩
  · unfold inDirectory openFiles
    split <;> next h => rw [Disk.makeDirectories] at h; rw [h] at hext; exact hext.sound hd
  · unfold inDirectory openFiles at hb
    split at hb
    · cases hb
    · cases r with
      | zero => exact (Option.some.inj hb).symm
      | succ r => cases hb
  · rw [hclaims] at hx
    cases hx

/-! ### Steps -/

/-- A new claim with a plain name leaves the mappings alone. -/
lemma keeps_addClaim (s : Store κ) {x : String} (hx : Plain x) (r : Option RepositoryId) :
    Keeps s (s.addClaim x r).1 := by
  refine ⟨.refl _, fun _ _ h => h, fun h y hy => ?_, fun _ m hm => ⟨m, hm, .refl m⟩,
    fun _ _ _ _ _ => Nat.le_refl _⟩
  rcases List.mem_append.1 hy with hy | hy
  · exact h y hy
  · obtain rfl := List.mem_singleton.1 hy
    exact hx

/-- A repository that is closed leaves the mappings alone. -/
lemma keeps_closeRepository (s : Store κ) (r : RepositoryId) : Keeps s (s.closeRepository r) := by
  refine ⟨.refl _, fun r' b hb => ?_, fun h => h, fun _ m hm => ⟨m, hm, .refl m⟩,
    fun _ _ _ _ _ => Nat.le_refl _⟩
  unfold closeRepository backend? at hb
  rw [List.getElem?_modify] at hb
  unfold backend?
  cases hx : s.repositories[r']? with
  | none =>
    rw [hx] at hb
    cases hb
  | some x =>
    rw [hx] at hb
    by_cases hr : r = r'
    · simp [hr] at hb
    · simpa [hr] using hb

variable [DecidableEq κ] [ToString κ]

/-- Content that is opened in the repository opens at most a mapping. -/
lemma Tidy.adds_opening (ht : Tidy D w g s) {op : Operation κ} (hop : op.group = .opening)
    (happ : s.applies op = true) : Adds w g s (s.perform op) := by
  cases op with
  | mapContent r c n readOnly =>
    exact ht.inRepository (ht.adds_mapInFiles (of_decide_eq_true happ) n readOnly)
  | readContent r c => exact ht.inRepository (.nothing (keeps_readInFiles s D c))
  | writeContent r c append =>
    exact ht.inRepository (.nothing (ht.keeps_writeInFiles (of_decide_eq_true happ) append))
  | mapClaim c n readOnly =>
    exact ht.routed (ht.adds_mapInFiles (of_decide_eq_true happ) n readOnly)
  | readClaim c => exact ht.routed (.nothing (keeps_readInFiles s D c))
  | writeClaim c append =>
    exact ht.routed (.nothing (ht.keeps_writeInFiles (of_decide_eq_true happ) append))
  | _ => cases hop

omit [ToString κ] in
/-- Content that is removed leaves the mappings alone. -/
lemma Tidy.adds_removeContent (ht : Tidy D w g s) (r : RepositoryId) (c : ClaimId) :
    Adds w g s (s.removeContent r c).1 := by
  refine ht.inRepository ?_
  rcases s.removeIn_cases (.files D w g) c with ⟨f, heq⟩ | ⟨-, heq⟩
  · rw [heq]
    exact .nothing (.refl s)
  · rw [heq, eraseIn]
    exact .nothing (keeps_removeInFiles s D _)

/-- An operation on a reader or a writer leaves the mappings alone. -/
lemma keeps_stream {op : Operation κ} (hop : op.group = .stream) : Keeps s (s.perform op) := by
  cases op with
  | readRaw reader n => exact keeps_deliver s reader _
  | readData reader buffer maxLen =>
    exact readData_induction (P := Keeps s)
      (fun s' n h => h.trans (keeps_deliver s' reader n)) (.refl s) buffer maxLen
  | readToEnd reader => exact keeps_readToEnd s reader
  | seek reader offset => exact keeps_seek s reader offset
  | writeRaw writer b => exact keeps_accept s writer _
  | writeData writer b => exact keeps_writeData s writer b.bytes
  | copy reader writer =>
    rcases s.perform_copy reader writer with heq | ⟨s', r, hcopy, heq⟩ <;> rw [heq]
    · exact .refl s
    · exact copy_induction (P := Keeps s)
        (fun s' n h => h.trans (keeps_deliver s' reader n))
        (fun s' b _ h => h.trans (keeps_writeAll s' writer b)) (.refl s) hcopy
  | _ => cases hop

/-- **Every operation but a change of length leaves mappings alone**, apart from one that it may
open. -/
lemma Tidy.adds_perform (ht : Tidy D w g s) (op : Operation κ) (hop : op.InFiles)
    (happ : s.applies op = true) (hr : ∀ map n, op ≠ .resize map n) :
    Adds w g s (s.perform op) := by
  cases op with
  | openRepository kind => exact hop.elim
  | closeRepository r => exact .nothing (keeps_closeRepository s r)
  | addClaim x r => exact .nothing (keeps_addClaim s hop r)
  | acquire c =>
    exact .nothing ((keeps_takeReference s c).trans (keeps_addHandle _ fun _ h => nomatch h))
  | removeContent r c => exact ht.adds_removeContent r c
  | mapContent | readContent | writeContent | mapClaim | readClaim | writeClaim =>
    exact ht.adds_opening rfl happ
  | writeAt map offset b => exact .nothing (ht.keeps_writeAt map offset b)
  | fillView map byte => exact .nothing (ht.keeps_fillView map byte)
  | resize map n => exact absurd rfl (hr map n)
  | flush map => exact .nothing (keeps_flush s map)
  | registerHook map name failure probe =>
    exact .nothing (keeps_registerHook s map name failure probe)
  | readRaw | readData | readToEnd | seek | writeRaw | writeData | copy =>
    exact .nothing (keeps_stream rfl)
  | unmap map => exact .nothing (keeps_unmap s map)
  | close writer => exact .nothing (keeps_close s writer)
  | drop h => exact .nothing (keeps_drop s h)
  | addTable | insertEntry | borrowEntry | cloneBorrow | removeEntry | lockValue | storeValue
  | resizeValue | appendValue | mapKey | mapBorrow => exact hop.elim

/-- **A step keeps the invariant**, and mappings stay inside their files unless the operation cuts
one. -/
lemma Tidy.step (ht : Tidy D w g s) (op : Operation κ) (hop : op.InFiles) :
    Tidy D w g (s.step op) ∧ (Covered s → ¬ Cuts s op → Covered (s.step op)) := by
  have hs' := (ht.sound.step op).sound
  by_cases happ : s.applies op = true
  · have hstep : s.step op = s.perform op := if_pos happ
    rw [hstep] at hs' ⊢
    by_cases hr : ∀ map n, op ≠ .resize map n
    · obtain ⟨htidy, hcov⟩ := ht.adds (ht.adds_perform op hop happ hr) hs'
      exact ⟨htidy, fun hc _ => hcov hc⟩
    · push Not at hr
      obtain ⟨map, n, rfl⟩ := hr
      exact ht.resize map n hs'
  · have hstep : s.step op = s := if_neg happ
    rw [hstep]
    exact ⟨ht, fun hc _ => hc⟩

/-! ### Runs -/

/-- A run with one more operation. -/
lemma run_concat (s : Store κ) (ops : List (Operation κ)) (op : Operation κ) :
    s.run (ops ++ [op]) = (s.run ops).step op := by
  rw [run, List.foldl_append]
  rfl

/-- **Every run keeps a file repository in order.** -/
lemma Tidy.run (ht : Tidy D w g s) {ops : List (Operation κ)} (hops : ∀ op ∈ ops, op.InFiles) :
    Tidy D w g (s.run ops) := by
  induction ops generalizing s with
  | nil => exact ht
  | cons op ops ih =>
    exact ih (ht.step op (hops op List.mem_cons_self)).1
      fun op' h => hops op' (List.mem_cons_of_mem op h)

/-- **Mappings are inside their files all along a run if and only if no operation of the run cuts a
file below one.** The run is of any operations on one file repository, in any order, on any disk
that nobody else touches; operations that fail are part of it.

**Proof sketch.** A step keeps the store tidy, and keeps mappings covered unless it cuts a file
below one of them. From left to right: the state after such a cut is not covered. From right to
left: by induction on the run, from its end. -/
theorem covered_run_iff {d : Disk} (hd : d.Sound) (D : Path) (ops : List (Operation κ))
    (hops : ∀ op ∈ ops, op.InFiles) :
    (∀ pre, pre <+: ops → ((inDirectory d D : Store κ).run pre).Covered) ↔
      ∀ pre op, pre ++ [op] <+: ops → ¬ ((inDirectory d D : Store κ).run pre).Cuts op := by
  have hstart : Tidy D 0 0 (inDirectory d D : Store κ) := tidy_inDirectory hd D
  have hinside : ∀ pre, pre <+: ops → ∀ op ∈ pre, op.InFiles :=
    fun pre h op hop => hops op (h.subset hop)
  constructor
  · intro hall pre op hpre hcuts
    have hbefore : pre <+: ops := (List.prefix_append pre [op]).trans hpre
    have ht := hstart.run (hinside pre hbefore)
    have hafter := hall (pre ++ [op]) hpre
    rw [run_concat] at hafter
    cases op with
    | resize map n => exact ht.not_covered_of_cuts hcuts hafter
    | _ => exact hcuts
  · intro hnone pre
    induction pre using List.reverseRecOn with
    | nil =>
      intro _ h m hm
      have hempty : (inDirectory d D : Store κ).handle? h = none := by
        unfold inDirectory openFiles
        split <;> rfl
      rw [run_nil, mapping?_eq_some, hempty] at hm
      cases hm
    | append_singleton pre op ih =>
      intro hpre
      have hbefore : pre <+: ops := (List.prefix_append pre [op]).trans hpre
      have ht := hstart.run (hinside pre hbefore)
      have hop : op.InFiles := hinside _ hpre op (List.mem_append_right _ List.mem_cons_self)
      rw [run_concat]
      exact (ht.step op hop).2 (ih hbefore) (hnone pre op hpre)

/-- A run that makes a writable mapping longer and its file shorter: the file of `x` has two bytes,
which a read-only mapping shows, and a writable mapping of none of them is given one byte. -/
def longerRun : List (Operation Nat) :=
  [.addClaim "x" (some 0), .mapContent 0 0 2 false, .drop 0, .mapContent 0 0 2 true,
    .mapContent 0 0 0 false, .resize 2 1]

/-- The run is one on the only repository. -/
lemma inFiles_longerRun : ∀ op ∈ longerRun, op.InFiles := by
  have hx : Plain "x" := by decide
  simp [longerRun, Operation.InFiles, hx]

/-- A change of length that makes the mapping longer and the file shorter is made at the end of
that run. -/
theorem covered_run_iff_longerRun : (Disk.withDirectory "d").Sound ∧
    (∀ op ∈ longerRun, op.InFiles) ∧
    ((∀ pre, pre <+: longerRun →
        ((inDirectory (.withDirectory "d") (.ofString "/d") : Store).run pre).Covered) ↔
      ∀ pre op, pre ++ [op] <+: longerRun →
        ¬ ((inDirectory (.withDirectory "d") (.ofString "/d") : Store).run pre).Cuts op) :=
  ⟨Disk.sound_withDirectory "d", inFiles_longerRun,
    covered_run_iff (Disk.sound_withDirectory "d") (.ofString "/d") longerRun inFiles_longerRun⟩

/-- **Mappings are not always inside their files**: after `longerRun` the read-only mapping shows
two bytes, and its file has one. -/
theorem not_covered_longer : ¬ ∀ ops : List (Operation Nat), (∀ op ∈ ops, op.InFiles) →
    ((inDirectory (.withDirectory "d") (.ofString "/d") : Store).run ops).Covered := by
  intro h
  have hm : ((inDirectory (.withDirectory "d") (.ofString "/d") : Store).run longerRun).mapping? 1 =
      some
        { backing := .file
            { path := ⟨"", ["d", "x"]⟩, opened := some (.file 0), region := .mapped, length := 2,
              gate := none }
          readOnly := true
          hooks := ⟨[.hold 0 (some (.read 0 "x"))], false⟩ } := by
    decide +kernel
  obtain ⟨id, ho, hle⟩ := h longerRun inFiles_longerRun 1 _ hm rfl
  obtain rfl : id = 0 := (Option.some.inj ho).symm
  have hsize : (((inDirectory (.withDirectory "d") (.ofString "/d") : Store).run
      longerRun).disk.bytes 0).size = 1 := by
    decide +kernel
  rw [hsize] at hle
  exact absurd hle (by decide)

end Store

end ClaimStore
