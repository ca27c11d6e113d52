import ClaimStore.Proofs.OpenFiles
import ClaimStore.Proofs.OpenTraces
import ClaimStore.Proofs.Presence

/-!
# Opens of files in sessions

All that is done with a store over time, with opens of content among it in which any step towards a
file may fail. What callers hold is still told by a ledger that is kept from the answers alone: an
open that fails makes no entry. All that is always true of a store is true after every such series
of trials.

## Main definitions

* `ClaimStore.Trial` — something that is tried with a store.
* `Store.attempt`, `Store.trials` — the state after one trial, and after many.
* `Ledger.tried`, `Ledger.trials` — the ledger after them.
* `Store.Settled` — what is true after all trials.

## Main results

* `Store.attempt_cases` — a trial comes to an action, or to an open that failed.
* `Store.settled_trials` — what is true after all trials, from the empty store on.
-/

set_option autoImplicit false

namespace ClaimStore

open Disk (Changes)

variable {κ : Type}

/-! ### Trials -/

/-- **Something that is tried with a store.** -/
inductive Trial (κ : Type) where
  /-- An action. -/
  | act (a : Action κ)
  /-- An open of content of a claim in a repository, with what fails in it. -/
  | openContent (f : OpenFaults) (r : RepositoryId) (c : ClaimId) (o : ContentOpen)

namespace ContentOpen

/-- What content is opened as. -/
def grip (o : ContentOpen) (r : RepositoryId) : Grip :=
  match o with
  | .map _ readOnly => .mapping r readOnly
  | .read => .reader r
  | .write _ => .writer r

/-- The operation that opens content like this. -/
def operation (o : ContentOpen) (r : RepositoryId) (c : ClaimId) : Operation κ :=
  match o with
  | .map n readOnly => .mapContent r c n readOnly
  | .read => .readContent r c
  | .write append => .writeContent r c append

end ContentOpen

section Trials

variable [DecidableEq κ] [ToString κ]

/-- The state after a trial, which names only claims that are there. -/
def Store.attempt (s : Store κ) : Trial κ → Store κ
  | .act a => s.act a
  | .openContent f r c o => if c < s.claims.length then (s.openContentWith f r c o).1 else s

/-- The state after trials, one after the other. -/
def Store.trials (s : Store κ) (ts : List (Trial κ)) : Store κ := ts.foldl attempt s

/-- The ledger after an action. -/
def Ledger.acted (l : Ledger) (s : Store κ) : Action κ → Ledger
  | .operate f op => l.after f s op
  | .mapFile .. | .mapBuffer .. | .resize .. => l

/-- The ledger after a trial: an open that answers with a handle makes an entry. -/
def Ledger.tried (l : Ledger) (s : Store κ) : Trial κ → Ledger
  | .act a => l.acted s a
  | .openContent f r c o =>
    if c < s.claims.length then
      l.add (Holder.made ⟨c, s.identifier c, o.grip r, false⟩ (s.openContentWith f r c o).2)
    else l

/-- The ledger after trials. -/
def Ledger.trials (l : Ledger) (s : Store κ) : List (Trial κ) → Ledger
  | [] => l
  | t :: ts => (l.tried s t).trials (s.attempt t) ts

/-- What every trial keeps of a state and its ledger, all trials keep. -/
theorem Store.trial_induction {P : Store κ → Ledger → Prop} {s : Store κ} {l : Ledger}
    (hstep : ∀ s l t, P s l → P (s.attempt t) (l.tried s t)) (hs : P s l) (ts : List (Trial κ)) :
    P (s.trials ts) (l.trials s ts) := by
  induction ts generalizing s l with
  | nil => exact hs
  | cons t ts ih => exact ih (hstep s l t hs)

end Trials

namespace Store

variable {s s' : Store κ} {l : Ledger} {r : RepositoryId} {c : ClaimId}

/-! ### Actions -/

section Actions

variable [DecidableEq κ] [ToString κ]

/-- An action changes the disk by small changes. -/
lemma changes_act (hs : s.Sound) (hd : s.disk.Sound) (a : Action κ) :
    Changes (fun _ _ => True) s.disk (s.act a).disk := by
  cases a with
  | operate f op => exact (diskStep_stepUnder hs hd f op).changes.mono fun _ _ _ => trivial
  | mapFile p n readOnly gate =>
    cases readOnly with
    | true => exact (touches_mapFile s p n gate).changes.mono fun _ _ _ => trivial
    | false => exact (opensAt_mapFile hd p n gate).changes.mono fun _ _ _ => trivial
  | mapBuffer b readOnly capacity => exact .refl
  | resize f map n => exact (touches_resizeWith f s map n).changes.mono fun _ _ _ => trivial

omit [DecidableEq κ] [ToString κ] in
/-- A handle that was opened for no claim makes no entry. -/
lemma Tells.addPlain (ht : Tells l s) {m : Mapping} (h : Added (.mapping m) s s')
    (hhooks : m.hooks = .empty) : Tells l s' := by
  have hadded := ht.added h (o := none) (.plain fun k hk => by rw [hhooks] at hk; cases hk)
  rwa [Tells.set_self l ht.length_eq_none] at hadded

omit [DecidableEq κ] [ToString κ] in
/-- A change of length keeps the ledger true. -/
lemma Tells.resizeWith (ht : Tells l s) (f : MappingFaults) (map : HandleId) (n : UInt64) :
    Tells l (s.resizeWith f map n).1 := by
  rcases resizeWith_cases f s map n with heq | ⟨m, b, hm, -, hb, heq⟩
  · rw [heq]
    exact ht.carries (carries_resize s map n)
  · rw [heq]
    rcases (resizes_resizeFileWith f s map m b n).fst_eq with heq | ⟨d, b', heq⟩
    · rw [heq]
      exact ht
    · rw [heq]
      exact ht.carries (carries_backing (still_disk s d) hm (hb ▸ Backing.Goes.file b b'))

omit [DecidableEq κ] [ToString κ] in
/-- So does a mapping of a file that belongs to no repository. -/
lemma Tells.mapFile (ht : Tells l s) (p : Path) (n : UInt64) (readOnly : Bool)
    (gate : Option Gate) : Tells l (s.mapFile p n readOnly gate).1 := by
  unfold Store.mapFile
  cases readOnly with
  | true =>
    simp only [if_true]
    split
    · exact ht
    · exact ht.addPlain ((Still.refl s).added _) rfl
  | false =>
    simp only [Bool.false_eq_true, if_false]
    split
    · exact ht.of_frame rfl rfl
    · exact ht.addPlain ((still_disk s _).added _) rfl

/-- **Every action keeps the ledger true.** -/
lemma Tells.act (ht : Tells l s) (hs : s.Sound) (a : Action κ) :
    Tells (l.acted s a) (s.act a) := by
  cases a with
  | operate f op => exact ht.stepUnder hs f op
  | mapFile p n readOnly gate => exact ht.mapFile p n readOnly gate
  | mapBuffer b readOnly capacity => exact ht.addPlain ((Still.refl s).added _) rfl
  | resize f map n => exact ht.resizeWith f map n

omit [DecidableEq κ] [ToString κ] in
/-- A change of length leaves the repositories. -/
lemma repositories_resizeWith (f : MappingFaults) (s : Store κ) (map : HandleId) (n : UInt64) :
    (s.resizeWith f map n).1.repositories = s.repositories := by
  rcases resizeWith_cases f s map n with heq | ⟨m, b, -, -, -, heq⟩
  · rw [heq]
    exact (carries_resize s map n).repositories_eq
  · rw [heq]
    rcases (resizes_resizeFileWith f s map m b n).fst_eq with heq | ⟨d, b', heq⟩
    · rw [heq]
    · rw [heq]
      rfl

omit [DecidableEq κ] [ToString κ] in
/-- So does a mapping of a file that belongs to none. -/
lemma repositories_mapFile (s : Store κ) (p : Path) (n : UInt64) (readOnly : Bool)
    (gate : Option Gate) : (s.mapFile p n readOnly gate).1.repositories = s.repositories := by
  unfold Store.mapFile
  split <;> split <;> rfl

omit [DecidableEq κ] [ToString κ] in
/-- The directories of repositories stay while the repositories do. -/
lemma Housed.of_extends (h : Housed s) (hd : s.disk.Sound) (he : s.disk.Extends s'.disk)
    (hr : s'.repositories = s.repositories) : Housed s' := by
  intro r D w g hb
  obtain ⟨k, hk⟩ := h r D w g ((backendOf?_congr hr r).symm.trans hb)
  exact ⟨k, he.walk_eq hd hd.root_lt hk⟩

/-- **Every action keeps the directories of repositories.** -/
lemma Housed.act (h : Housed s) (ht : Tells l s) (hs : s.Sound) (hd : s.disk.Sound)
    (a : Action κ) : Housed (s.act a) := by
  have hext := (changes_act hs hd a).extends
  cases a with
  | operate f op => exact h.stepUnder ht hs hd f op
  | mapFile p n readOnly gate =>
    exact h.of_extends hd hext (repositories_mapFile s p n readOnly gate)
  | mapBuffer b readOnly capacity => exact h.of_extends hd hext rfl
  | resize f map n => exact h.of_extends hd hext (repositories_resizeWith f s map n)

end Actions

/-! ### What is true after all trials -/

/-- **What is true after all trials**, with respect to the ledger of what callers hold. -/
structure Settled (l : Ledger) (s : Store κ) : Prop where
  /-- The store is in order. -/
  ordered : Ordered s
  /-- The ledger tells what the handles are. -/
  tells : Tells l s
  /-- The disk is sound. -/
  disk_sound : s.disk.Sound
  /-- Its directories are a tree. -/
  tree : s.disk.Tree
  /-- The directories of repositories are there. -/
  housed : Housed s

/-- An empty store is settled, with an empty ledger. -/
lemma settled_onDirectory (name : String) : Settled Ledger.empty (onDirectory name : Store κ) where
  ordered := ordered_onDirectory name
  tells := tells_empty name
  disk_sound := Disk.sound_withDirectory name
  tree := Disk.tree_withDirectory name
  housed r D w g hb := by cases hb

namespace Settled

/-- **What is on the disk may change** by small changes. -/
lemma setDisk (h : Settled l s) {P : Disk → Disk.Change → Prop} {d : Disk}
    (hc : Changes P s.disk d) : Settled l { s with disk := d } where
  ordered := ⟨h.ordered.sound.alike ⟨rfl, rfl, rfl, rfl, rfl, rfl⟩,
    h.ordered.tells.imp fun _ ht => ht.of_frame rfl rfl, h.ordered.exclusive,
    h.ordered.insides.alike ⟨rfl, rfl, rfl, rfl, rfl, rfl⟩, h.ordered.shaped⟩
  tells := h.tells.of_frame rfl rfl
  disk_sound := hc.extends.sound h.disk_sound
  tree := hc.tree h.tree h.disk_sound
  housed := h.housed.of_extends h.disk_sound hc.extends rfl

variable [DecidableEq κ] [ToString κ]

/-- **Every action leaves it true.** -/
lemma act (h : Settled l s) (a : Action κ) : Settled (l.acted s a) (s.act a) where
  ordered := h.ordered.act a
  tells := h.tells.act h.ordered.sound a
  disk_sound := (changes_act h.ordered.sound h.disk_sound a).extends.sound h.disk_sound
  tree := (changes_act h.ordered.sound h.disk_sound a).tree h.tree h.disk_sound
  housed := h.housed.act h.tells h.ordered.sound h.disk_sound a

end Settled

section Attempts

variable [DecidableEq κ] [ToString κ]

/-- The operation that opens content, in which nothing fails. -/
lemma openContent_quiet (s : Store κ) (l : Ledger) (r : RepositoryId) (c : ClaimId)
    (o : ContentOpen) (hc : c < s.claims.length) :
    s.act (.operate .quiet (o.operation r c)) = (s.openContent r c o).1 ∧
      l.acted s (.operate .quiet (o.operation r c)) =
        l.add (Holder.made ⟨c, s.identifier c, o.grip r, false⟩ (s.openContent r c o).2) := by
  have happlies : s.applies (o.operation r c) = true := by
    cases o <;> exact decide_eq_true hc
  constructor
  · show s.stepUnder .quiet (o.operation r c) = _
    rw [stepUnder_quiet, step, if_pos happlies]
    cases o <;> rfl
  · show l.after .quiet s (o.operation r c) = _
    rw [Ledger.after, if_pos happlies]
    cases o with
    | map n readOnly =>
      simp only [ContentOpen.operation, openedUnder, mapContentUnder_quiet]
      rfl
    | read =>
      simp only [ContentOpen.operation, openedUnder, readContentUnder_quiet]
      rfl
    | write append =>
      simp only [ContentOpen.operation, openedUnder, writeContentUnder_quiet]
      rfl

/-- **A trial comes to an action**, or it is an open that failed in a file repository and changes
nothing but the disk, or it does nothing. -/
lemma attempt_cases (l : Ledger) (s : Store κ) (t : Trial κ) :
    (∃ a, s.attempt t = s.act a ∧ l.tried s t = l.acted s a) ∨
      ∃ d, (d = s.disk ∨ ∃ f r c o D w g, s.backend? r = some (.files D w g) ∧
        Interrupts f s D w g c o d) ∧ s.attempt t = { s with disk := d } ∧ l.tried s t = l := by
  cases t with
  | act a => exact .inl ⟨a, rfl, rfl⟩
  | openContent f r c o =>
    unfold attempt Ledger.tried
    by_cases hc : c < s.claims.length
    · simp only [if_pos hc]
      rcases openContentWith_cases f s r c o with heq | ⟨D, w, g, d, e, hb, hdisk, heq⟩
      · obtain ⟨hact, hacted⟩ := openContent_quiet s l r c o hc
        rw [heq, ← hact, ← hacted]
        exact .inl ⟨_, rfl, rfl⟩
      · rw [heq]
        exact .inr ⟨d, .inr ⟨f, r, c, o, D, w, g, hb, hdisk⟩, rfl, rfl⟩
    · simp only [if_neg hc]
      exact .inr ⟨s.disk, .inl rfl, rfl, trivial⟩

/-- **Every trial leaves it true.** -/
lemma Settled.attempt (h : Settled l s) (t : Trial κ) :
    Settled (l.tried s t) (s.attempt t) := by
  rcases attempt_cases l s t with ⟨a, hs, hl⟩ | ⟨d, hd, hs, hl⟩
  · rw [hs, hl]
    exact h.act a
  · rw [hs, hl]
    rcases hd with rfl | ⟨f, r, c, o, D, w, g, -, hd⟩
    · exact h
    · exact h.setDisk (hd.changes h.disk_sound)

/-- **What is true after all trials**, from the empty store on. -/
theorem settled_trials (name : String) (ts : List (Trial κ)) :
    Settled (Ledger.empty.trials (onDirectory name) ts) ((onDirectory name : Store κ).trials ts) :=
  trial_induction (P := fun s l => Settled l s) (fun _ _ t h => h.attempt t)
    (settled_onDirectory name) ts

end Attempts

end Store

end ClaimStore
