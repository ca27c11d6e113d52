import ClaimStore.Proofs.OpenTrials
import ClaimStore.Proofs.ReaderDesks
import ClaimStore.Proofs.References

/-!
# Read leases of file repositories

A file repository has a registry of readers of its own. The leases of an identifier that are live in
it are exactly those of the read-only mappings of this identifier that were not unmapped or dropped,
each of which holds one; an open that fails leaves none behind. So whatever would make a file
shorter is done exactly if no such mapping is there.

## Main definitions

* `Holder.mapsReadOnly`, `Ledger.mapsReadOnly` — the read-only mappings that are live.
* `Store.ReadersApart` — no two repositories share a registry of readers.
* `Store.ReadMapped` — the leases of a registry are those of the read-only mappings.

## Main results

* `Store.count_readLease` — what one handle holds.
* `Store.Tells.readers_ncard` — the readers of an identifier are its read-only mappings.
* `Store.readLeases_run` — registries of readers, in use by themselves and in file repositories.
-/

set_option autoImplicit false

namespace ClaimStore

/-! ### Read-only mappings -/

/-- The holder is a read-only mapping of an identifier of a repository, which was not unmapped. -/
def Holder.mapsReadOnly (y : Holder) (r : RepositoryId) (x : String) : Bool :=
  !y.ended && y.identifier == x && y.grip == .mapping r true

/-- What it means to map an identifier read-only: a live read-only mapping of it. -/
lemma Holder.mapsReadOnly_iff {y : Holder} {r : RepositoryId} {x : String} :
    y.mapsReadOnly r x = true ↔ y.ended = false ∧ y.identifier = x ∧ y.grip = .mapping r true := by
  simp [mapsReadOnly, and_assoc]

/-- The handle is a read-only mapping of an identifier of a repository, and not unmapped or
dropped. -/
def Ledger.mapsReadOnly (l : Ledger) (r : RepositoryId) (x : String) (h : HandleId) : Bool :=
  (l h).any fun y => y.mapsReadOnly r x

namespace Store

variable {κ : Type} {s s' : Store κ} {l : Ledger} {o : Option Holder} {y : Handle}
  {r : RepositoryId} {D : Path} {w g : RegistryId}

/-- No two repositories share a registry of readers. -/
def ReadersApart (s : Store κ) : Prop :=
  ∀ r r' D D' w w' g, s.backendOf? r = some (.files D w g) →
    s.backendOf? r' = some (.files D' w' g) → r = r'

/-- That no registry is shared depends on the repositories only. -/
lemma ReadersApart.of_repositories (h : s.ReadersApart)
    (hr : s'.repositories = s.repositories) : s'.ReadersApart :=
  fun r r' D D' w w' g hb hb' => h r r' D D' w w' g ((backendOf?_congr hr r).symm.trans hb)
    ((backendOf?_congr hr r').symm.trans hb')

/-! ### What handles hold -/

/-- A mapping holds a read lease exactly if it is a read-only one of a file repository. -/
lemma mappingLease_eq_read {b : Backend} {x x' : String} {readOnly : Bool} :
    b.mappingLease x readOnly = some (.read g x') ↔
      readOnly = true ∧ (∃ D w, b = .files D w g) ∧ x = x' := by
  cases b <;> cases readOnly <;> simp [Backend.mappingLease]

/-- The read leases of a registry are those of the read-only mappings of its repository. -/
lemma leaseOf?_eq_read (hb : s.backendOf? r = some (.files D w g)) (ha : s.ReadersApart)
    {x : String} {y : Holder} : s.leaseOf? y = some (.read g x) ↔ y.mapsReadOnly r x = true := by
  obtain ⟨c, x', grip, ended⟩ := y
  rw [Holder.mapsReadOnly_iff]
  cases ended with
  | true => simp [leaseOf?]
  | false =>
    cases grip with
    | reference => simp [leaseOf?]
    | reader r' => simp [leaseOf?]
    | writer r' => simp [leaseOf?]
    | mapping r' readOnly =>
      simp only [leaseOf?, Bool.false_eq_true, if_false, Option.bind_eq_some_iff,
        mappingLease_eq_read, Grip.mapping.injEq, true_and]
      constructor
      · rintro ⟨b, hb', hro, ⟨D', w', rfl⟩, hx⟩
        exact ⟨hx, ha r' r D' D w' w g hb' hb, hro⟩
      · rintro ⟨hx, rfl, hro⟩
        exact ⟨_, hb, hro, ⟨D, w, rfl⟩, hx⟩

/-- **A handle holds one read lease** exactly if it is such a mapping. -/
lemma count_readLease (hd : Described s o y) (hb : s.backendOf? r = some (.files D w g))
    (ha : s.ReadersApart) (x : String) : y.resources.count (.lease (.read g x)) =
      if o.any (fun y => y.mapsReadOnly r x) = true then 1 else 0 := by
  rw [count_lease hd]
  refine if_congr ?_ rfl rfl
  rw [Option.bind_eq_some_iff, Option.any_eq_true]
  exact exists_congr fun z => and_congr_right fun _ => leaseOf?_eq_read hb ha

/-! ### What the registry counts -/

/-- Only finitely many handles are read-only mappings. -/
lemma Tells.finite_mapsReadOnly (ht : Tells l s) (r : RepositoryId) (x : String) :
    {h | l.mapsReadOnly r x h = true}.Finite :=
  ht.finite_entries _

/-- **The readers of an identifier are its read-only mappings.** -/
lemma Tells.readers_ncard (ht : Tells l s) (hs : s.Sound) (ha : s.ReadersApart)
    (hb : s.backendOf? r = some (.files D w g)) (x : String) :
    (s.readerRegistry g).readers x = {h | l.mapsReadOnly r x h = true}.ncard :=
  calc (s.readerRegistry g).readers x
      = s.held (.lease (.read g x)) := hs.balanced (.lease (.read g x)) rfl
    _ = ((Finset.range s.handles.length).filter fun h => l.mapsReadOnly r x h = true).card :=
        ht.held_eq_card fun h y hy => count_readLease (ht.described h y hy) hb ha x
    _ = {h | l.mapsReadOnly r x h = true}.ncard := ht.card_entries _

/-- Somebody reads an identifier exactly if there is a read-only mapping of it. -/
lemma Tells.readers_pos_iff (ht : Tells l s) (hs : s.Sound) (ha : s.ReadersApart)
    (hb : s.backendOf? r = some (.files D w g)) (x : String) :
    0 < (s.readerRegistry g).readers x ↔ ∃ h, l.mapsReadOnly r x h = true := by
  rw [ht.readers_ncard hs ha hb, Set.ncard_pos (ht.finite_mapsReadOnly r x)]
  rfl

variable [DecidableEq κ] [ToString κ]

/-- **What the leases of a registry of readers are**, with respect to the ledger of the callers. -/
structure ReadMapped (l : Ledger) (s : Store κ) (r : RepositoryId) (g : RegistryId) : Prop where
  /-- A handle holds a lease of an identifier exactly if it is a read-only mapping of it, and then
  it holds one. -/
  count_lease : ∀ x h y, s.handle? h = some y →
    y.resources.count (.lease (.read g x)) = (l.mapsReadOnly r x h).toNat
  /-- The readers of an identifier are these mappings. -/
  readers_eq : ∀ x, (s.readerRegistry g).readers x = {h | l.mapsReadOnly r x h = true}.ncard
  /-- They are finitely many. -/
  finite : ∀ x, {h | l.mapsReadOnly r x h = true}.Finite
  /-- An identifier has an entry exactly while there is one. -/
  mem_iff : ∀ x n, (x, n) ∈ (s.readerRegistry g).mapped ↔
    n = {h | l.mapsReadOnly r x h = true}.ncard ∧ 0 < n
  /-- Where there is none, an action on files that waits for the readers of the identifier is run,
  by itself or behind a gate. -/
  unread : ∀ {σ α : Type} x (act : σ → σ × Except Failure α) (z : σ),
    (∀ h, l.mapsReadOnly r x h = false) → (s.readerRegistry g).exclusive x act z = act z ∧
      s.passGate (.readers g x) act z = act z
  /-- Where there is one, it is refused. -/
  read : ∀ {σ α : Type} x (act : σ → σ × Except Failure α) (z : σ) h,
    l.mapsReadOnly r x h = true →
      (s.readerRegistry g).exclusive x act z = (z, .error (.content (.writerActive x))) ∧
        s.passGate (.readers g x) act z = (z, .error (.content (.writerActive x)))
  /-- An open that fails, whatever it fails over, leaves all leases as they were. -/
  failed : ∀ f c (o : ContentOpen) s' e D w, s.backend? r = some (.files D w g) →
    s.openContentWith f r c o = (s', .error e) →
      s'.readerRegistries = s.readerRegistries ∧ s'.handles = s.handles

/-- **A ledger that tells what the handles are tells the leases.** -/
lemma Tells.readMapped (ht : Tells l s) (hs : s.Sound) (ha : s.ReadersApart)
    (hb : s.backendOf? r = some (.files D w g)) : ReadMapped l s r g where
  count_lease x h y hy := by
    rw [count_readLease (ht.described h y hy) hb ha x]
    show _ = ((l h).any fun y => y.mapsReadOnly r x).toNat
    cases (l h).any fun y => y.mapsReadOnly r x <;> rfl
  readers_eq := ht.readers_ncard hs ha hb
  finite := ht.finite_mapsReadOnly r
  mem_iff x n := by rw [ReaderRegistry.mem_mapped_iff, ht.readers_ncard hs ha hb]
  unread {σ α} x act z hnone := by
    have hzero : ¬ 0 < (s.readerRegistry g).readers x := fun hpos => by
      obtain ⟨h, hh⟩ := (ht.readers_pos_iff hs ha hb x).1 hpos
      exact Bool.false_ne_true ((hnone h).symm.trans hh)
    exact ⟨if_neg hzero, if_neg hzero⟩
  read {σ α} x act z h hh := by
    have hpos := (ht.readers_pos_iff hs ha hb x).2 ⟨h, hh⟩
    exact ⟨if_pos hpos, if_pos hpos⟩
  failed f c o s' e D w hb hopen := by
    obtain ⟨hrest, -⟩ := openInFilesWith_error (openContentWith_files hb f c o ▸ hopen)
    rw [hrest]
    exact ⟨rfl, rfl⟩

/-! ### Registries stay apart -/

/-- **A repository that is opened has a registry of its own**, and all others keep theirs. -/
lemma ReadersApart.stepUnder (h : s.ReadersApart) (ht : Tells l s) (hs : s.Sound) (f : Faults)
    (op : Operation κ) : (s.stepUnder f op).ReadersApart := by
  intro r r' D D' w w' g hb hb'
  -- the registry of an old repository is not the one after all of them
  have known : ∀ {r D w}, s.backendOf? r = some (.files D w g) → g ≠ s.readerRegistries.length :=
    fun hold => Nat.ne_of_lt (hs.knows_backendOf? hold).2
  rcases ht.files_back hs f op hb with hold | ⟨hr, -, hg⟩ <;>
    rcases ht.files_back hs f op hb' with hold' | ⟨hr', -, hg'⟩
  · exact h r r' D D' w w' g hold hold'
  · exact absurd hg' (known hold)
  · exact absurd hg (known hold')
  · exact hr.trans hr'.symm

/-- Actions keep the registries of readers apart. -/
lemma ReadersApart.act (h : s.ReadersApart) (ht : Tells l s) (hs : s.Sound) (a : Action κ) :
    (s.act a).ReadersApart := by
  cases a with
  | operate f op => exact h.stepUnder ht hs f op
  | mapFile p n readOnly gate => exact h.of_repositories (repositories_mapFile s p n readOnly gate)
  | mapBuffer b readOnly capacity => exact h
  | resize f map n => exact h.of_repositories (repositories_resizeWith f s map n)

/-- So do trials. -/
lemma ReadersApart.attempt (h : s.ReadersApart) (hs : Settled l s) (t : Trial κ) :
    (s.attempt t).ReadersApart := by
  rcases attempt_cases l s t with ⟨a, heq, -⟩ | ⟨d, -, heq, -⟩
  · rw [heq]
    exact h.act hs.tells hs.ordered.sound a
  · rw [heq]
    exact h

/-- **No two repositories share a registry of readers**, after all trials. -/
lemma readersApart_trials (name : String) (ts : List (Trial κ)) :
    ((onDirectory name : Store κ).trials ts).ReadersApart := by
  refine (trial_induction (P := fun s l => Settled l s ∧ s.ReadersApart)
    (fun s l t h => ⟨h.1.attempt t, h.2.attempt h.1 t⟩) ⟨settled_onDirectory name, ?_⟩ ts).2
  intro r r' D D' w w' g hb
  cases hb

/-! ### Runs -/

/-- **Registries of readers**: whatever leases and gates are taken from one, it guards its
identifiers; and whatever is tried with a store, the leases in the registry of a file repository are
those of its read-only mappings. -/
theorem readLeases_run {σ : Type} (subject : σ) (calls : List (DeskCall σ)) (name : String)
    (ts : List (Trial κ)) :
    ((ReaderDesk.new subject).run calls).Guarded ∧
      ∀ r D w g, ((onDirectory name : Store κ).trials ts).backendOf? r = some (.files D w g) →
        ReadMapped (Ledger.empty.trials (onDirectory name) ts) ((onDirectory name).trials ts)
          r g := by
  refine ⟨(ReaderDesk.counted_run subject calls).guarded, fun r D w g hb => ?_⟩
  have hsettled := settled_trials (κ := κ) name ts
  exact hsettled.tells.readMapped hsettled.ordered.sound (readersApart_trials name ts) hb

/-- A file is made and mapped read-only, and then once more, which fails because it is too short. -/
def emptyFileRead : List (Trial Nat) :=
  [.act (.operate .quiet (.openRepository (.files (.ofString "d")))),
    .act (.operate .quiet (.addClaim "x" (some 0))),
    .openContent .quiet 0 0 (.write true),
    .openContent .quiet 0 0 (.map 0 true),
    .openContent .quiet 0 0 (.map 1 true)]

/-- Two leases are taken and one is dropped; then an action waits behind a gate, and another one for
the readers of another identifier. -/
def leaseLeft : List (DeskCall Nat) :=
  [.gate "x", .acquire "x", .acquire "x", .drop 0, .truncate 0 fun n => (n + 1, .ok ()),
    .exclusive "y" fun n => (n + 2, .ok ())]

/-- One lease is left in both. -/
theorem readLeases_emptyFileRead :
    ((ReaderDesk.new 0).run leaseLeft).Guarded ∧
      ((ReaderDesk.new 0).run leaseLeft).registry.mapped = [("x", 1)] ∧
      ((ReaderDesk.new 0).run leaseLeft).subject = 2 ∧
      ((onDirectory "d" : Store).trials emptyFileRead).backendOf? 0 =
        some (.files (.ofString "d") 0 0) ∧
      ReadMapped (Ledger.empty.trials (onDirectory "d" : Store) emptyFileRead)
        ((onDirectory "d").trials emptyFileRead) 0 0 ∧
      (((onDirectory "d" : Store).trials emptyFileRead).readerRegistry 0).mapped = [("x", 1)] := by
  have hb : ((onDirectory "d" : Store).trials emptyFileRead).backendOf? 0 =
      some (.files (.ofString "d") 0 0) := by decide +kernel
  obtain ⟨hguarded, hmapped⟩ := readLeases_run 0 leaseLeft "d" emptyFileRead
  exact ⟨hguarded, by decide +kernel, by decide +kernel, hb, hmapped 0 _ 0 0 hb, by decide +kernel⟩

end Store

end ClaimStore
