import ClaimStore.Proofs.PlainName
import ClaimStore.Proofs.SoundSteps

/-!
# Files under mappings

The invariant of a file repository that alone touches its directory: every mapping is of a file,
holds a lease of the identifier under which the file was opened, and no file is mapped under two
identifiers. So whoever holds the write lease of an identifier, with no read lease of it live, may
cut its file: nothing shows it.

## Main definitions

* `Mapping.Maps` — a mapping of a file under an identifier.
* `Store.Tidy` — the invariant.
* `Store.Stays`, `Store.Keeps` — what most operations leave alone.
* `Store.Adds` — a step that makes a mapping at most.
* `Store.Covered` — every mapping that shows bytes lies inside its file.

## Main results

* `Store.Tidy.stays` — the invariant lasts where mappings are left alone.
* `Store.Tidy.adds` — the invariant lasts where a file is mapped that is long enough.
* `Store.Tidy.not_maps` — no file is mapped under an identifier whose leases are free.
* `Store.Tidy.eq_of_writable` — an identifier has one writable mapping at most.
-/

set_option autoImplicit false

namespace ClaimStore

variable {w g : RegistryId} {m m' : Mapping} {id : FileId} {x y : String}

/-! ### Mappings of files -/

/-- The file that is open, if it is one. -/
def FileBacking.openFile? (b : FileBacking) : Option FileId :=
  match b.opened with
  | some (.file id) => some id
  | some (.directory _) | none => none

namespace Mapping

/-- The part of a file that a mapping shows, if it is a mapping of a file. -/
def file? (m : Mapping) : Option FileBacking :=
  match m.backing with
  | .file b => some b
  | .entry _ | .buffer _ => none

/-- The file that a mapping has open. -/
def opened? (m : Mapping) : Option FileId := m.file?.bind (·.openFile?)

/-- What has to agree before a mapping becomes shorter. -/
def gate? (m : Mapping) : Option Gate := m.file?.bind (·.gate)

/-- The lease of an identifier that a mapping in a file repository holds. -/
def leaseOf (w g : RegistryId) (m : Mapping) (x : String) : Lease :=
  if m.readOnly then .read g x else .write w x

/-- A mapping of a file under an identifier: it has the file open, holds a lease of the
identifier, and if it is writable, asks the readers of the identifier before it becomes shorter. -/
structure Maps (w g : RegistryId) (m : Mapping) (id : FileId) (x : String) : Prop where
  /-- The file is open. -/
  opened_eq : m.opened? = some id
  /-- The lease is held. -/
  lease_mem : Resource.lease (m.leaseOf w g x) ∈ m.hooks.resources
  /-- The readers are asked. -/
  gate_eq : m.readOnly = false → m.gate? = some (.readers g x)

/-- A mapping as a file repository makes it. -/
structure Formed (w g : RegistryId) (m : Mapping) : Prop where
  /-- It is a mapping of a file. -/
  of_file : ∃ b, m.backing = .file b
  /-- The file stays open as long as bytes are shown. -/
  opened_of_valid : m.backing.isValid = true → ∃ id, m.opened? = some id
  /-- The file is open under an identifier. -/
  maps : ∀ id, m.opened? = some id → ∃ x, m.Maps w g id x

/-- A mapping that has open what another one had, under the same lease, or nothing. -/
structure Stays (m m' : Mapping) : Prop where
  /-- A mapping of a file stays one. -/
  of_file : (∃ b, m.backing = .file b) → ∃ b, m'.backing = .file b
  /-- The file stays open as long as bytes are shown. -/
  opened_of_valid : (m.backing.isValid = true → ∃ id, m.opened? = some id) →
    m'.backing.isValid = true → ∃ id, m'.opened? = some id
  /-- The file that is open was open, under the same lease and the same gate. -/
  open_eq : ∀ id, m'.opened? = some id → m.opened? = some id ∧ m'.readOnly = m.readOnly ∧
    m'.gate? = m.gate? ∧ m'.hooks.resources = m.hooks.resources

/-- A mapping that goes on from another one: it shows what that one showed, or nothing. -/
structure Follows (m m' : Mapping) : Prop where
  /-- A mapping of a file stays one. -/
  of_file : (∃ b, m.backing = .file b) → ∃ b, m'.backing = .file b
  /-- What is shown is what was shown. -/
  shown_eq : m'.backing.isValid = true → m'.backing = m.backing
  /-- The file that is open was open, under the same lease and the same gate. -/
  open_eq : ∀ id, m'.opened? = some id → m.opened? = some id ∧ m'.readOnly = m.readOnly ∧
    m'.gate? = m.gate? ∧ m'.hooks.resources = m.hooks.resources

/-- A mapping goes on from itself. -/
lemma Follows.refl (m : Mapping) : Follows m m :=
  ⟨fun h => h, fun _ => rfl, fun _ h => ⟨h, rfl, rfl, rfl⟩⟩

/-- It goes on step after step. -/
lemma Follows.trans {m'' : Mapping} (h : Follows m m') (h' : Follows m' m'') :
    Follows m m'' where
  of_file hf := h'.of_file (h.of_file hf)
  shown_eq hv := by
    have hb := h'.shown_eq hv
    rw [hb] at hv
    exact hb.trans (h.shown_eq hv)
  open_eq id ho := by
    obtain ⟨ho', hr', hg', hh'⟩ := h'.open_eq id ho
    obtain ⟨ho'', hr, hg, hh⟩ := h.open_eq id ho'
    exact ⟨ho'', hr'.trans hr, hg'.trans hg, hh'.trans hh⟩

/-- The same backing has the same file open. -/
lemma opened?_congr (h : m'.backing = m.backing) : m'.opened? = m.opened? := by
  rw [opened?, opened?, file?, file?, h]

/-- The file that a mapping of an open file has open. -/
lemma opened?_of_file {b : FileBacking} (hb : m.backing = .file b)
    (ho : b.opened = some (.file id)) : m.opened? = some id := by
  rw [opened?, file?, hb]
  show b.openFile? = some id
  rw [FileBacking.openFile?, ho]

/-- One that goes on keeps its file. -/
lemma Follows.stays (h : Follows m m') : Stays m m' where
  of_file := h.of_file
  opened_of_valid hm hv := by
    have hb := h.shown_eq hv
    rw [opened?_congr hb]
    exact hm (hb ▸ hv)
  open_eq := h.open_eq

/-- A mapping that stays is of the same file, under the same identifier. -/
lemma Stays.maps_iff (h : Stays m m') (ho : m'.opened? = some id) :
    m'.Maps w g id x ↔ m.Maps w g id x := by
  obtain ⟨ho', hr, hg, hh⟩ := h.open_eq id ho
  constructor
  · intro hm
    refine ⟨ho', ?_, fun hro => ?_⟩
    · have hlease := hm.lease_mem
      rw [hh, leaseOf, hr] at hlease
      exact hlease
    · rw [← hg]
      exact hm.gate_eq (hr.trans hro)
  · intro hm
    refine ⟨ho, ?_, fun hro => ?_⟩
    · rw [hh, leaseOf, hr]
      exact hm.lease_mem
    · rw [hg]
      exact hm.gate_eq (hr.symm.trans hro)

/-- What stays of a mapping of a file repository is one. -/
lemma Formed.stays (hm : m.Formed w g) (h : Stays m m') : m'.Formed w g where
  of_file := h.of_file hm.of_file
  opened_of_valid := h.opened_of_valid hm.opened_of_valid
  maps id ho := by
    obtain ⟨x, hx⟩ := hm.maps id (h.open_eq id ho).1
    exact ⟨x, (h.maps_iff ho).2 hx⟩

/-- A mapping with the same backing that holds the same. -/
lemma follows_hooks (m : Mapping) {hooks : UnmapHooks}
    (h : hooks.resources = m.hooks.resources) : Follows m { m with hooks } :=
  ⟨fun hf => hf, fun _ => rfl, fun _ ho => ⟨ho, rfl, rfl, h⟩⟩

/-- A mapping of a file without its view. -/
lemma follows_unmapped {b : FileBacking} (hb : m.backing = .file b) :
    Follows m { m with backing := .file { b with region := .unmapped } } := by
  refine ⟨fun _ => ⟨_, rfl⟩, fun hv => (by cases hv), fun id ho => ?_⟩
  have hopened : m.opened? = some id := by
    rw [opened?, file?, hb]
    exact ho
  have hgate : m.gate? = b.gate := by
    rw [gate?, file?, hb]
    rfl
  exact ⟨hopened, rfl, hgate.symm, rfl⟩

/-- A mapping that was unmapped. -/
lemma follows_closed (m : Mapping) (hooks : UnmapHooks) :
    Follows m { m with backing := m.backing.closed, hooks } := by
  obtain ⟨backing, readOnly, -⟩ := m
  cases backing with
  | file b => exact ⟨fun _ => ⟨_, rfl⟩, fun hv => (by cases hv), fun id ho => (by cases ho)⟩
  | entry b =>
    refine ⟨fun ⟨_, hf⟩ => (by cases hf), fun hv => ?_, fun id ho => (by cases ho)⟩
    have hreleased : (b.borrow.isSome && false) = true := hv
    rw [Bool.and_false] at hreleased
    cases hreleased
  | buffer b =>
    exact ⟨fun ⟨_, hf⟩ => (by cases hf), fun hv => (by cases hv), fun id ho => (by cases ho)⟩

end Mapping

namespace Store

variable {κ : Type} {D : Path} {s s' s'' : Store κ}

/-! ### The invariant -/

/-- **A file repository in order**: `D` is the directory of all repositories that are open, `w` and
`g` are their registries. -/
structure Tidy (D : Path) (w g : RegistryId) (s : Store κ) : Prop where
  /-- Every counter agrees with the handles. -/
  sound : s.Sound
  /-- Each file has one name at most. -/
  disk_sound : s.disk.Sound
  /-- Repositories that are open keep their content below the directory. -/
  backend_eq : ∀ r b, s.backend? r = some b → b = .files D w g
  /-- Identifiers are plain names. -/
  plain : ∀ x ∈ s.claims, Plain x.identifier
  /-- Mappings are as the repository makes them. -/
  formed : ∀ h m, s.mapping? h = some m → m.Formed w g
  /-- A file that is mapped has no other name than the identifier. -/
  placed : ∀ h m id x, s.mapping? h = some m → m.Maps w g id x → id < s.disk.contents.size ∧
    ∀ i name, (s.disk.entries i).lookup name = some (.file id) → name = x
  /-- No file is mapped under two identifiers. -/
  agree : ∀ h h' m m' id x y, s.mapping? h = some m → s.mapping? h' = some m' →
    m.Maps w g id x → m'.Maps w g id y → x = y

/-- **Every mapping that shows bytes lies inside its file**: the file that it has open is at least
as long as the size of the mapping. -/
def Covered (s : Store κ) : Prop :=
  ∀ h m, s.mapping? h = some m → m.backing.isValid = true →
    ∃ id, m.opened? = some id ∧ s.mappingSize m ≤ (s.disk.bytes id).size

/-- The size of a mapping that shows part of a file. -/
lemma mappingSize_file (s : Store κ) {b : FileBacking} (hb : m.backing = .file b)
    (hv : m.backing.isValid = true) : s.mappingSize m = b.length := by
  have hregion : b.region ≠ .unmapped := by
    rw [hb] at hv
    simpa [Backing.isValid] using hv
  rw [mappingSize, hb]
  exact if_neg hregion

/-- What an operation that opens no mapping leaves alone. -/
structure Stays (s s' : Store κ) : Prop where
  /-- The disk is extended. -/
  disk_extends : s.disk.Extends s'.disk
  /-- Repositories that are open were open. -/
  backend_eq : ∀ r b, s'.backend? r = some b → s.backend? r = some b
  /-- Identifiers stay plain names. -/
  plain : (∀ x ∈ s.claims, Plain x.identifier) → ∀ x ∈ s'.claims, Plain x.identifier
  /-- Mappings stay. -/
  stays : ∀ h m', s'.mapping? h = some m' → ∃ m, s.mapping? h = some m ∧ m.Stays m'

/-- What an operation that opens no mapping and resizes none leaves alone. -/
structure Keeps (s s' : Store κ) : Prop where
  /-- The disk is extended. -/
  disk_extends : s.disk.Extends s'.disk
  /-- Repositories that are open were open. -/
  backend_eq : ∀ r b, s'.backend? r = some b → s.backend? r = some b
  /-- Identifiers stay plain names. -/
  plain : (∀ x ∈ s.claims, Plain x.identifier) → ∀ x ∈ s'.claims, Plain x.identifier
  /-- Mappings go on from what they were. -/
  follows : ∀ h m', s'.mapping? h = some m' → ∃ m, s.mapping? h = some m ∧ m.Follows m'
  /-- Files that are mapped did not become shorter. -/
  size_le : ∀ h m' id, s'.mapping? h = some m' → m'.opened? = some id →
    (s.disk.bytes id).size ≤ (s'.disk.bytes id).size

/-- Nothing at all leaves all alone. -/
lemma Keeps.refl (s : Store κ) : Keeps s s where
  disk_extends := .refl _
  backend_eq _ _ h := h
  plain h := h
  follows _ m h := ⟨m, h, .refl m⟩
  size_le _ _ _ _ _ := Nat.le_refl _

/-- Two such operations, one after the other. -/
lemma Keeps.trans (h : Keeps s s') (h' : Keeps s' s'') : Keeps s s'' where
  disk_extends := h.disk_extends.trans h'.disk_extends
  backend_eq r b hb := h.backend_eq r b (h'.backend_eq r b hb)
  plain hp := h'.plain (h.plain hp)
  follows i m'' hm'' := by
    obtain ⟨m', hm', hf'⟩ := h'.follows i m'' hm''
    obtain ⟨m, hm, hf⟩ := h.follows i m' hm'
    exact ⟨m, hm, hf.trans hf'⟩
  size_le i m'' id hm'' ho := by
    obtain ⟨m', hm', hf'⟩ := h'.follows i m'' hm''
    exact Nat.le_trans (h.size_le i m' id hm' (hf'.open_eq id ho).1) (h'.size_le i m'' id hm'' ho)

/-- What leaves the lengths alone leaves the mappings their files. -/
lemma Keeps.stays (h : Keeps s s') : Stays s s' where
  disk_extends := h.disk_extends
  backend_eq := h.backend_eq
  plain := h.plain
  stays i m' hm' := by
    obtain ⟨m, hm, hf⟩ := h.follows i m' hm'
    exact ⟨m, hm, hf.stays⟩

/-- A mapping of the new state stays from an old one, of the same file. -/
lemma Stays.maps (h : Stays s s') {i : HandleId} (hm' : s'.mapping? i = some m')
    (hmaps : m'.Maps w g id x) : ∃ m, s.mapping? i = some m ∧ m.Maps w g id x := by
  obtain ⟨m, hm, hf⟩ := h.stays i m' hm'
  exact ⟨m, hm, (hf.maps_iff hmaps.opened_eq).1 hmaps⟩

/-- The names of a file that is mapped, after its disk was extended. -/
lemma Tidy.placed_of_extends (ht : Tidy D w g s) {d : Disk} (hd : s.disk.Extends d) {i : HandleId}
    (hm : s.mapping? i = some m) (hmaps : m.Maps w g id x) : id < d.contents.size ∧
      ∀ j name, (d.entries j).lookup name = some (.file id) → name = x := by
  obtain ⟨hlt, hname⟩ := ht.placed i m id x hm hmaps
  exact ⟨Nat.lt_of_lt_of_le hlt hd.contents_le,
    fun j name hl => hname j name (hd.file_eq j name id hlt hl)⟩

/-- **The invariant lasts where mappings stay.** -/
lemma Tidy.stays (ht : Tidy D w g s) (h : Stays s s') (hs' : s'.Sound) : Tidy D w g s' where
  sound := hs'
  disk_sound := h.disk_extends.sound ht.disk_sound
  backend_eq r b hb := ht.backend_eq r b (h.backend_eq r b hb)
  plain := h.plain ht.plain
  formed i m' hm' := by
    obtain ⟨m, hm, hf⟩ := h.stays i m' hm'
    exact (ht.formed i m hm).stays hf
  placed i m' id x hm' hmaps' := by
    obtain ⟨m, hm, hmaps⟩ := h.maps hm' hmaps'
    exact ht.placed_of_extends h.disk_extends hm hmaps
  agree i j m' n' id x y hm' hn' hmaps' hmaps'' := by
    obtain ⟨m, hm, hmaps⟩ := h.maps hm' hmaps'
    obtain ⟨n, hn, hnmaps⟩ := h.maps hn' hmaps''
    exact ht.agree i j m n id x y hm hn hmaps hnmaps

/-- **Mappings stay inside their files where they are left alone.** -/
lemma Covered.keeps (hc : Covered s) (ht : Tidy D w g s) (h : Keeps s s') : Covered s' := by
  intro i m' hm' hv'
  obtain ⟨m, hm, hf⟩ := h.follows i m' hm'
  have hb := hf.shown_eq hv'
  have hv : m.backing.isValid = true := hb ▸ hv'
  obtain ⟨id, ho, hle⟩ := hc i m hm hv
  obtain ⟨b, hfile⟩ := (ht.formed i m hm).of_file
  have ho' : m'.opened? = some id := (Mapping.opened?_congr hb).trans ho
  have hsize : s'.mappingSize m' = s.mappingSize m := by
    rw [mappingSize_file s' (hb.trans hfile) hv', mappingSize_file s hfile hv]
  exact ⟨id, ho', hsize ▸ Nat.le_trans hle (h.size_le i m' id hm' ho')⟩

/-! ### New mappings -/

/-- A mapping after a handle was added is that handle or an old one. -/
lemma mapping?_addHandle {a : Handle} {h : HandleId}
    (hm : (s.addHandle a).1.mapping? h = some m) : a = .mapping m ∨ s.mapping? h = some m := by
  rw [mapping?_eq_some] at hm
  rcases handle?_addHandle hm with ⟨-, ha⟩ | hold
  · exact .inl ha.symm
  · exact .inr (mapping?_eq_some.2 hold)

/-- A handle that is no mapping may be added. -/
lemma keeps_addHandle (s : Store κ) {a : Handle} (ha : ∀ m, a ≠ .mapping m) :
    Keeps s (s.addHandle a).1 :=
  ⟨.refl _, fun _ _ h => h, fun h => h,
    fun _ m hm => ⟨m, (mapping?_addHandle hm).resolve_left (ha m), .refl m⟩,
    fun _ _ _ _ _ => Nat.le_refl _⟩

/-- A step that leaves mappings alone and makes one at most: of a file under its name, inside the
file. -/
inductive Adds (w g : RegistryId) (s s' : Store κ) : Prop
  /-- A new mapping. -/
  | made (s₁ : Store κ) (m : Mapping) (b : FileBacking) (id : FileId) (x : String)
      (keeps : Keeps s s₁) (of_file : m.backing = .file b) (maps : m.Maps w g id x)
      (unique : ∀ y, m.Maps w g id y → y = x)
      (found : ∃ i, (s₁.disk.entries i).lookup x = some (.file id))
      (length_le : b.length ≤ (s₁.disk.bytes id).size) (eq : s' = (s₁.addHandle (.mapping m)).1)
  /-- No new mapping. -/
  | nothing (keeps : Keeps s s')

/-- **The invariant lasts where a file is mapped** under its name, and mappings stay inside their
files where the file is long enough.

**Proof sketch.** A new mapping has the file that stands under its name, and no other name stands
for that file. A mapping from before of the same file is under the same name, as the invariant says
where its name stands. All others go on. -/
lemma Tidy.adds (ht : Tidy D w g s) (h : Adds w g s s'') (hs'' : s''.Sound) :
    Tidy D w g s'' ∧ (Covered s → Covered s'') := by
  cases h with
  | nothing h => exact ⟨ht.stays h.stays hs'', fun hc => hc.keeps ht h⟩
  | made s' m b id x h hb hmaps hunique hfound hlen heq =>
    subst heq
    have hd' := h.disk_extends.sound ht.disk_sound
    obtain ⟨i, hi⟩ := hfound
    have hid : id < s'.disk.contents.size := hd'.file_lt i x id hi
    -- the file was not mapped before under another identifier
    have hold : ∀ j n y, s'.mapping? j = some n → n.Maps w g id y → y = x := by
      intro j n' y hn' hnmaps'
      obtain ⟨n, hn, hnmaps⟩ := h.stays.maps hn' hnmaps'
      exact ((ht.placed_of_extends h.disk_extends hn hnmaps).2 i x hi).symm
    have hopen : ∀ id', m.opened? = some id' → id' = id := fun id' ho =>
      Option.some.inj (ho.symm.trans hmaps.opened_eq)
    refine ⟨⟨hs'', hd', fun r b hb => ht.backend_eq r b (h.backend_eq r b hb), h.plain ht.plain,
      fun j n hn => ?_, fun j n id' y hn hnmaps => ?_,
      fun j k n n' id' y z hn hn' hnmaps hnmaps' => ?_⟩, fun hc j n hn hv => ?_⟩
    · rcases mapping?_addHandle hn with hnew | hn
      · obtain rfl := Handle.mapping.inj hnew
        refine ⟨⟨b, hb⟩, fun _ => ⟨id, hmaps.opened_eq⟩, fun id' ho => ⟨x, ?_⟩⟩
        exact hopen id' ho ▸ hmaps
      · obtain ⟨n₀, hn₀, hf⟩ := h.follows j n hn
        exact (ht.formed j n₀ hn₀).stays hf.stays
    · rcases mapping?_addHandle hn with hnew | hn
      · obtain rfl := Handle.mapping.inj hnew
        obtain rfl := hopen id' hnmaps.opened_eq
        obtain rfl := hunique y hnmaps
        exact ⟨hid, fun j name hl => (hd'.name_inj j i name y id' hl hi).2⟩
      · obtain ⟨n₀, hn₀, hnmaps₀⟩ := h.stays.maps hn hnmaps
        exact ht.placed_of_extends h.disk_extends hn₀ hnmaps₀
    · rcases mapping?_addHandle hn with hnew | hn <;> rcases mapping?_addHandle hn' with hnew' | hn'
      · obtain rfl := Handle.mapping.inj hnew
        obtain rfl := Handle.mapping.inj hnew'
        obtain rfl := hopen id' hnmaps.opened_eq
        exact (hunique y hnmaps).trans (hunique z hnmaps').symm
      · obtain rfl := Handle.mapping.inj hnew
        obtain rfl := hopen id' hnmaps.opened_eq
        exact (hunique y hnmaps).trans (hold k n' z hn' hnmaps').symm
      · obtain rfl := Handle.mapping.inj hnew'
        obtain rfl := hopen id' hnmaps'.opened_eq
        exact (hold j n y hn hnmaps).trans (hunique z hnmaps').symm
      · obtain ⟨n₀, hn₀, hnmaps₀⟩ := h.stays.maps hn hnmaps
        obtain ⟨n₀', hn₀', hnmaps₀'⟩ := h.stays.maps hn' hnmaps'
        exact ht.agree j k n₀ n₀' id' y z hn₀ hn₀' hnmaps₀ hnmaps₀'
    · rcases mapping?_addHandle hn with hnew | hn
      · obtain rfl := Handle.mapping.inj hnew
        exact ⟨id, hmaps.opened_eq, mappingSize_file _ hb hv ▸ hlen⟩
      · exact hc.keeps ht h j n hn hv

/-! ### Leases -/

/-- A mapping holds the lease of its identifier. -/
lemma count_lease_pos (hmaps : m.Maps w g id x) :
    0 < (Handle.mapping m).resources.count (.lease (m.leaseOf w g x)) := by
  refine List.count_pos_iff.2 ?_
  exact List.mem_append_left _ (List.mem_append_left _ hmaps.lease_mem)

/-- **No file is mapped read-only under an identifier that has no readers.** -/
lemma Tidy.writable_of_maps (ht : Tidy D w g s) (hr : (s.readerRegistry g).readers x = 0)
    {i : HandleId} (hm : s.mapping? i = some m) (hmaps : m.Maps w g id x) : m.readOnly = false := by
  by_contra hro
  have hpos := count_lease_pos hmaps
  rw [Mapping.leaseOf, if_pos (eq_true_of_ne_false hro)] at hpos
  have hle := count_le_held (mapping?_eq_some.1 hm) (.lease (.read g x))
  have hbal : (s.readerRegistry g).readers x = s.held (.lease (.read g x)) :=
    ht.sound.balanced (.lease (.read g x)) rfl
  omega

/-- **No file is mapped under an identifier whose leases are free.** -/
lemma Tidy.not_maps (ht : Tidy D w g s) (hw : (s.writerRegistry w).isWriting x = false)
    (hr : (s.readerRegistry g).readers x = 0) {i : HandleId} (hm : s.mapping? i = some m) :
    ¬ m.Maps w g id x := by
  intro hmaps
  have hro := ht.writable_of_maps hr hm hmaps
  have hpos := count_lease_pos hmaps
  rw [Mapping.leaseOf, hro, if_neg Bool.false_ne_true] at hpos
  have hle := count_le_held (mapping?_eq_some.1 hm) (.lease (.write w x))
  have hbal : s.counted (.lease (.write w x)) = s.held (.lease (.write w x)) :=
    ht.sound.balanced (.lease (.write w x)) rfl
  have hzero : s.counted (.lease (.write w x)) = 0 := by
    rw [counted, hw]
    rfl
  omega

/-- **No two writable mappings are under the same identifier.** -/
lemma Tidy.eq_of_writable (ht : Tidy D w g s) {i j : HandleId} {id' : FileId}
    (hm : s.mapping? i = some m) (hm' : s.mapping? j = some m') (hmaps : m.Maps w g id x)
    (hmaps' : m'.Maps w g id' x) (hro : m.readOnly = false) (hro' : m'.readOnly = false) :
    i = j := by
  by_contra hij
  have hpos := count_lease_pos hmaps
  have hpos' := count_lease_pos hmaps'
  rw [Mapping.leaseOf, hro, if_neg Bool.false_ne_true] at hpos
  rw [Mapping.leaseOf, hro', if_neg Bool.false_ne_true] at hpos'
  have hbal : s.counted (.lease (.write w x)) = s.held (.lease (.write w x)) :=
    ht.sound.balanced (.lease (.write w x)) rfl
  have hone : s.counted (.lease (.write w x)) ≤ 1 := by
    rw [counted]
    exact Bool.toNat_le _
  -- without the first mapping, the second one still holds the lease
  have hset := held_set (mapping?_eq_some.1 hm) none (.lease (.write w x))
  have hleft : ({ s with handles := s.handles.set i none } : Store κ).handle? j =
      some (.mapping m') := by
    rw [handle?_eq_some, List.getElem?_set_ne hij]
    exact handle?_eq_some.1 (mapping?_eq_some.1 hm')
  have hle := count_le_held hleft (.lease (.write w x))
  rw [heldBy] at hset
  omega

end Store

end ClaimStore
