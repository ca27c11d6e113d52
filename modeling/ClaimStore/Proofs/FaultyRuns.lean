import ClaimStore.Store.Faults
import ClaimStore.Proofs.SoundSteps

/-!
# Runs under faults

A run in which each operation meets faults of its own. Faults decide what is stored, and never what
is held: either an operation is refused before it changes anything, or it leads to a state that
agrees with the one that it leads to without faults, up to the disk, the rows and the log.

## Main definitions

* `Store.stepUnder`, `Store.runUnder` — one operation and a sequence of them, under faults.
* `Store.Alike` — two states that agree on all that is held.

## Main results

* `Store.stepUnder_quiet`, `Store.runUnder_quiet` — without faults these are the plain ones.
* `Store.stepUnder_cases` — an operation under faults is refused, or leads to an alike state.
* `Store.sound_runUnder` — every run under faults ends in a sound state.
-/

set_option autoImplicit false

namespace ClaimStore.Store

variable {κ : Type}

/-! ### States that hold the same -/

/-- Two states that agree on all that is held. -/
structure Alike (s s' : Store κ) : Prop where
  /-- The handles agree. -/
  handles_eq : s'.handles = s.handles
  /-- The claims agree. -/
  claims_eq : s'.claims = s.claims
  /-- The repositories agree. -/
  repositories_eq : s'.repositories = s.repositories
  /-- The tables agree. -/
  tables_eq : s'.tables = s.tables
  /-- The registries of writers agree. -/
  writerRegistries_eq : s'.writerRegistries = s.writerRegistries
  /-- The registries of readers agree. -/
  readerRegistries_eq : s'.readerRegistries = s.readerRegistries

variable {s s' s'' : Store κ}

namespace Alike

/-- A state is alike to itself. -/
lemma refl (s : Store κ) : Alike s s := ⟨rfl, rfl, rfl, rfl, rfl, rfl⟩

/-- Likeness goes both ways. -/
lemma symm (h : Alike s s') : Alike s' s :=
  ⟨h.handles_eq.symm, h.claims_eq.symm, h.repositories_eq.symm, h.tables_eq.symm,
    h.writerRegistries_eq.symm, h.readerRegistries_eq.symm⟩

/-- Likeness composes. -/
lemma trans (h : Alike s s') (h' : Alike s' s'') : Alike s s'' :=
  ⟨h'.handles_eq.trans h.handles_eq, h'.claims_eq.trans h.claims_eq,
    h'.repositories_eq.trans h.repositories_eq, h'.tables_eq.trans h.tables_eq,
    h'.writerRegistries_eq.trans h.writerRegistries_eq,
    h'.readerRegistries_eq.trans h.readerRegistries_eq⟩

/-- Alike states have the same handles. -/
lemma handle? (h : Alike s s') (i : HandleId) : s'.handle? i = s.handle? i := by
  rw [Store.handle?, Store.handle?, h.handles_eq]

/-- They have the same mappings. -/
lemma mapping? (h : Alike s s') (i : HandleId) : s'.mapping? i = s.mapping? i := by
  rw [Store.mapping?, Store.mapping?, h.handle?]

/-- They count the same resources. -/
lemma counted (h : Alike s s') (r : Resource) : s'.counted r = s.counted r :=
  counted_congr h.claims_eq h.writerRegistries_eq h.readerRegistries_eq h.tables_eq r

/-- They count the same references. -/
lemma references (h : Alike s s') (c : ClaimId) : s'.references c = s.references c :=
  h.counted (.reference c)

/-- The same is given back. -/
lemma release (h : Alike s s') (r : Resource) : Alike (s.release r) (s'.release r) := by
  obtain ⟨hh, hc, hr, ht, hw, hg⟩ := h
  rcases r with c | (⟨g, x⟩ | ⟨g, x⟩) | ⟨t, e⟩ | ⟨t, e⟩ | ⟨t, e⟩ | d
  · exact ⟨hh, congrArg (List.modify · c _) hc, hr, ht, hw, hg⟩
  · exact ⟨hh, hc, hr, ht, congrArg (List.modify · g _) hw, hg⟩
  · exact ⟨hh, hc, hr, ht, hw, congrArg (List.modify · g _) hg⟩
  · exact ⟨hh, hc, hr, congrArg (List.modify · t _) ht, hw, hg⟩
  · exact ⟨hh, hc, hr, congrArg (List.modify · t _) ht, hw, hg⟩
  · exact ⟨hh, hc, hr, congrArg (List.modify · t _) ht, hw, hg⟩
  · exact ⟨hh, hc, hr, ht, hw, hg⟩

/-- They stay alike when the same is given back. -/
lemma releaseAll (h : Alike s s') (rs : List Resource) :
    Alike (s.releaseAll rs) (s'.releaseAll rs) := by
  induction rs generalizing s s' with
  | nil => exact h
  | cons r rs ih => exact ih (h.release r)

/-- The same handle is replaced or taken away. -/
lemma set (h : Alike s s') (i : HandleId) (x : Option Handle) :
    Alike { s with handles := s.handles.set i x } { s' with handles := s'.handles.set i x } :=
  ⟨congrArg (List.set · i x) h.handles_eq, h.claims_eq, h.repositories_eq, h.tables_eq,
    h.writerRegistries_eq, h.readerRegistries_eq⟩

/-- They stay alike when the same handle is forgotten. -/
lemma discard (h : Alike s s') (i : HandleId) : Alike (s.discard i) (s'.discard i) := by
  unfold Store.discard
  rw [h.handle?]
  split
  · exact h
  · exact (h.releaseAll _).set i none

end Alike

/-! ### Operations under faults -/

variable (f : Faults)

/-- A mapping that is written back changes what is stored, and nothing that is held. -/
lemma alike_writeBack (s : Store κ) (m : Mapping) : Alike s (s.writeBack m) := by
  unfold writeBack
  split <;> exact ⟨rfl, rfl, rfl, rfl, rfl, rfl⟩

/-- So does one whose write fails. -/
lemma alike_writeBackUnder (s : Store κ) (m : Mapping) : Alike s (s.writeBackUnder f m) := by
  unfold writeBackUnder
  split
  · exact .refl s
  · exact alike_writeBack s m

/-- A commit changes what is stored, and nothing that is held. -/
lemma alike_commit (s : Store κ) (sink : Sink) : Alike s (s.commit sink) := by
  cases sink <;> exact ⟨rfl, rfl, rfl, rfl, rfl, rfl⟩

/-- So does one that fails. -/
lemma alike_commitUnder (s : Store κ) (sink : Sink) : Alike s (s.commitUnder f sink) := by
  unfold commitUnder
  split
  all_goals first | exact .refl s | exact alike_commit s _

/-- A flush that fails holds the same as one that succeeds. -/
lemma alike_flushUnder (s : Store κ) (map : HandleId) :
    Alike (s.flush map) (s.flushUnder f map) := by
  unfold flush flushUnder
  cases s.mapping? map with
  | none => exact .refl s
  | some m => exact (alike_writeBack s _).symm.trans (alike_writeBackUnder f s _)

/-- A change of length under faults is the plain one, or it fails and changes nothing. -/
lemma resizeUnder_cases (s : Store κ) (map : HandleId) (n : UInt64) :
    s.resizeUnder f map n = s.resize map n ∨ ∃ e, s.resizeUnder f map n = (s, .error e) := by
  unfold resizeUnder
  split
  · exact .inr ⟨_, rfl⟩
  · exact .inl rfl

/-- A close that fails holds the same as one that succeeds. -/
lemma alike_closeUnder (s : Store κ) (writer : HandleId) :
    Alike (s.close writer) (s.closeUnder f writer) := by
  unfold close closeUnder
  cases s.writer? writer with
  | none => exact .refl s
  | some w =>
    dsimp only
    split
    · exact (((alike_commit s w.sink).symm.trans (alike_commitUnder f s w.sink)).releaseAll _).set
        _ _
    · exact .refl s

section Ends

variable [DecidableEq κ]

/-- **A hook gives back the same**, whether it can store its row or not. -/
lemma alike_runHookUnder (h : Alike s s') (view view' : Bytes) (k : Hook) :
    Alike (s.runHook view k).1 (s'.runHookUnder f view' k).1 := by
  have quiet : Alike (s.runHook view k).1 (s'.runHook view' k).1 := by
    cases k with
    | store d key => exact ⟨h.handles_eq, h.claims_eq, h.repositories_eq, h.tables_eq,
        h.writerRegistries_eq, h.readerRegistries_eq⟩
    | hold c l => exact h.releaseAll _
    | record name failure probe => exact ⟨h.handles_eq, h.claims_eq, h.repositories_eq,
        h.tables_eq, h.writerRegistries_eq, h.readerRegistries_eq⟩
  unfold runHookUnder
  split
  · exact ⟨h.handles_eq, h.claims_eq, h.repositories_eq, h.tables_eq, h.writerRegistries_eq,
      h.readerRegistries_eq⟩
  all_goals exact quiet

/-- Hooks that fail hold the same as hooks that succeed, whatever view they get. -/
lemma alike_runHooksUnder (h : Alike s s') (view view' : Bytes) (hs : List Hook) :
    Alike (s.runHooks view hs).1 (s'.runHooksUnder f view' hs).1 := by
  induction hs generalizing s s' with
  | nil => exact h
  | cons k hs ih => exact ih (alike_runHookUnder f h view view' k)

/-- An unmap that fails holds the same as one that succeeds. -/
lemma alike_unmapUnder (s : Store κ) (map : HandleId) :
    Alike (s.unmap map).1 (s.unmapUnder f map).1 := by
  unfold unmap unmapUnder
  cases s.mapping? map with
  | none => exact .refl s
  | some m =>
    have hback := (alike_writeBack s m).symm.trans (alike_writeBackUnder f s m)
    exact ((alike_runHooksUnder f hback _ _ _).releaseAll _).set _ _

/-- A drop that fails holds the same as one that succeeds. -/
lemma alike_dropUnder (s : Store κ) (h : HandleId) : Alike (s.drop h) (s.dropUnder f h) := by
  unfold drop dropUnder
  cases s.handle? h with
  | none => exact .refl _
  | some x =>
    cases x with
    | mapping m => exact (alike_unmapUnder f s h).discard h
    | writer w => exact (alike_closeUnder f s h).discard h
    | _ => exact .refl _

end Ends

/-! ### Content under faults -/

/-- A write lease that is taken and given back at once was never taken. -/
lemma release_takeWriteLease {g : RegistryId} {x : String} (h : s.takeWriteLease g x = .ok s') :
    s'.release (.lease (.write g x)) = s := by
  obtain ⟨r, hr, rfl⟩ := takeWriteLease_ok h
  unfold WriterRegistry.acquire at hr
  split at hr
  · cases hr
  · next hfree =>
    obtain rfl := Except.ok.inj hr
    -- the identifier is not among those that are left
    have hfilter : WriterRegistry.release ⟨x :: (s.writerRegistry g).active⟩ x =
        s.writerRegistry g := by
      have hmem : x ∉ (s.writerRegistry g).active := by
        simpa [WriterRegistry.isWriting] using hfree
      have hkeep : (s.writerRegistry g).active.filter (· != x) = (s.writerRegistry g).active :=
        List.filter_eq_self.2 fun y hy => by
          simp only [bne_iff_ne, ne_eq]
          rintro rfl
          exact hmem hy
      rw [WriterRegistry.release, List.filter_cons, if_neg (by simp), hkeep]
    have hlist : (s.writerRegistries.set g ⟨x :: (s.writerRegistry g).active⟩).modify g
        (·.release x) = s.writerRegistries := by
      refine List.ext_getElem? fun i => ?_
      by_cases hi : g = i
      · subst hi
        by_cases hlt : g < s.writerRegistries.length
        · have hself : s.writerRegistries[g]? = some (s.writerRegistry g) := by
            rw [writerRegistry, List.getElem?_eq_getElem hlt]
          rw [List.getElem?_modify, List.getElem?_set_self hlt, hself]
          exact congrArg some ((if_pos rfl).trans hfilter)
        · simp [hlt]
      · simp [hi]
    show { s with writerRegistries := _ } = s
    rw [hlist]

/-- **An open that cannot load its row changes nothing.** -/
lemma failLoad_eq (s : Store κ) (lease : Option (RegistryId × String)) (e : Failure) :
    ∃ e', s.failLoad lease e = (s, .error e') := by
  unfold failLoad
  split
  · exact ⟨_, rfl⟩
  · split
    · exact ⟨_, rfl⟩
    · next leased hl => exact ⟨_, by rw [release_takeWriteLease hl]⟩

section Content

variable (s : Store κ) (b : Backend) (r : RepositoryId) (c : ClaimId)

section Backends

variable [DecidableEq κ]

/-- A mapping under faults is opened as without them, or it fails and changes nothing. -/
lemma mapInUnder_cases [ToString κ] (n : UInt64) (readOnly : Bool) :
    s.mapInUnder f b c n readOnly = s.mapIn b c n readOnly ∨
      ∃ e, s.mapInUnder f b c n readOnly = (s, .error e) := by
  unfold mapInUnder
  split
  · exact .inr (failLoad_eq s _ _)
  · exact .inl rfl

/-- So is a reader. -/
lemma readInUnder_cases :
    s.readInUnder f b c = s.readIn b c ∨ ∃ e, s.readInUnder f b c = (s, .error e) := by
  unfold readInUnder
  split
  · exact .inr (failLoad_eq s _ _)
  · exact .inl rfl

/-- So is a writer. -/
lemma writeInUnder_cases (append : Bool) :
    s.writeInUnder f b c append = s.writeIn b c append ∨
      ∃ e, s.writeInUnder f b c append = (s, .error e) := by
  unfold writeInUnder
  split
  · exact .inr (failLoad_eq s _ _)
  · exact .inl rfl

/-- A removal under faults is the plain one, or it fails and changes nothing. -/
lemma removeInUnder_cases :
    s.removeInUnder f b c = s.removeIn b c ∨ ∃ e, s.removeInUnder f b c = (s, .error e) := by
  unfold removeInUnder
  split
  · split <;> exact .inr ⟨_, rfl⟩
  · exact .inl rfl

end Backends

/-- What is refused in every backend is refused in a repository. -/
lemma inRepository_cases {α : Type} {act act' : Store κ → Backend → Store κ × Except Failure α}
    (h : ∀ b, act s b = act' s b ∨ ∃ e, act s b = (s, .error e)) :
    s.inRepository r c act = s.inRepository r c act' ∨
      ∃ e, s.inRepository r c act = (s, .error e) := by
  unfold inRepository
  split
  · exact h _
  · exact .inl rfl

/-- What is refused in every backend is refused in the repository of a claim. -/
lemma routed_cases {α : Type} {act act' : Store κ → Backend → Store κ × Except Failure α}
    (h : ∀ b, act s b = act' s b ∨ ∃ e, act s b = (s, .error e)) :
    s.routed c act = s.routed c act' ∨ ∃ e, s.routed c act = (s, .error e) := by
  unfold routed
  split
  · exact h _
  · exact .inl rfl

variable [DecidableEq κ]

/-- In a repository a mapping under faults is opened as without them, or it fails and changes
nothing. -/
lemma mapContentUnder_cases [ToString κ] (n : UInt64) (readOnly : Bool) :
    s.mapContentUnder f r c n readOnly = s.mapContent r c n readOnly ∨
      ∃ e, s.mapContentUnder f r c n readOnly = (s, .error e) :=
  s.inRepository_cases r c fun b => s.mapInUnder_cases f b c n readOnly

/-- So is a reader. -/
lemma readContentUnder_cases :
    s.readContentUnder f r c = s.readContent r c ∨
      ∃ e, s.readContentUnder f r c = (s, .error e) :=
  s.inRepository_cases r c fun b => s.readInUnder_cases f b c

/-- So is a writer. -/
lemma writeContentUnder_cases (append : Bool) :
    s.writeContentUnder f r c append = s.writeContent r c append ∨
      ∃ e, s.writeContentUnder f r c append = (s, .error e) :=
  s.inRepository_cases r c fun b => s.writeInUnder_cases f b c append

/-- A removal from a repository under faults is the plain one, or it fails and changes nothing. -/
lemma removeContentUnder_cases :
    s.removeContentUnder f r c = s.removeContent r c ∨
      ∃ e, s.removeContentUnder f r c = (s, .error e) :=
  s.inRepository_cases r c fun b => s.removeInUnder_cases f b c

/-- Through a claim a mapping under faults is opened as without them, or it fails and changes
nothing. -/
lemma mapClaimUnder_cases [ToString κ] (n : UInt64) (readOnly : Bool) :
    s.mapClaimUnder f c n readOnly = s.mapClaim c n readOnly ∨
      ∃ e, s.mapClaimUnder f c n readOnly = (s, .error e) :=
  s.routed_cases c fun b => s.mapInUnder_cases f b c n readOnly

/-- So is a reader. -/
lemma readClaimUnder_cases :
    s.readClaimUnder f c = s.readClaim c ∨ ∃ e, s.readClaimUnder f c = (s, .error e) :=
  s.routed_cases c fun b => s.readInUnder_cases f b c

/-- So is a writer. -/
lemma writeClaimUnder_cases (append : Bool) :
    s.writeClaimUnder f c append = s.writeClaim c append ∨
      ∃ e, s.writeClaimUnder f c append = (s, .error e) :=
  s.routed_cases c fun b => s.writeInUnder_cases f b c append

end Content

/-! ### Steps and runs -/

variable [DecidableEq κ] [ToString κ]

/-- The state after an operation under faults, which names only what is there. -/
def performUnder (f : Faults) (s : Store κ) : Operation κ → Store κ
  | .mapContent r c n readOnly => (s.mapContentUnder f r c n readOnly).1
  | .readContent r c => (s.readContentUnder f r c).1
  | .writeContent r c append => (s.writeContentUnder f r c append).1
  | .removeContent r c => (s.removeContentUnder f r c).1
  | .mapClaim c n readOnly => (s.mapClaimUnder f c n readOnly).1
  | .readClaim c => (s.readClaimUnder f c).1
  | .writeClaim c append => (s.writeClaimUnder f c append).1
  | .resize map n => (s.resizeUnder f map n).1
  | .flush map => s.flushUnder f map
  | .unmap map => (s.unmapUnder f map).1
  | .close writer => s.closeUnder f writer
  | .drop h => s.dropUnder f h
  | op => s.perform op

/-- No fault strikes a call on a table. -/
lemma performUnder_table (f : Faults) (s : Store κ) {op : Operation κ} (hop : op.group = .table) :
    s.performUnder f op = s.perform op := by
  cases op <;> first | rfl | cases hop

/-- The state after an operation under faults. -/
def stepUnder (f : Faults) (s : Store κ) (op : Operation κ) : Store κ :=
  if s.applies op then s.performUnder f op else s

/-- The state after operations, each under faults of its own. -/
def runUnder (s : Store κ) (ops : List (Faults × Operation κ)) : Store κ :=
  ops.foldl (fun s p => s.stepUnder p.1 p.2) s

/-- No operations change nothing. -/
@[simp] theorem runUnder_nil (s : Store κ) : s.runUnder [] = s := rfl

/-- The first operation of a run is made first. -/
@[simp] theorem runUnder_cons (s : Store κ) (p : Faults × Operation κ)
    (ops : List (Faults × Operation κ)) :
    s.runUnder (p :: ops) = (s.stepUnder p.1 p.2).runUnder ops := rfl

/-- **Without faults an operation is the plain one.** -/
@[simp] theorem stepUnder_quiet (s : Store κ) (op : Operation κ) :
    s.stepUnder .quiet op = s.step op := by
  unfold stepUnder step
  congr 1
  cases op <;> simp [performUnder, perform]

/-- **Without faults a run is the plain one.** -/
theorem runUnder_quiet (s : Store κ) (ops : List (Operation κ)) :
    s.runUnder (ops.map (Faults.quiet, ·)) = s.run ops := by
  induction ops generalizing s with
  | nil => rfl
  | cons op ops ih => rw [List.map_cons, runUnder_cons, stepUnder_quiet, run_cons, ih]

/-- **Faults decide what is stored, and never what is held.** -/
theorem stepUnder_cases (s : Store κ) (op : Operation κ) :
    s.stepUnder f op = s ∨ Alike (s.step op) (s.stepUnder f op) := by
  have plain : ∀ {α : Type} {x y : Store κ × α}, x = y → Alike y.1 x.1 :=
    fun {_ x y} h => h ▸ .refl x.1
  have refused : ∀ {α : Type} {x y : Store κ × Except Failure α},
      x = y ∨ (∃ e, x = (s, .error e)) → x.1 = s ∨ Alike y.1 x.1 := by
    rintro α x y (h | ⟨e, h⟩)
    · exact .inr (plain h)
    · exact .inl (by rw [h])
  unfold stepUnder step
  split
  · cases op with
    | mapContent r c n readOnly => exact refused (s.mapContentUnder_cases f r c n readOnly)
    | readContent r c => exact refused (s.readContentUnder_cases f r c)
    | writeContent r c append => exact refused (s.writeContentUnder_cases f r c append)
    | removeContent r c => exact refused (s.removeContentUnder_cases f r c)
    | mapClaim c n readOnly => exact refused (s.mapClaimUnder_cases f c n readOnly)
    | readClaim c => exact refused (s.readClaimUnder_cases f c)
    | writeClaim c append => exact refused (s.writeClaimUnder_cases f c append)
    | resize map n => exact refused (resizeUnder_cases f s map n)
    | flush map => exact .inr (alike_flushUnder f s map)
    | unmap map => exact .inr (alike_unmapUnder f s map)
    | close writer => exact .inr (alike_closeUnder f s writer)
    | drop h => exact .inr (alike_dropUnder f s h)
    | _ => exact .inr (.refl _)
  · exact .inl rfl

omit [DecidableEq κ] [ToString κ] in
/-- A state that holds the same as a sound one is sound. -/
lemma Sound.alike (hs : s.Sound) (h : Alike s s') : s'.Sound where
  balanced r hr := by rw [h.counted, held, h.handles_eq, ← held, hs.balanced r hr]
  tables_sound t := by
    rw [table, h.tables_eq]
    exact hs.tables_sound t
  backends_known x hx := by
    rw [h.repositories_eq] at hx
    exact (hs.backends_known x hx).mono (le_of_eq (congrArg List.length h.tables_eq.symm))
      (le_of_eq (congrArg List.length h.writerRegistries_eq.symm))
      (le_of_eq (congrArg List.length h.readerRegistries_eq.symm))
  handles_whole i x hx := hs.handles_whole i x (h.handle? i ▸ hx)

/-- A sound state stays sound whatever fails. -/
lemma Sound.stepUnder (hs : s.Sound) (op : Operation κ) : (s.stepUnder f op).Sound := by
  rcases s.stepUnder_cases f op with h | h
  · rw [h]
    exact hs
  · exact (hs.step op).sound.alike h

/-- **What every step under faults preserves, every run under faults preserves.** -/
theorem runUnder_induction {P : Store κ → Prop} (hstep : ∀ f s op, P s → P (s.stepUnder f op))
    (hs : P s) (ops : List (Faults × Operation κ)) : P (s.runUnder ops) := by
  induction ops generalizing s with
  | nil => exact hs
  | cons p ops ih => exact ih (hstep p.1 s p.2 hs)

/-- **Every run under faults ends in a sound state.** -/
theorem sound_runUnder (name : String) (ops : List (Faults × Operation κ)) :
    ((onDirectory name : Store κ).runUnder ops).Sound :=
  runUnder_induction (P := Sound) (fun f _ op hs => hs.stepUnder f op) (sound_onDirectory name) ops

end ClaimStore.Store
