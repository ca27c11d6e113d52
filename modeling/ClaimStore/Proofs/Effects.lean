import ClaimStore.Proofs.DatabaseOpens
import ClaimStore.Proofs.RowEnds

/-!
# What operations do to handles

Every operation does one of a few things to handles and repositories: it opens or closes a
repository, lets handles go on, makes one handle, ends one, or does none of this. What all
operations keep is drawn from these few effects.

## Main definitions

* `Operation.carried` — the handles that an operation works on without ending them.
* `Handle.Inside` — what a handle reads of an entry is inside its value.
* `Store.Fresh` — what is true of a handle that was just made.
* `Store.Founds` — a repository is opened.
* `Store.Loose` — a step that opens at most a handle that belongs to no claim.
* `Store.Finishes` — an operation ends a handle.
* `Store.Effect` — what an operation does to handles, repositories, rows and the ledger.

## Main results

* `Store.Tells.effect_step` — the effect of an operation.
* `Store.Effect.tells` — every effect keeps the ledger true.
* `Store.Effect.backendOf?` — every effect leaves each repository its backend.
* `Store.Effect.handle?_eq` — a handle that is not worked on stays as it is.
-/

set_option autoImplicit false

namespace ClaimStore

/-- The handles that an operation works on without ending them. -/
def Operation.carried {κ : Type} : Operation κ → List HandleId
  | .writeAt map _ _ | .fillView map _ | .resize map _ | .registerHook map _ _ _ => [map]
  | .readRaw reader _ | .readData reader _ _ | .readToEnd reader | .seek reader _ => [reader]
  | .writeRaw writer _ | .writeData writer _ => [writer]
  | .copy reader writer => [reader, writer]
  | _ => []

/-- What a handle reads of an entry is inside its value: the bytes that a read-only mapping shows,
and those before the position of a reader. -/
def Handle.Inside {κ : Type} (x : Handle) (s : Store κ) : Prop :=
  match x with
  | .mapping m => ∀ b t e, m.backing = .entry b → b.view = .read → b.borrow = some (t, e) →
      b.size ≤ ((s.table t).value e).size
  | .reader r => ∀ t e, r.source = .entry t e → r.position ≤ ((s.table t).value e).size
  | .writer _ | .reference _ | .lease _ | .borrow .. | .guard .. => True

namespace Store

variable {κ : Type} {s s' : Store κ} {l : Ledger}

/-- **What is true of a handle that was just made**, with the entry that the ledger makes for it. -/
structure Fresh (s : Store κ) (o : Option Holder) (x : Handle) : Prop where
  /-- It has the form of the entry. -/
  described : Described s o x
  /-- What it owns was made under the identifier of the entry. -/
  keyed : ∀ y t e, o = some y → x.owned? = some (t, e) →
    (s.table t).keyOf? e = some (.text y.identifier)
  /-- What it reads is there. -/
  inside : x.Inside s
  /-- The entry is that of a handle that did not end. -/
  live : ∀ y, o = some y → y.ended = false

/-- A handle that belongs to no claim and reads nothing. -/
lemma fresh_of_none {x : Handle} (h : Described s none x) (inside : x.Inside s) :
    Fresh s none x :=
  ⟨h, fun _ _ _ ho => (nomatch ho), inside, fun _ hy => (nomatch hy)⟩

/-! ### Repositories -/

/-- What opening a repository does outside the handles: it adds at most one repository, with a
registry of its own, and one of a database that nobody used. -/
structure Founds (s s' : Store κ) : Prop where
  /-- The handles stay. -/
  handles_eq : s'.handles = s.handles
  /-- The claims stay. -/
  claims_eq : s'.claims = s.claims
  /-- No database is taken away. -/
  length_le : s.databases.length ≤ s'.databases.length
  /-- A row changes only where nobody uses its database, whose file is empty. -/
  row?_ne : ∀ d x, s'.row? d x ≠ s.row? d x → s.usesDatabase d = false ∧ s.Emptied d
  /-- A new repository comes last. -/
  repositories_eq : s'.repositories = s.repositories ∨
    ∃ b, s'.repositories = s.repositories ++ [⟨b, true⟩] ∧ s.writerRegistries.length ≤ b.writers ∧
      ∀ d p w, b = .database d p w →
        d < s'.databases.length ∧ (d < s.databases.length → s.usesDatabase d = false)

/-- A repository that keeps its content elsewhere changes no database. -/
lemma founds_of_databases (hh : s'.handles = s.handles) (hc : s'.claims = s.claims)
    (hd : s'.databases = s.databases) (hr : s'.repositories = s.repositories ∨
      ∃ b, s'.repositories = s.repositories ++ [⟨b, true⟩] ∧ s.writerRegistries.length ≤ b.writers ∧
        ∀ d p w, b ≠ .database d p w) : Founds s s' where
  handles_eq := hh
  claims_eq := hc
  length_le := le_of_eq (congrArg List.length hd.symm)
  row?_ne d x hne := absurd (by rw [row?, row?, hd]) hne
  repositories_eq := hr.imp id fun ⟨b, hb, hnew, hne⟩ =>
    ⟨b, hb, hnew, fun d p w h => absurd h (hne d p w)⟩

/-- A repository that is opened adds itself at most. -/
lemma founds_openRepository (s : Store κ) (kind : RepositoryKind) :
    Founds s (s.openRepository kind).1 := by
  cases kind with
  | files directory =>
    rw [openRepository, openFiles]
    split
    · exact founds_of_databases rfl rfl rfl (.inl rfl)
    · exact founds_of_databases rfl rfl rfl
        (.inr ⟨_, rfl, Nat.le_refl _, fun _ _ _ h => by cases h⟩)
  | volatile maxBytes maxCount =>
    exact founds_of_databases rfl rfl rfl
      (.inr ⟨_, rfl, Nat.le_refl _, fun _ _ _ h => by cases h⟩)
  | database p =>
    have opened := s.opensDatabase p
    rw [openRepository, openRows]
    split
    · next s' f h =>
      rw [h] at opened
      exact ⟨opened.handles_eq, opened.claims_eq, opened.length_le, opened.row?_ne,
        .inl opened.repositories_eq⟩
    · next s' d h =>
      rw [h] at opened
      refine ⟨opened.handles_eq, opened.claims_eq, opened.length_le, opened.row?_ne,
        .inr ⟨.database d p s'.writerRegistries.length, ?_, ?_, fun d' p' w' hb => ?_⟩⟩
      · exact congrArg (· ++ [(⟨.database d p s'.writerRegistries.length, true⟩ : Repository)])
          opened.repositories_eq
      · exact le_of_eq (congrArg List.length opened.writerRegistries_eq).symm
      · obtain ⟨rfl, -, -⟩ := Backend.database.inj hb
        exact opened.opened d rfl

/-- A repository after one was added. -/
lemma backendOf?_concat {b b' : Backend} {o : Bool} {r : RepositoryId}
    (hr : s'.repositories = s.repositories ++ [⟨b', o⟩]) (hb : s'.backendOf? r = some b) :
    s.backendOf? r = some b ∨ r = s.repositories.length ∧ b = b' := by
  unfold backendOf? at hb ⊢
  rw [hr] at hb
  rcases Nat.lt_or_ge r s.repositories.length with hlt | hge
  · rw [List.getElem?_append_left hlt] at hb
    exact .inl hb
  · rw [List.getElem?_append_right hge, List.getElem?_singleton] at hb
    split at hb
    · next h0 =>
      exact .inr ⟨Nat.le_antisymm (Nat.sub_eq_zero_iff_le.1 h0) hge, (Option.some.inj hb).symm⟩
    · cases hb

/-- A backend keeps its place. -/
lemma backendOf?_append {b : Backend} {r : RepositoryId} {rs : List Repository}
    (hr : s'.repositories = s.repositories ++ rs) (hb : s.backendOf? r = some b) :
    s'.backendOf? r = some b := by
  obtain ⟨x, hx, rfl⟩ := Option.map_eq_some_iff.1 hb
  unfold backendOf?
  rw [hr, List.getElem?_append_left (List.getElem?_eq_some_iff.1 hx).1, hx, Option.map_some]

/-- The registry of a known backend is there. -/
lemma Knows.writers_lt {b : Backend} (h : s.Knows b) : b.writers < s.writerRegistries.length := by
  cases b with
  | files directory w r => exact h.1
  | volatile t w => exact h.2
  | database d p w => exact h

/-- The parts of a repository are there. -/
lemma Sound.knows_backendOf? (hs : s.Sound) {r : RepositoryId} {b : Backend}
    (hb : s.backendOf? r = some b) : s.Knows b := by
  obtain ⟨x, hx, rfl⟩ := Option.map_eq_some_iff.1 hb
  exact hs.backends_known x (List.mem_of_getElem? hx)

/-- **A new repository keeps the ledger true.** -/
lemma Tells.founds (ht : Tells l s) (hs : s.Sound) (h : Founds s s') : Tells l s' := by
  rcases h.repositories_eq with hr | ⟨b, hr, hnew, -⟩
  · exact ht.of_frame h.handles_eq hr
  · refine ht.of_repositories h.handles_eq (fun r b' hb => backendOf?_append hr hb)
      fun r r' b₁ b₂ hb₁ hb₂ hw => ?_
    -- the registry of the new repository is not that of an old one
    have fresh : ∀ {r b'}, s.backendOf? r = some b' → b'.writers ≠ b.writers := fun hb' =>
      Nat.ne_of_lt (Nat.lt_of_lt_of_le (hs.knows_backendOf? hb').writers_lt hnew)
    rcases backendOf?_concat hr hb₁ with h₁ | ⟨rfl, rfl⟩ <;>
      rcases backendOf?_concat hr hb₂ with h₂ | ⟨rfl, rfl⟩
    · exact ht.writers_inj r r' b₁ b₂ h₁ h₂ hw
    · exact absurd hw (fresh h₁)
    · exact absurd hw.symm (fresh h₂)
    · rfl

/-- A repository that is closed keeps its backend. -/
lemma backendOf?_closeRepository (s : Store κ) (r i : RepositoryId) :
    (s.closeRepository r).backendOf? i = s.backendOf? i := by
  unfold backendOf? closeRepository
  rw [List.getElem?_modify]
  cases s.repositories[i]? with
  | none => rfl
  | some x => by_cases hi : r = i <;> simp [hi]

/-- A repository that is closed keeps the ledger true. -/
lemma Tells.closeRepository (ht : Tells l s) (r : RepositoryId) :
    Tells l (s.closeRepository r) := by
  have hb := s.backendOf?_closeRepository r
  exact ht.of_repositories rfl (fun i b hi => (hb i).trans hi) fun i i' b b' hi hi' =>
    ht.writers_inj i i' b b' (hb i ▸ hi) (hb i' ▸ hi')

/-! ### Tables -/

/-- A step that opens at most a handle that belongs to no claim. -/
inductive Loose (s s' : Store κ) : Prop
  /-- A new handle. -/
  | made {x : Handle} (added : Added x s s') (fresh : Fresh s' none x)
  /-- None. -/
  | nothing (still : Still s s')

/-- An entry that is asked for is borrowed at most. -/
lemma loose_insertEntry [DecidableEq κ] (s : Store κ) (t : TableId) (key : Key κ) :
    Loose s (s.insertEntry t key).1 := by
  unfold insertEntry
  split
  · exact .nothing (.refl s)
  · exact .made ((still_setTable s t _).added _) (fresh_of_none (.borrow t _) trivial)

/-- An entry that is there is borrowed at most. -/
lemma loose_borrowEntry [DecidableEq κ] (s : Store κ) (t : TableId) (key : Key κ) :
    Loose s (s.borrowEntry t key).1 := by
  unfold borrowEntry
  split
  · exact .nothing (.refl s)
  · exact .made ((still_setTable s t _).added _) (fresh_of_none (.borrow t _) trivial)

/-- A clone of a borrow is one more handle. -/
lemma loose_cloneBorrow (s : Store κ) (t : TableId) (e : EntryId) :
    Loose s (s.cloneBorrow t e).1 :=
  .made ((still_setTable s t _).added _) (fresh_of_none (.borrow t e) trivial)

/-- A lock makes a guard at most. -/
lemma loose_lockValue (s : Store κ) (t : TableId) (e : EntryId) (writing : Bool) :
    Loose s (s.lockValue t e writing).1 := by
  unfold lockValue
  split
  · exact .nothing (.refl s)
  · exact .made ((still_setTable s t _).added _) (fresh_of_none (.guard t e writing) trivial)

/-- A mapping of an entry is one handle at most, and a read-only one finds its bytes there. -/
lemma loose_mapEntry [ToString κ] {t : TableId} (ht : t < s.tables.length) (e : EntryId)
    (n : UInt64) (readOnly : Bool) : Loose s (s.mapEntry t e n readOnly).1 := by
  unfold mapEntry
  split
  · exact .nothing (.refl s)
  next table hl =>
  refine .made ((still_setTable s t _).added _)
    (fresh_of_none (.plain fun k hk => nomatch hk) fun b t' e' hb hview hbor => ?_)
  obtain rfl := Backing.entry.inj hb
  obtain ⟨rfl, rfl⟩ := Prod.mk.inj (Option.some.inj hbor)
  cases readOnly with
  | true =>
    show n.toNat ≤ (((s.setTable t table).table t).value e).size
    rw [table_setTable_self ht]
    exact (EntryTable.settles_lockFor hl).2
  | false => cases hview

/-- So is a mapping of the entry under a key. -/
lemma loose_mapKey [DecidableEq κ] [ToString κ] {t : TableId} (ht : t < s.tables.length)
    (key : Key κ) (n : UInt64) (readOnly : Bool) : Loose s (s.mapKey t key n readOnly).1 := by
  unfold mapKey
  split
  · exact loose_mapEntry ht _ n readOnly
  · refine .made ((Still.refl s).added _) (fresh_of_none (.plain fun k hk => nomatch hk) ?_)
    rintro b t' e' hb - hbor
    obtain rfl := Backing.entry.inj hb
    cases hbor

/-- A value that is changed in place leaves the handles. -/
lemma still_storeValue (s : Store κ) (t : TableId) (e : EntryId) (offset : Nat) (b : Bytes) :
    Still s (s.storeValue t e offset b) := by
  unfold storeValue
  split
  · exact still_setTable s t _
  · exact .refl s

/-- A value that changes its length leaves the handles. -/
lemma still_resizeValue (s : Store κ) (t : TableId) (e : EntryId) (n : UInt64) :
    Still s (s.resizeValue t e n).1 := by
  unfold resizeValue
  split
  · exact .refl s
  · exact still_setTable s t _

/-- A value that is appended to leaves the handles. -/
lemma still_appendValue (s : Store κ) (t : TableId) (e : EntryId) (b : Bytes) :
    Still s (s.appendValue t e b).1 := by
  unfold appendValue
  split
  · exact .refl s
  · exact still_setTable s t _

/-! ### Removals -/

/-- An erase changes no handle. -/
lemma frame_eraseIn [DecidableEq κ] (s : Store κ) (b : Backend) (c : ClaimId) :
    Frame s (s.eraseIn b c).1 := by
  cases b with
  | files directory w r =>
    rw [eraseIn]
    unfold removeInFiles
    dsimp only
    split
    · exact (still_disk s _).toFrame
    · exact .refl s
    · exact .refl s
  | volatile t w =>
    rw [eraseIn]
    unfold removeInTable
    split <;> exact (still_setTable s t _).toFrame
  | database d p w => exact ⟨rfl, rfl, rfl⟩

/-- An erase adds no database and takes none away. -/
lemma length_eraseIn [DecidableEq κ] (s : Store κ) (b : Backend) (c : ClaimId) :
    (s.eraseIn b c).1.databases.length = s.databases.length := by
  cases b with
  | files directory w r =>
    rw [eraseIn]
    unfold removeInFiles
    dsimp only
    split <;> rfl
  | volatile t w =>
    rw [eraseIn]
    unfold removeInTable
    split <;> rfl
  | database d p w => exact List.length_modify ..

/-- **A row is erased only by an erase of its identifier in its database**, and the answer says
so. -/
lemma row?_eraseIn [DecidableEq κ] {b : Backend} {c : ClaimId} {d : DatabaseId} {x : String}
    (hne : (s.eraseIn b c).1.row? d x ≠ s.row? d x) :
    (∃ p w, b = .database d p w) ∧ s.identifier c = x ∧ (s.eraseIn b c).2 = .ok true ∧
      (s.eraseIn b c).1.row? d x = none := by
  cases b with
  | files directory w r =>
    refine absurd ?_ hne
    rw [eraseIn]
    unfold removeInFiles
    dsimp only
    split <;> rfl
  | volatile t w =>
    refine absurd ?_ hne
    rw [eraseIn]
    unfold removeInTable
    split <;> rfl
  | database d' p w =>
    have herase : (s.modifyDatabase d' (·.erase (s.identifier c))).row? d x ≠ s.row? d x := hne
    obtain rfl : d' = d := by
      by_contra hd
      exact herase (row?_modify_ne _ hd x)
    have hlt : d' < s.databases.length := by
      by_contra hge
      refine herase ?_
      rw [row?, modifyDatabase, List.modify_eq_self (Nat.le_of_not_lt hge), row?]
    have hrow := row?_erase hlt (s.identifier c) x
    by_cases hx : x = s.identifier c
    · rw [if_pos hx] at hrow
      refine ⟨⟨p, w, rfl⟩, hx.symm, ?_, hrow⟩
      rw [hrow, hx] at herase
      exact congrArg Except.ok (Option.isSome_iff_ne_none.2 herase.symm)
    · exact absurd (hrow.trans (if_neg hx)) herase

section Erases

variable [DecidableEq κ] (s : Store κ) (r : RepositoryId) (c : ClaimId)

/-- An erase in a repository changes no handle. -/
lemma frame_eraseContent : Frame s (s.eraseContent r c).1 := by
  unfold eraseContent inRepository
  split
  · exact s.frame_eraseIn _ c
  · exact .refl s

/-- It adds no database and takes none away. -/
lemma length_eraseContent : (s.eraseContent r c).1.databases.length = s.databases.length := by
  unfold eraseContent inRepository
  split
  · exact s.length_eraseIn _ c
  · rfl

/-- **A removal is refused, or its claim is not referenced and it is an erase.** -/
lemma removeContent_cases :
    (∃ f, s.removeContent r c = (s, .error f)) ∨
      (s.references c = 0 ∧ s.removeContent r c = s.eraseContent r c) := by
  unfold removeContent eraseContent inRepository
  split
  · exact s.removeIn_cases _ c
  · exact .inl ⟨_, rfl⟩

/-- A removal changes no handle. -/
lemma frame_removeContent : Frame s (s.removeContent r c).1 := by
  rcases s.removeContent_cases r c with ⟨f, heq⟩ | ⟨-, heq⟩ <;> rw [heq]
  · exact .refl s
  · exact s.frame_eraseContent r c

/-- A removal adds no database and takes none away. -/
lemma length_removeContent : (s.removeContent r c).1.databases.length = s.databases.length := by
  rcases s.removeContent_cases r c with ⟨f, heq⟩ | ⟨-, heq⟩ <;> rw [heq]
  exact s.length_eraseContent r c

variable {s r c} {d : DatabaseId} {x : String}

/-- **What an erase in a repository does to a row.** -/
lemma row?_eraseContent (hne : (s.eraseContent r c).1.row? d x ≠ s.row? d x) :
    (∃ p w, s.backend? r = some (.database d p w)) ∧ s.identifier c = x ∧
      (s.eraseContent r c).2 = .ok true ∧ (s.eraseContent r c).1.row? d x = none := by
  unfold eraseContent inRepository at hne ⊢
  split at hne
  · next b hb =>
    obtain ⟨⟨p, w, rfl⟩, hrest⟩ := row?_eraseIn hne
    exact ⟨⟨p, w, hb⟩, hrest⟩
  · exact absurd rfl hne

/-- **A row is removed only where its claim is not referenced**, and the answer says so. -/
lemma row?_removeContent (hne : (s.removeContent r c).1.row? d x ≠ s.row? d x) :
    (∃ p w, s.backend? r = some (.database d p w)) ∧ s.identifier c = x ∧ s.references c = 0 ∧
      (s.removeContent r c).2 = .ok true := by
  rcases s.removeContent_cases r c with ⟨f, heq⟩ | ⟨href, heq⟩ <;> rw [heq] at hne ⊢
  · exact absurd rfl hne
  · obtain ⟨hb, hx, hans, -⟩ := row?_eraseContent hne
    exact ⟨hb, hx, href, hans⟩

end Erases

/-! ### Opens -/

section Opens

variable {c : ClaimId}

/-- **A new mapping has the form of its entry.** -/
lemma NewMapping.described {b : Backend} {n : UInt64} {readOnly : Bool} {r : RepositoryId}
    {x : Handle} (hx : NewMapping b c n readOnly s s' x) (hb : s'.backendOf? r = some b) :
    Described s' (some ⟨c, s.identifier c, .mapping r readOnly, false⟩) x := by
  obtain ⟨k, hshows, rfl⟩ := hx
  exact .mapped (m := ⟨k, readOnly, ⟨b.hooks c (s.identifier c) readOnly, false⟩⟩) hb rfl []
    (List.append_nil _).symm (fun k hk => nomatch hk) hshows.backs

/-- It has the entry of its identifier, and a read-only one finds its bytes there. -/
lemma NewMapping.fresh {b : Backend} {n : UInt64} {readOnly : Bool} {r : RepositoryId}
    {x : Handle} (hx : NewMapping b c n readOnly s s' x) (hb : s'.backendOf? r = some b) :
    Fresh s' (some ⟨c, s.identifier c, .mapping r readOnly, false⟩) x := by
  refine ⟨hx.described hb, fun y t e hy ho => ?_, ?_, fun y hy => Option.some.inj hy ▸ rfl⟩
  · obtain rfl := Option.some.inj hy
    obtain ⟨k, hshows, rfl⟩ := hx
    cases hshows with
    | file => cases ho
    | row => cases ho
    | entry t' w e' hkey =>
      obtain ⟨rfl, rfl⟩ := Prod.mk.inj (Option.some.inj ho)
      exact hkey
  · obtain ⟨k, hshows, rfl⟩ := hx
    rintro k' t e hk' hview hbor
    cases hshows with
    | file => cases hk'
    | row => cases hk'
    | entry t' w e' _ hfits =>
      obtain rfl := Backing.entry.inj hk'
      obtain ⟨rfl, rfl⟩ := Prod.mk.inj (Option.some.inj hbor)
      refine hfits ?_
      cases readOnly with
      | true => rfl
      | false => cases hview

/-- **A new reader has the form of its entry.** -/
lemma NewReader.described {b : Backend} {r : RepositoryId} {x : Handle}
    (hx : NewReader b c s s' x) (hb : s'.backendOf? r = some b) :
    Described s' (some ⟨c, s.identifier c, .reader r, false⟩) x := by
  obtain ⟨k, hreads, rfl⟩ := hx
  exact .reader hb rfl hreads.sources

/-- It has the entry of its identifier, and begins at its beginning. -/
lemma NewReader.fresh {b : Backend} {r : RepositoryId} {x : Handle}
    (hx : NewReader b c s s' x) (hb : s'.backendOf? r = some b) :
    Fresh s' (some ⟨c, s.identifier c, .reader r, false⟩) x := by
  refine ⟨hx.described hb, fun y t e hy ho => ?_, ?_, fun y hy => Option.some.inj hy ▸ rfl⟩
  · obtain rfl := Option.some.inj hy
    obtain ⟨k, hreads, rfl⟩ := hx
    cases hreads with
    | file => cases ho
    | row => cases ho
    | entry t' w e' hkey =>
      obtain ⟨rfl, rfl⟩ := Prod.mk.inj (Option.some.inj ho)
      exact hkey
  · obtain ⟨k, -, rfl⟩ := hx
    exact fun _ _ _ => Nat.zero_le _

/-- **A new writer has the form of its entry.** -/
lemma NewWriter.described {b : Backend} {append : Bool} {r : RepositoryId} {x : Handle}
    (hx : NewWriter b c append s s' x) (hb : s'.backendOf? r = some b) :
    Described s' (some ⟨c, s.identifier c, .writer r, false⟩) x := by
  obtain ⟨k, hwrites, rfl⟩ := hx
  exact .writing hb rfl rfl hwrites.sinks

/-- It has the entry of its identifier. -/
lemma NewWriter.fresh {b : Backend} {append : Bool} {r : RepositoryId} {x : Handle}
    (hx : NewWriter b c append s s' x) (hb : s'.backendOf? r = some b) :
    Fresh s' (some ⟨c, s.identifier c, .writer r, false⟩) x := by
  refine ⟨hx.described hb, fun y t e hy ho => ?_, ?_, fun y hy => Option.some.inj hy ▸ rfl⟩
  · obtain rfl := Option.some.inj hy
    obtain ⟨k, hwrites, rfl⟩ := hx
    cases hwrites with
    | file => cases ho
    | row => cases ho
    | entry t' w e' hkey =>
      obtain ⟨rfl, rfl⟩ := Prod.mk.inj (Option.some.inj ho)
      exact hkey
  · obtain ⟨k, -, rfl⟩ := hx
    exact trivial

/-- An open through a claim is one in the repository of the claim. -/
lemma routed_eq {α : Type} {r : RepositoryId} {b : Backend}
    (hr : s.repositoryOf c = some (r, b))
    (act : Store κ → Backend → Store κ × Except Failure α) :
    s.routed c act = s.inRepository r c act := by
  unfold Store.routed Store.inRepository
  rw [hr, backend?_of_repositoryOf hr]

/-- An open through a claim without a repository fails. -/
lemma routed_none {α : Type} (hr : s.repositoryOf c = none)
    (act : Store κ → Backend → Store κ × Except Failure α) :
    s.routed c act = (s, .error (.content (.repositoryUnavailable (s.identifier c)))) := by
  unfold Store.routed
  rw [hr]

end Opens

/-! ### Effects -/

/-- **An operation ends a handle**: it unmaps a mapping, closes a writer or drops whatever there
is. -/
inductive Finishes (s : Store κ) (h : HandleId) : Operation κ → Prop
  /-- A mapping is unmapped. -/
  | unmap {m : Mapping} (live : s.mapping? h = some m) : Finishes s h (.unmap h)
  /-- A writer is closed. -/
  | close {w : Writer} (live : s.writer? h = some w) : Finishes s h (.close h)
  /-- A handle is dropped. -/
  | drop : Finishes s h (.drop h)

/-- The identifiers of the claims are there, and there may be more. -/
def Grows (s s' : Store κ) : Prop :=
  s.claims.map (·.identifier) <+: s'.claims.map (·.identifier)

/-- The same identifiers are there. -/
lemma grows_of_eq (h : s'.claims.map (·.identifier) = s.claims.map (·.identifier)) : Grows s s' :=
  ⟨[], (List.append_nil _).trans h.symm⟩

/-- **What an operation does to handles, repositories and rows**, and what the ledger becomes with
it. -/
inductive Effect (l l' : Ledger) (s : Store κ) (op : Operation κ) (s' : Store κ) : Prop
  /-- A repository is opened. -/
  | founds {kind : RepositoryKind} (op_eq : op = .openRepository kind) (ledger_eq : l' = l)
      (h : Founds s s')
  /-- A repository is closed. -/
  | closes {r : RepositoryId} (ledger_eq : l' = l) (eq : s' = s.closeRepository r)
  /-- Content is removed. -/
  | removes {r : RepositoryId} {c : ClaimId} (op_eq : op = .removeContent r c) (ledger_eq : l' = l)
      (frame : Frame s s') (length_eq : s'.databases.length = s.databases.length)
      (row?_ne : ∀ d x, s'.row? d x ≠ s.row? d x →
        (∃ p w, s.backend? r = some (.database d p w)) ∧ s.identifier c = x ∧ s.references c = 0)
  /-- None of these changes. -/
  | frame (ledger_eq : l' = l) (handles_eq : s'.handles = s.handles)
      (repositories_eq : s'.repositories = s.repositories)
      (databases_eq : s'.databases = s.databases) (grows : Grows s s')
  /-- Handles go on. -/
  | carries (ledger_eq : l' = l) (h : Carries op.carried s s')
  /-- A handle is made. -/
  | adds {x : Handle} {o : Option Holder} (added : Added x s s') (fresh : Fresh s' o x)
      (ledger_eq : l' = l.set s.handles.length o)
  /-- A handle ends, and stores what it has not saved. -/
  | ends {h : HandleId} {x : Handle} {x' : Option Handle} {o : Option Holder}
      (finishes : Finishes s h op) (live : s.handle? h = some x) (ended : Ended h x' s s')
      (leaves : x.Leaves x') (described : ∀ y, x' = some y → Described s o y)
      (gone : x' = none → o = none) (databases_eq : s'.databases = s.saved x.unsaved?)
      (ledger_eq : l' = l.set h o)

variable {l' : Ledger} {op : Operation κ}

/-- **Every effect keeps the ledger true.** -/
lemma Effect.tells (h : Effect l l' s op s') (ht : Tells l s) (hs : s.Sound) : Tells l' s' := by
  cases h with
  | founds _ hl h => exact hl ▸ ht.founds hs h
  | closes hl h => exact hl ▸ h ▸ ht.closeRepository _
  | removes _ hl frame _ _ => exact hl ▸ ht.of_frame frame.handles_eq frame.repositories_eq
  | frame hl hh hr _ _ => exact hl ▸ ht.of_frame hh hr
  | carries hl h => exact hl ▸ ht.carries h
  | adds added fresh hl => exact hl ▸ ht.added added fresh.described
  | ends _ live ended _ described gone _ hl => exact hl ▸ ht.ended live ended described gone

/-- **Every effect leaves each repository its backend.** -/
lemma Effect.backendOf? (h : Effect l l' s op s') {r : RepositoryId} {b : Backend}
    (hb : s.backendOf? r = some b) : s'.backendOf? r = some b := by
  have stays : s'.repositories = s.repositories → s'.backendOf? r = some b := fun hr =>
    (backendOf?_congr hr r).trans hb
  cases h with
  | founds _ _ h =>
    rcases h.repositories_eq with hr | ⟨b', hr, -⟩
    · exact stays hr
    · exact backendOf?_append hr hb
  | closes _ h => exact h ▸ (s.backendOf?_closeRepository _ r).trans hb
  | removes _ _ frame _ _ => exact stays frame.repositories_eq
  | frame _ _ hr _ _ => exact stays hr
  | carries _ h => exact stays h.repositories_eq
  | adds added _ _ => exact stays added.repositories_eq
  | ends _ _ ended _ _ _ _ _ => exact stays ended.repositories_eq

/-- **A handle that an operation neither works on nor ends stays as it is.** -/
lemma Effect.handle?_eq (h : Effect l l' s op s') {i : HandleId} {x : Handle}
    (hx : s.handle? i = some x) (hi : i ∉ op.carried) (hfin : ¬ Finishes s i op) :
    s'.handle? i = some x := by
  cases h with
  | founds _ _ h => exact (handle?_congr h.handles_eq i).trans hx
  | closes _ h => exact h ▸ hx
  | removes _ _ frame _ _ => exact (handle?_congr frame.handles_eq i).trans hx
  | frame _ hh _ _ _ => exact (handle?_congr hh i).trans hx
  | carries _ h => exact (h.other_eq i hi).trans hx
  | adds added _ _ => exact added.handle?_of_some hx
  | ends finishes live ended _ _ _ _ _ =>
    rw [ended.handle? live, if_neg fun hij : i = _ => hfin (hij ▸ finishes), hx]

/-- **No effect takes an identifier away.** -/
lemma Effect.grows (h : Effect l l' s op s') : Grows s s' := by
  cases h with
  | founds _ _ h => exact grows_of_eq (congrArg _ h.claims_eq)
  | closes _ h => exact grows_of_eq (h ▸ rfl)
  | removes _ _ frame _ _ => exact grows_of_eq frame.identifiers_eq
  | frame _ _ _ _ h => exact h
  | carries _ h => exact grows_of_eq h.identifiers_eq
  | adds added _ _ => exact grows_of_eq added.identifiers_eq
  | ends _ _ ended _ _ _ _ _ => exact grows_of_eq ended.identifiers_eq

/-- A step that leaves handles, repositories and databases. -/
lemma effect_still (h : Still s s') : Effect l l s op s' :=
  .frame rfl h.handles_eq h.repositories_eq h.databases_eq (grows_of_eq h.identifiers_eq)

/-- A step that opens at most a handle that belongs to no claim. -/
lemma Tells.effect_loose (ht : Tells l s) (h : Loose s s') : Effect l l s op s' := by
  cases h with
  | made added fresh =>
    exact .adds added fresh (Tells.set_self l ht.length_eq_none).symm
  | nothing still => exact effect_still still

/-- An open makes an entry where it answers with a handle. -/
lemma effect_makes {form : Store κ → Handle → Prop} {ans : Except Failure HandleId}
    (hm : Makes form s (s', ans)) {y : Holder}
    (hd : ∀ x, Added x s s' → form s' x → Fresh s' (some y) x) :
    Effect l (l.add (y.made ans)) s op s' := by
  cases hm with
  | made added hform => exact .adds added (hd _ added hform) rfl
  | failed f still => exact effect_still still

/-- An open in a repository. -/
lemma Sound.effect_inRepository (hs : s.Sound) {r : RepositoryId} {c : ClaimId} {y : Holder}
    (act : Store κ → Backend → Store κ × Except Failure HandleId)
    (form : Backend → Store κ → Handle → Prop)
    (hm : ∀ b, s.Knows b → Makes (form b) s (act s b))
    (hd : ∀ b s' x, s'.backendOf? r = some b → form b s' x → Fresh s' (some y) x) :
    Effect l (l.add (y.made (s.inRepository r c act).2)) s op (s.inRepository r c act).1 := by
  unfold Store.inRepository
  split
  · next b hb =>
    refine effect_makes (hm b (hs.knows hb)) fun x added hx => hd b _ x ?_ hx
    rw [backendOf?_congr added.repositories_eq]
    exact backendOf?_of_backend? hb
  · exact effect_still (.refl s)

/-- An open through a claim. -/
lemma Sound.effect_routed (hs : s.Sound) {c : ClaimId} {y : RepositoryId → Holder}
    (act : Store κ → Backend → Store κ × Except Failure HandleId)
    (form : Backend → Store κ → Handle → Prop)
    (hm : ∀ b, s.Knows b → Makes (form b) s (act s b))
    (hd : ∀ r b s' x, s'.backendOf? r = some b → form b s' x → Fresh s' (some (y r)) x) :
    Effect l (l.add ((s.repositoryOf c).bind fun p => (y p.1).made (s.routed c act).2)) s op
      (s.routed c act).1 := by
  cases hr : s.repositoryOf c with
  | none =>
    rw [routed_none hr]
    exact effect_still (.refl s)
  | some p =>
    rw [routed_eq hr]
    exact hs.effect_inRepository act form hm (hd p.1)

/-! ### Ends -/

/-- A mapping is unmapped. -/
lemma Tells.effect_unmap [DecidableEq κ] (ht : Tells l s) (h : HandleId) :
    Effect l (l.set h ((l h).map Holder.unmapped)) s (.unmap h) (s.unmap h).1 := by
  cases hm : s.mapping? h with
  | none =>
    rw [unmap_none hm, Tells.set_self]
    · exact effect_still (.refl s)
    · cases hx : s.handle? h with
      | none => rw [ht.live h hx, Option.map_none]
      | some x =>
        refine (described_not_mapping (ht.described h x hx) fun m hxm => ?_).symm
        cases (mapping?_eq_some.2 (hxm ▸ hx)).symm.trans hm
  | some m =>
    have hx := mapping?_eq_some.1 hm
    refine .ends (.unmap hm) hx (ended_unmap hm) (.mapping m) (fun y hy => ?_)
      (fun hy => nomatch hy) (databases_unmap (ht.described h _ hx) hm) rfl
    obtain rfl := Option.some.inj hy
    exact described_unmap (ht.described h _ hx)

/-- A writer is closed. -/
lemma Tells.effect_close (ht : Tells l s) (h : HandleId) :
    Effect l (l.set h ((l h).map Holder.closed)) s (.close h) (s.close h) := by
  cases hw : s.writer? h with
  | none =>
    rw [close_none hw, Tells.set_self]
    · exact effect_still (.refl s)
    · cases hx : s.handle? h with
      | none => rw [ht.live h hx, Option.map_none]
      | some x =>
        refine (described_not_writer (ht.described h x hx) fun w hxw => ?_).symm
        cases (writer?_eq_some.2 (hxw ▸ hx)).symm.trans hw
  | some w =>
    have hx := writer?_eq_some.1 hw
    cases hopen : w.isOpen with
    | true =>
      refine .ends (.close hw) hx (ended_close hw hopen) (.writer w) (fun y hy => ?_)
        (fun hy => nomatch hy) (databases_close hw hopen) rfl
      obtain rfl := Option.some.inj hy
      exact described_close (ht.described h _ hx)
    | false =>
      rw [close_closed hw hopen, Tells.set_self]
      · exact effect_still (.refl s)
      · refine (described_closed (ht.described h _ hx) ?_).symm
        exact Option.isSome_eq_false_iff.1 hopen |> Option.isNone_iff_eq_none.1

/-- A handle is dropped. -/
lemma Tells.effect_drop [DecidableEq κ] (ht : Tells l s) (h : HandleId) :
    Effect l (l.set h none) s (.drop h) (s.drop h) := by
  cases hx : s.handle? h with
  | none =>
    rw [drop_none hx, Tells.set_self l (ht.live h hx)]
    exact effect_still (.refl s)
  | some x =>
    exact .ends .drop hx (ended_drop hx) (.nothing x) (fun y hy => nomatch hy) (fun _ => rfl)
      (databases_drop (ht.described h x hx) hx) rfl

/-! ### Operations -/

section Operations

variable [DecidableEq κ] [ToString κ]

/-- An operation on a mapping or a stream that goes on, or on a table, leaves the ledger. -/
lemma ledger_eq_of_group (l : Ledger) (s : Store κ) {op : Operation κ}
    (hop : op.group = .mapping ∨ op.group = .stream ∨ op.group = .table) :
    (l.mark op).add (s.openedUnder .quiet op) = l := by
  rcases hop with hop | hop | hop <;> cases op <;> first | rfl | cases hop

/-- The effect of an operation on repositories and claims. -/
lemma effect_setup {op : Operation κ} (hop : op.group = .setup) :
    Effect l ((l.mark op).add (s.openedUnder .quiet op)) s op (s.perform op) := by
  cases op with
  | openRepository kind => exact .founds rfl rfl (founds_openRepository s kind)
  | closeRepository r => exact .closes rfl rfl
  | addClaim x r =>
    refine .frame rfl rfl rfl rfl ?_
    exact (List.prefix_append s.claims _).map _
  | acquire c =>
    have fresh : Fresh (s.takeReference c |>.addHandle (.reference c)).1
        (some ⟨c, s.identifier c, .reference, false⟩) (.reference c) :=
      ⟨.reference c _, fun _ _ _ _ ho => (by cases ho), trivial,
        fun y hy => Option.some.inj hy ▸ rfl⟩
    exact .adds ((still_takeReference s c).added (.reference c)) fresh rfl
  | removeContent r c =>
    refine .removes rfl rfl (frame_removeContent s r c) (length_removeContent s r c)
      fun d x hne => ?_
    obtain ⟨hb, hx, hzero, -⟩ := row?_removeContent hne
    exact ⟨hb, hx, hzero⟩
  | _ => cases hop

/-- The effect of an open of content: a handle is made where it answers with one. -/
lemma Sound.effect_opening (hs : s.Sound) {op : Operation κ} (hop : op.group = .opening) :
    Effect l ((l.mark op).add (s.openedUnder .quiet op)) s op (s.perform op) := by
  cases op with
  | mapContent r c n readOnly =>
    show Effect l (l.add (Holder.made _ (s.mapContentUnder .quiet r c n readOnly).2)) s _
      (s.mapContent r c n readOnly).1
    rw [mapContentUnder_quiet]
    exact hs.effect_inRepository _ (fun b => NewMapping b c n readOnly s)
      (fun b hb => makes_mapIn hb c n readOnly) fun b s' x hb hx => hx.fresh hb
  | readContent r c =>
    show Effect l (l.add (Holder.made _ (s.readContentUnder .quiet r c).2)) s _
      (s.readContent r c).1
    rw [readContentUnder_quiet]
    exact hs.effect_inRepository _ (fun b => NewReader b c s) (fun b hb => makes_readIn hb c)
      fun b s' x hb hx => hx.fresh hb
  | writeContent r c append =>
    show Effect l (l.add (Holder.made _ (s.writeContentUnder .quiet r c append).2)) s _
      (s.writeContent r c append).1
    rw [writeContentUnder_quiet]
    exact hs.effect_inRepository _ (fun b => NewWriter b c append s)
      (fun b hb => makes_writeIn hb c append)
      fun b s' x hb hx => hx.fresh hb
  | mapClaim c n readOnly =>
    show Effect l (l.add ((s.repositoryOf c).bind fun p =>
      Holder.made _ (s.mapClaimUnder .quiet c n readOnly).2)) s _ (s.mapClaim c n readOnly).1
    rw [mapClaimUnder_quiet]
    exact hs.effect_routed _ (fun b => NewMapping b c n readOnly s)
      (fun b hb => makes_mapIn hb c n readOnly) fun r b s' x hb hx => hx.fresh hb
  | readClaim c =>
    show Effect l (l.add ((s.repositoryOf c).bind fun p =>
      Holder.made _ (s.readClaimUnder .quiet c).2)) s _ (s.readClaim c).1
    rw [readClaimUnder_quiet]
    exact hs.effect_routed _ (fun b => NewReader b c s) (fun b hb => makes_readIn hb c)
      fun r b s' x hb hx => hx.fresh hb
  | writeClaim c append =>
    show Effect l (l.add ((s.repositoryOf c).bind fun p =>
      Holder.made _ (s.writeClaimUnder .quiet c append).2)) s _ (s.writeClaim c append).1
    rw [writeClaimUnder_quiet]
    exact hs.effect_routed _ (fun b => NewWriter b c append s)
      (fun b hb => makes_writeIn hb c append)
      fun r b s' x hb hx => hx.fresh hb
  | _ => cases hop

/-- The effect of an operation on a mapping, which goes on. -/
lemma effect_mapping {op : Operation κ} (hop : op.group = .mapping) :
    Effect l l s op (s.perform op) := by
  cases op with
  | writeAt map offset b => exact .carries rfl (carries_writeAt s map offset b)
  | fillView map byte => exact .carries rfl (carries_fillView s map byte)
  | resize map n => exact .carries rfl (carries_resize s map n)
  | flush map => exact effect_still (still_flush s map)
  | registerHook map name failure probe =>
    exact .carries rfl (carries_registerHook s map name failure probe)
  | _ => cases hop

/-- The effect of an operation on a reader or a writer, which goes on. -/
lemma effect_stream {op : Operation κ} (hop : op.group = .stream) :
    Effect l l s op (s.perform op) := by
  cases op with
  | readRaw reader n =>
    exact .carries rfl (carries_deliver s (List.mem_singleton.2 (rfl : reader = reader)) _)
  | readData reader buffer maxLen => exact .carries rfl (carries_readData s reader buffer maxLen)
  | readToEnd reader => exact .carries rfl (carries_readToEnd s reader)
  | seek reader offset => exact .carries rfl (carries_seek s reader offset)
  | writeRaw writer b =>
    exact .carries rfl (carries_accept s (List.mem_singleton.2 (rfl : writer = writer)) _)
  | writeData writer b => exact .carries rfl (carries_writeData s writer b.bytes)
  | copy reader writer =>
    rcases s.perform_copy reader writer with heq | ⟨s', r, hcopy, heq⟩ <;> rw [heq]
    · exact effect_still (.refl s)
    · exact .carries rfl (carries_copy hcopy)
  | _ => cases hop

/-- The effect of an operation that ends a handle. -/
lemma Tells.effect_ending (ht : Tells l s) {op : Operation κ} (hop : op.group = .ending) :
    Effect l ((l.mark op).add (s.openedUnder .quiet op)) s op (s.perform op) := by
  cases op with
  | unmap map => exact ht.effect_unmap map
  | close writer => exact ht.effect_close writer
  | drop h => exact ht.effect_drop h
  | _ => cases hop

/-- The effects of the calls on tables: at most a handle is made, and it belongs to no claim. -/
lemma Tells.effect_calls (ht : Tells l s) (hs : s.Sound) : TableCalls s (Effect l l s) where
  none _ := effect_still (.refl s)
  addTable _ _ := .frame rfl rfl rfl rfl List.prefix_rfl
  insertEntry t key _ := ht.effect_loose (loose_insertEntry s t key)
  borrowEntry t key _ := ht.effect_loose (loose_borrowEntry s t key)
  cloneBorrow _ t e _ := ht.effect_loose (loose_cloneBorrow s t e)
  removeEntry _ _ _ := .frame rfl rfl rfl rfl List.prefix_rfl
  lockValue _ writing t e _ := ht.effect_loose (loose_lockValue s t e writing)
  storeValue _ offset b t e _ := effect_still (still_storeValue s t e offset b)
  resizeValue _ _ n t e _ _ := effect_still (still_resizeValue s t e n)
  appendValue _ _ b t e _ _ := effect_still (still_appendValue s t e b.bytes)
  mapKey _ key n readOnly hlt := ht.effect_loose (loose_mapKey hlt key n readOnly)
  mapBorrow _ n readOnly _ e hb :=
    ht.effect_loose (loose_mapEntry (lt_of_stored (hs.stored_borrowed hb)) e n readOnly)

/-- **The effect of an operation.**

**Proof sketch.** An operation on what is not there has none. The others are taken group by group:
what goes on leaves the ledger, an open adds the entry of its answer, an end marks one. -/
lemma Tells.effect_step (ht : Tells l s) (hs : s.Sound) (op : Operation κ) :
    Effect l (l.after .quiet s op) s op (s.step op) := by
  unfold Ledger.after Store.step
  split
  swap
  · exact effect_still (.refl s)
  next happ =>
  cases hop : op.group with
  | setup => exact effect_setup hop
  | opening => exact hs.effect_opening hop
  | mapping =>
    rw [ledger_eq_of_group l s (.inl hop)]
    exact effect_mapping hop
  | stream =>
    rw [ledger_eq_of_group l s (.inr (.inl hop))]
    exact effect_stream hop
  | ending => exact ht.effect_ending hop
  | table =>
    rw [ledger_eq_of_group l s (.inr (.inr hop))]
    exact (ht.effect_calls hs).perform hop happ

end Operations

end Store

end ClaimStore
