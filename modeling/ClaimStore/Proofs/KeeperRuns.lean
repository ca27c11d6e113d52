import ClaimStore.Proofs.KeeperStreams

/-!
# Accesses to keepers

A store that is to callers what a shelf is answers to an access as the shelf does, and is afterwards
what the shelf is then: until a limit is hit, and as long as the backend admits what it is asked
for. By induction it answers to any sequence of accesses as the shelf does.

## Main definitions

* `Keeper.AdmitsAccess` — the accesses that a backend admits.

## Main results

* `Keeper.Mirrors.map`, `Keeper.Mirrors.read`, `Keeper.Mirrors.write` — an access that opens
  something.
* `Keeper.Mirrors.access` — an access.
* `Keeper.Mirrors.accesses` — a sequence of accesses.
-/

set_option autoImplicit false

namespace ClaimStore

open Store

/-- A condition that follows from one that holds before each step. -/
lemma Along.mono {σ α ρ : Type} {f : σ → α → σ × ρ} {P Q : σ → α → Prop} {s : σ} {as : List α}
    (hP : Along f P s as) (h : ∀ a ∈ as, ∀ s, P s a → Q s a) : Along f Q s as := by
  induction as generalizing s with
  | nil => trivial
  | cons a as ih =>
    exact ⟨h a List.mem_cons_self s hP.1,
      ih hP.2 fun a' ha => h a' (List.mem_cons_of_mem a ha)⟩

/-- A condition that holds of every element of a list. -/
lemma along_of_forall {σ α ρ : Type} {f : σ → α → σ × ρ} {P : σ → α → Prop} (as : List α)
    (h : ∀ a ∈ as, ∀ s, P s a) (s : σ) : Along f P s as := by
  induction as generalizing s with
  | nil => trivial
  | cons a as ih =>
    exact ⟨h a List.mem_cons_self s, ih (fun a' ha => h a' (List.mem_cons_of_mem a ha)) _⟩

namespace Keeper

variable {κ : Type} [DecidableEq κ] [ToString κ] {b : Backend} (K : Keeper κ b)

/-- The accesses to a shelf that a backend admits: claims under names that it can keep, writable
mappings of lengths that it can give them, and raw reads and writes that it moves at once. -/
def AdmitsAccess (σ : Shelf) : Access → Prop
  | .addClaim x => K.Admits x
  | .map c n readOnly uses =>
    (c < σ.claims.length → readOnly = false → K.AdmitsMapping (σ.contents (σ.identifier c)) n) ∧
      ∀ m, .resize m ∈ uses → K.AdmitsLength m
  | .read _ uses => ∀ n, .readRaw n ∈ uses → K.AdmitsTransfer n
  | .write _ _ uses => ∀ p : Payload, .writeRaw p ∈ uses → K.AdmitsTransfer p.bytes.size
  | .acquire _ | .release _ | .holds _ | .length _ | .remove _ => True

/-- A backend that can keep everything admits every access. -/
lemma admitsAccess_of_forall (hx : ∀ x, K.Admits x) (ho : ∀ o n, K.AdmitsMapping o n)
    (hn : ∀ n, K.AdmitsLength n) (ht : ∀ n, K.AdmitsTransfer n) (σ : Shelf) (a : Access) :
    K.AdmitsAccess σ a := by
  cases a with
  | addClaim x => exact hx x
  | map c n readOnly uses => exact ⟨fun _ _ => ho _ n, fun m _ => hn m⟩
  | read c uses => exact fun n _ => ht n
  | write c append uses => exact fun p _ => ht p.bytes.size
  | acquire | release | holds | length | remove => trivial

/-- Some reply says that a limit was hit. -/
def HitsLimit (replies : List Reply) : Prop := ∃ x ∈ replies, K.Full x

variable {K} {r : RepositoryId} {c : ClaimId} {s : Store κ} {σ : Shelf}

/-- A limit that was hit before was hit. -/
lemma hitsLimit_cons {x : Reply} {replies : List Reply} (h : K.HitsLimit replies) :
    K.HitsLimit (x :: replies) := by
  obtain ⟨y, hy, hfull⟩ := h
  exact ⟨y, List.mem_cons_of_mem x hy, hfull⟩

/-- An open that was refused hits a limit. -/
lemma hitsLimit_of_refused {α : Type} {use : HandleId → Store κ → α → Store κ × Reply}
    {uses : List α} {o : Except Failure HandleId} (h : K.Limited ∧ Refused o) :
    K.HitsLimit (whileOpen use uses (s, o)).2 := by
  obtain ⟨hlimited, requested, available, rfl⟩ := h
  exact ⟨_, List.mem_singleton_self _, hlimited, rfl⟩

/-! ### Claims and references -/

/-- A claim has the same identifier in the store and on the shelf. -/
lemma Mirrors.identifier_eq (hm : K.Mirrors r s σ) (c : ClaimId) :
    s.identifier c = σ.identifier c :=
  identifier_of_claims hm.claims_eq c

/-- Nothing is leased or locked. -/
lemma Mirrors.quiet (hm : K.Mirrors r s σ) : Quiet s :=
  quiet_of_references hm.sound (hm.handles_eq ▸ hm.references)

/-- A claim on the shelf is one in the store. -/
lemma Mirrors.lt_length (hm : K.Mirrors r s σ) (hc : c < σ.claims.length) :
    c < s.claims.length := by
  rw [hm.claims_eq]
  exact hc

/-- Content can be kept for a claim on the shelf. -/
lemma Mirrors.admits (hm : K.Mirrors r s σ) (hc : c < σ.claims.length) :
    K.Admits (s.identifier c) := by
  rw [hm.identifier_eq]
  exact hm.toServes.admits K hc

/-- A claim that is made. -/
lemma Mirrors.addClaim (hm : K.Mirrors r s σ) {x : String} (hx : K.Admits x) :
    K.Mirrors r (s.addClaim x (some r)).1
      { σ with claims := σ.claims ++ [{ identifier := x, repository := some r, references := 0 }] } where
  sound := (hm.sound.took (took_addClaim s x (some r))).sound
  backend_eq := hm.backend_eq
  own y hy := by
    rcases List.mem_append.1 hy with hy | hy
    · exact hm.own y hy
    · rw [List.mem_singleton.1 hy]
      exact ⟨rfl, hx⟩
  references := hm.references
  log_eq := hm.log_eq
  claims_eq := congrArg (· ++ _) hm.claims_eq
  handles_eq := hm.handles_eq
  keeps := K.keeps_besides (s := s) ⟨rfl, rfl, rfl, rfl⟩ hm.keeps

/-- A claim whose references change is the same claim. -/
lemma Serves.own_modify (hs : K.Serves r s σ) (c : ClaimId) (f : Nat → Nat) :
    ∀ y ∈ σ.claims.modify c (fun x => { x with references := f x.references }),
      y.repository = some r ∧ K.Admits y.identifier := by
  intro y hy
  obtain ⟨i, hi⟩ := List.getElem?_of_mem hy
  rw [List.getElem?_modify] at hi
  obtain ⟨z, hz, rfl⟩ := Option.map_eq_some_iff.1 hi
  have hown := hs.own z (List.mem_of_getElem? hz)
  split <;> exact hown

/-- A reference that is taken. -/
lemma Mirrors.acquire (hm : K.Mirrors r s σ) (hc : c < σ.claims.length) :
    K.Mirrors r (s.acquire c).1 { σ with
      claims := σ.claims.modify c fun x => { x with references := x.references + 1 }
      handles := σ.handles ++ [some (.reference c)] } where
  sound := (hm.sound.opens (opens_acquire (hm.lt_length hc))).sound
  backend_eq := hm.backend_eq
  own := hm.toServes.own_modify c (· + 1)
  references := by
    intro o ho
    rcases List.mem_append.1 ho with ho | ho
    · exact hm.references o ho
    · exact .inr ⟨c, List.mem_singleton.1 ho⟩
  log_eq := hm.log_eq
  claims_eq := congrArg (List.modify · c _) hm.claims_eq
  handles_eq := congrArg (· ++ _) hm.handles_eq
  keeps := K.keeps_besides (s := s) ⟨rfl, rfl, rfl, rfl⟩ hm.keeps

/-- A reference that is given back.

**Proof sketch.** A reference is the only sort of handle on the shelf. What is given back there is
given back in the store, and an empty place stays empty on both sides. -/
lemma Mirrors.release (hm : K.Mirrors r s σ) (h : HandleId) :
    K.Mirrors r (s.drop h) (σ.release h) := by
  have hsound := (hm.sound.drop h).sound
  unfold Shelf.release
  unfold Store.drop at hsound ⊢
  have hplace : s.handle? h = (σ.handles[h]?).getD none := by
    unfold Store.handle?
    rw [hm.handles_eq]
    cases σ.handles[h]? <;> rfl
  rw [hplace] at hsound ⊢
  cases ho : σ.handles[h]? with
  | none =>
    have hnone : s.discard h = s := by
      unfold Store.discard
      rw [hplace, ho]
      rfl
    simpa only [Option.getD_none, hnone] using hm
  | some o =>
    rcases hm.references o (List.mem_of_getElem? ho) with rfl | ⟨c, rfl⟩
    · have hnone : s.discard h = s := by
        unfold Store.discard
        rw [hplace, ho]
        rfl
      simpa only [Option.getD_some, hnone] using hm
    · have hdiscard : s.discard h = { s.release (.reference c) with
          handles := (s.release (.reference c)).handles.set h none } := by
        unfold Store.discard
        rw [hplace, ho]
        rfl
      simp only [ho, Option.getD_some, hdiscard] at hsound ⊢
      exact {
        sound := hsound
        backend_eq := hm.backend_eq
        own := hm.toServes.own_modify c (· - 1)
        references := by
          intro o ho'
          rcases List.mem_or_eq_of_mem_set ho' with ho' | rfl
          · exact hm.references o ho'
          · exact .inl rfl
        log_eq := hm.log_eq
        claims_eq := congrArg (List.modify · c _) hm.claims_eq
        handles_eq := congrArg (List.set · h none) hm.handles_eq
        keeps := K.keeps_besides (s := s) ⟨rfl, rfl, rfl, rfl⟩ hm.keeps }

/-! ### What is stored -/

/-- **The length of the content** is that of the bytes on the shelf. -/
lemma Mirrors.storedLength_eq (hm : K.Mirrors r s σ) (hc : c < σ.claims.length) :
    s.storedLength r c = .ok ((σ.contents (σ.identifier c)).map Bytes.size) := by
  unfold Store.storedLength
  simp only [hm.backend_eq]
  rw [K.lengthIn_eq hm.keeps (hm.admits hc), hm.identifier_eq]

/-- There is content in the store exactly if there is on the shelf. -/
lemma Mirrors.holdsContent_eq (hm : K.Mirrors r s σ) (hc : c < σ.claims.length) :
    s.holdsContent r c = .ok (σ.contents (σ.identifier c)).isSome := by
  rw [holdsContent, hm.storedLength_eq hc, ← Option.isSome_map]
  rfl

/-- **Content that is removed**, unless the claim is referenced. -/
lemma Mirrors.remove (hm : K.Mirrors r s σ) (hc : c < σ.claims.length) :
    [.of .flag (s.removeContent r c).2] = (σ.remove c).2 ∧
      K.Mirrors r (s.removeContent r c).1 (σ.remove c).1 := by
  have hsound : (s.removeContent r c).1.Sound :=
    (hm.sound.inRepository fun b hb => .nothing (took_removeIn hb)).sound
  have hremove : s.removeContent r c = s.removeIn b c := by
    unfold Store.removeContent Store.inRepository
    simp only [hm.backend_eq]
  rw [hremove] at hsound ⊢
  unfold Shelf.remove
  rw [← references_of_claims hm.claims_eq]
  by_cases href : 0 < s.references c
  · have hused : s.removeIn b c =
        (s, .error (.content (.claimInUse (s.identifier c) (s.references c)))) :=
      removeIn_of_referenced href b
    rw [if_pos href, hused]
    exact ⟨rfl, hm⟩
  · obtain ⟨s', hb, heq, hkeeps⟩ :=
      K.removeIn_eq hm.keeps hm.quiet (hm.admits hc) (Nat.eq_zero_of_not_pos href)
    rw [heq] at hsound
    rw [if_neg href, heq, ← hm.identifier_eq]
    exact ⟨rfl, {
      toServes := (hm.toServes.congr hsound hb.repositories_eq hb.log_eq).withContents _
      claims_eq := hb.claims_eq.trans hm.claims_eq
      handles_eq := hb.handles_eq.trans hm.handles_eq
      keeps := hkeeps }⟩

/-! ### Mappings, readers and writers -/

variable (K) in
/-- The mapping of what is kept under an identifier. -/
def fresh (x : String) (readOnly : Bool) (k : Backing) : Mapping where
  backing := k
  readOnly
  hooks := ⟨K.before readOnly x, false⟩

/-- A mapping that was opened is used and dropped. -/
lemma Mirrors.mapping (hm : K.Mirrors r s σ) {s' : Store κ} {x : String} {readOnly : Bool}
    {k : Backing} {l : Option Lease} {v : Bytes} (hb : Behind s s')
    (hsound : (s'.addHeldMapping (K.fresh x readOnly k) c l).1.Sound)
    (hshows : K.Shows s' σ.contents x readOnly k v) {uses : List MappingUse}
    (huses : ∀ n, .resize n ∈ uses → K.AdmitsLength n)
    {opened : Store κ × Except Failure HandleId}
    (hopened : opened = succeed (s'.addHeldMapping (K.fresh x readOnly k) c l)) :
    K.HitsLimit (whileOpen useMapping uses opened).2 ∨
      ((whileOpen useMapping uses opened).2 = (σ.mapping x readOnly v uses).2 ∧
        K.Mirrors r (whileOpen useMapping uses opened).1 (σ.mapping x readOnly v uses).1) := by
  have hhandles : s'.handles = σ.handles := hb.handles_eq.trans hm.handles_eq
  have hmaps : K.Maps r c σ.handles.length (s'.addHeldMapping (K.fresh x readOnly k) c l).1
      { shelf := σ, identifier := x, readOnly, shown := some v, hooks := [] } := by
    refine .inl ⟨{ K.fresh x readOnly k with
      hooks := (K.fresh x readOnly k).hooks.push (.hold c l) }, l, v, ?_⟩
    exact {
      toServes := hm.toServes.congr hsound hb.repositories_eq hb.log_eq
      place_eq := rfl
      handles_eq := congrArg (· ++ _) hhandles
      readOnly_eq := rfl
      shown_eq := rfl
      claims_eq := congrArg (List.modify · c _) (hb.claims_eq.trans hm.claims_eq)
      hooks_eq := rfl
      records := fun g hg => absurd hg List.not_mem_nil
      shows := K.shows_besides (s := s') ⟨rfl, rfl, rfl, rfl⟩ hshows }
  have halong : Along Shelf.Mapping.use
      (fun _ u => ∀ n, u = MappingUse.resize n → K.AdmitsLength n)
      { shelf := σ, identifier := x, readOnly, shown := some v, hooks := [] } uses :=
    along_of_forall uses (fun u hu _ n hn => huses n (by rw [← hn]; exact hu)) _
  have hrun := inTurn_related (f := useMapping σ.handles.length)
    (R := K.Maps r c σ.handles.length) (Q := K.Full)
    (fun t μ u hR hP => hR.use_eq hP) hmaps halong
  have hplace : (s'.addHeldMapping (K.fresh x readOnly k) c l).2 = σ.handles.length :=
    congrArg List.length hhandles
  rw [hopened]
  unfold whileOpen succeed
  dsimp only
  rw [hplace]
  rcases hrun with hfull | ⟨hreplies, hlast⟩
  · exact .inl (hitsLimit_cons hfull)
  · refine .inr ⟨?_, hlast.drop⟩
    rw [hreplies]
    rfl

/-- **A mapping** that is opened, used and dropped.

**Proof sketch.** A read-only mapping fails in the store as on the shelf where there is no content
or too little of it; a writable one fails only at a limit. Otherwise both show the same bytes, and
the uses and the drop that follow agree step by step. -/
lemma Mirrors.map (hm : K.Mirrors r s σ) (hc : c < σ.claims.length) {n : UInt64}
    {readOnly : Bool} (hn : readOnly = false → K.AdmitsMapping (σ.contents (σ.identifier c)) n)
    {uses : List MappingUse} (huses : ∀ n, .resize n ∈ uses → K.AdmitsLength n) :
    K.HitsLimit (whileOpen useMapping uses (s.mapContent r c n readOnly)).2 ∨
      ((whileOpen useMapping uses (s.mapContent r c n readOnly)).2 =
          (σ.map (σ.identifier c) n.toNat readOnly uses).2 ∧
        K.Mirrors r (whileOpen useMapping uses (s.mapContent r c n readOnly)).1
          (σ.map (σ.identifier c) n.toNat readOnly uses).1) := by
  have hsound := (hm.sound.opens (opens_mapIn (hm.sound.knows hm.backend_eq)
    (hm.lt_length hc) n readOnly)).sound
  have hmap : s.mapContent r c n readOnly = s.mapIn b c n readOnly := by
    unfold Store.mapContent Store.inRepository
    simp only [hm.backend_eq]
  have hadmits := hm.admits hc
  rw [hmap, ← hm.identifier_eq]
  rw [← hm.identifier_eq] at hn
  unfold Shelf.map
  cases readOnly with
  | true =>
    rw [if_pos rfl]
    cases hv : σ.contents (s.identifier c) with
    | none =>
      rw [K.mapIn_none n hm.keeps hadmits hv, missingContent]
      refine .inr ⟨?_, hm⟩
      simp only [whileOpen]
      split <;> rfl
    | some v =>
      dsimp only
      by_cases hshort : v.size < n.toNat
      · obtain ⟨e, hkind, heq⟩ := K.mapIn_short hm.keeps hm.quiet hadmits hv hshort
        rw [heq, if_pos hshort]
        refine .inr ⟨?_, hm⟩
        simp only [whileOpen, Failure.complaint, hkind]
      · obtain ⟨s', k, l, hb, heq, hshows⟩ :=
          K.mapIn_readOnly hm.keeps hm.quiet hadmits hv (Nat.not_lt.1 hshort)
        rw [if_neg hshort]
        refine hm.mapping hb ?_ hshows huses heq
        rw [heq] at hsound
        exact hsound
  | false =>
    rw [if_neg Bool.false_ne_true]
    rcases K.mapIn_writable hm.keeps hm.quiet hadmits (hn rfl) with
      hfull | ⟨s', k, l, hb, heq, hshows⟩
    · exact .inl (hitsLimit_of_refused hfull)
    · refine hm.mapping hb ?_ hshows huses heq
      rw [heq] at hsound
      exact hsound

/-- **A reader** that is opened, used and dropped.

**Proof sketch.** The reader that is opened delivers the content of the shelf from its beginning.
The uses agree step by step, and the drop leaves the store as the shelf. -/
lemma Mirrors.read (hm : K.Mirrors r s σ) (hc : c < σ.claims.length) {uses : List ReaderUse}
    (huses : ∀ n, .readRaw n ∈ uses → K.AdmitsTransfer n) :
    (whileOpen useReader uses (s.readContent r c)).2 = (σ.read (σ.identifier c) uses).2 ∧
      K.Mirrors r (whileOpen useReader uses (s.readContent r c)).1
        (σ.read (σ.identifier c) uses).1 := by
  have hsound := (hm.sound.opens (opens_readIn (hm.sound.knows hm.backend_eq)
    (hm.lt_length hc))).sound
  have hread : s.readContent r c = s.readIn b c := by
    unfold Store.readContent Store.inRepository
    simp only [hm.backend_eq]
  have hadmits := hm.admits hc
  rw [hread, ← hm.identifier_eq]
  unfold Shelf.read
  cases hv : σ.contents (s.identifier c) with
  | none =>
    rw [K.readIn_none hm.keeps hadmits hv]
    exact ⟨rfl, hm⟩
  | some v =>
    obtain ⟨s', source, hb, heq, hkeeps, hdelivers, hmoves⟩ :=
      K.readIn_some hm.keeps hm.quiet hadmits hv
    have hhandles : s'.handles = σ.handles := hb.handles_eq.trans hm.handles_eq
    rw [heq] at hsound
    have hreading : ∃ a, K.Reading r c σ.handles.length (s'.addReader c source).1
        { shelf := σ, content := v, position := 0 } a := by
      refine ⟨{ claim := c, source, position := 0 }, ?_⟩
      exact {
        toServes := hm.toServes.congr hsound hb.repositories_eq hb.log_eq
        place_eq := rfl
        handles_eq := congrArg (· ++ _) hhandles
        claim_eq := rfl
        claims_eq := congrArg (List.modify · c _) (hb.claims_eq.trans hm.claims_eq)
        keeps := K.keeps_besides (s := s') ⟨rfl, rfl, rfl, rfl⟩ hkeeps
        delivers := hdelivers
        atOnce_eq := hmoves
        position_eq := rfl
        position_le := Nat.zero_le _ }
    have halong : Along Shelf.Reader.use
        (fun _ u => ∀ n, u = ReaderUse.readRaw n → K.AdmitsTransfer n)
        { shelf := σ, content := v, position := 0 } uses :=
      along_of_forall uses (fun u hu _ n hn => huses n (by rw [← hn]; exact hu)) _
    have hrun := inTurn_related (f := useReader σ.handles.length)
      (R := fun t ρ => ∃ a, K.Reading r c σ.handles.length t ρ a) (Q := fun _ => False)
      (fun t ρ u hR hP => hR.elim fun a ha => .inr (ha.use_eq hP)) hreading halong
    have hplace : (s'.addReader c source).2 = σ.handles.length := congrArg List.length hhandles
    rw [heq]
    unfold whileOpen succeed
    dsimp only
    rw [hplace]
    rcases hrun with ⟨x, -, hx⟩ | ⟨hreplies, a, hlast⟩
    · exact hx.elim
    · rw [hreplies]
      exact ⟨rfl, hlast.drop⟩

/-- **A writer** that is opened, used and dropped.

**Proof sketch.** The writer that is opened has collected what the shelf says it starts from. The
uses agree step by step unless a limit is hit, and the drop stores on both sides what was
collected. -/
lemma Mirrors.write (hm : K.Mirrors r s σ) (hc : c < σ.claims.length) (append : Bool)
    {uses : List WriterUse}
    (huses : ∀ p : Payload, .writeRaw p ∈ uses → K.AdmitsTransfer p.bytes.size) :
    K.HitsLimit (whileOpen useWriter uses (s.writeContent r c append)).2 ∨
      ((whileOpen useWriter uses (s.writeContent r c append)).2 =
          (σ.write (σ.identifier c) append uses).2 ∧
        K.Mirrors r (whileOpen useWriter uses (s.writeContent r c append)).1
          (σ.write (σ.identifier c) append uses).1) := by
  have hsound := (hm.sound.opens (opens_writeIn (hm.sound.knows hm.backend_eq)
    (hm.lt_length hc) append)).sound
  have hwrite : s.writeContent r c append = s.writeIn b c append := by
    unfold Store.writeContent Store.inRepository
    simp only [hm.backend_eq]
  rw [hwrite, ← hm.identifier_eq]
  rcases K.writeIn_eq append hm.keeps hm.quiet (hm.admits hc) with
    hfull | ⟨s', sink, l, hb, heq, hwrites⟩
  · exact .inl (hitsLimit_of_refused hfull)
  · have hhandles : s'.handles = σ.handles := hb.handles_eq.trans hm.handles_eq
    rw [heq] at hsound
    obtain ⟨v, hv⟩ : ∃ v, v = if append then (σ.contents (s.identifier c)).getD .empty
      else .empty := ⟨_, rfl⟩
    rw [← hv] at hwrites
    have hcollects : K.Collects r c σ.handles.length (s'.addWriter c sink l).1
        { shelf := σ, identifier := s.identifier c, content := v, written := 0, isOpen := true } := by
      refine .inl ⟨{ claim := c, sink, written := 0, lease := some l }, l, ?_⟩
      exact {
        toServes := hm.toServes.congr hsound hb.repositories_eq hb.log_eq
        place_eq := rfl
        handles_eq := congrArg (· ++ _) hhandles
        claim_eq := rfl
        written_eq := rfl
        lease_eq := rfl
        isOpen_eq := rfl
        claims_eq := congrArg (List.modify · c _) (hb.claims_eq.trans hm.claims_eq)
        writes := K.writes_besides (s := s') ⟨rfl, rfl, rfl, rfl⟩ hwrites }
    have halong : Along Shelf.Writer.use
        (fun _ u => ∀ p : Payload, u = WriterUse.writeRaw p → K.AdmitsTransfer p.bytes.size)
        { shelf := σ, identifier := s.identifier c, content := v, written := 0, isOpen := true }
        uses :=
      along_of_forall uses (fun u hu _ p hp => huses p (by rw [← hp]; exact hu)) _
    have hrun := inTurn_related (f := useWriter σ.handles.length)
      (R := K.Collects r c σ.handles.length) (Q := K.Full)
      (fun t ω u hR hP => hR.use_eq hP) hcollects halong
    have hplace : (s'.addWriter c sink l).2 = σ.handles.length := congrArg List.length hhandles
    rw [heq]
    unfold whileOpen succeed
    dsimp only
    rw [hplace]
    unfold Shelf.write
    rw [← hv]
    rcases hrun with hfull | ⟨hreplies, hlast⟩
    · exact .inl (hitsLimit_cons hfull)
    · refine .inr ⟨?_, hlast.drop⟩
      rw [hreplies]

/-! ### Accesses -/

/-- **An access has the same replies in the store and on the shelf**, and leaves the store as the
shelf is then, unless a limit is hit. -/
lemma Mirrors.access (hm : K.Mirrors r s σ) {a : Access} (ha : K.AdmitsAccess σ a) :
    K.HitsLimit (s.access r a).2 ∨
      ((s.access r a).2 = (σ.access r a).2 ∧ K.Mirrors r (s.access r a).1 (σ.access r a).1) := by
  unfold Store.access Shelf.access
  rw [hm.claims_eq]
  by_cases hclaim : a.claim?.all (· < σ.claims.length) = true
  · rw [if_pos hclaim, if_pos hclaim]
    cases a with
    | addClaim x => exact .inr ⟨rfl, hm.addClaim ha⟩
    | acquire c => exact .inr ⟨rfl, hm.acquire (of_decide_eq_true hclaim)⟩
    | release h => exact .inr ⟨rfl, hm.release h⟩
    | holds c =>
      refine .inr ⟨?_, hm⟩
      simp only [hm.holdsContent_eq (of_decide_eq_true hclaim), Reply.of]
    | length c =>
      refine .inr ⟨?_, hm⟩
      simp only [hm.storedLength_eq (of_decide_eq_true hclaim), Reply.of]
    | remove c => exact .inr (hm.remove (of_decide_eq_true hclaim))
    | map c n readOnly uses =>
      have hc := of_decide_eq_true hclaim
      exact hm.map hc (ha.1 hc) ha.2
    | read c uses => exact .inr (hm.read (of_decide_eq_true hclaim) ha)
    | write c append uses => exact hm.write (of_decide_eq_true hclaim) append ha
  · rw [if_neg hclaim, if_neg hclaim]
    exact .inr ⟨rfl, hm⟩

/-- **A sequence of accesses has the same replies in the store and on the shelf**, unless a limit
is hit. -/
theorem Mirrors.accesses (hm : K.Mirrors r s σ) {as : List Access}
    (has : Along (Shelf.access r) K.AdmitsAccess σ as) :
    (∃ replies ∈ (s.accesses r as).2, K.HitsLimit replies) ∨
      ((s.accesses r as).2 = (σ.accesses r as).2 ∧
        K.Mirrors r (s.accesses r as).1 (σ.accesses r as).1) :=
  inTurn_related (fun _ _ _ hR hP => hR.access hP) hm has

end Keeper

end ClaimStore
