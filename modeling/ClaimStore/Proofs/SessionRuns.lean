import ClaimStore.Proofs.Sessions

/-!
# Sessions leave a store in order

After every session handles hold what is counted, read inside the values that they lock, and
mappings have one of their forms. This is what is always true of handles, over all that callers do:
the operations under faults, mappings that belong to no repository, and changes of the length of a
file that fail half-way.

## Main definitions

* `Store.Ordered` — what is true after every session.

## Main results

* `Store.Ordered.session` — all sessions leave a store in order.
* `Store.Ordered.backing_session` — a mapping that is read-only, or has no view any more, stays at
  its place.
-/

set_option autoImplicit false

namespace ClaimStore.Store

variable {κ : Type} {s s' : Store κ} {map : HandleId} {m : Mapping}

/-! ### States in order -/

/-- **What is true after every session.** -/
structure Ordered (s : Store κ) : Prop where
  /-- Handles hold what is counted. -/
  sound : s.Sound
  /-- Some ledger tells what they are. -/
  tells : ∃ l, Tells l s
  /-- No lock has readers and a writer inside. -/
  exclusive : ∀ t, (s.table t).Exclusive
  /-- Handles read inside the values. -/
  insides : Insides s
  /-- Mappings have one of their forms. -/
  shaped : ∀ i m, s.mapping? i = some m → m.Shaped

/-- Reading inside the values is a matter of the handles and the tables. -/
lemma Insides.alike (hi : Insides s) (h : Alike s s') : Insides s' := by
  have table_eq : ∀ t, s'.table t = s.table t := fun t => by rw [table, table, h.tables_eq]
  intro i x hx
  have inside := hi i x (h.handle? i ▸ hx)
  cases x with
  | mapping m => exact fun b t e => table_eq t ▸ inside b t e
  | reader r => exact fun t e => table_eq t ▸ inside t e
  | _ => trivial

/-- An empty store is ordered. -/
lemma ordered_onDirectory (name : String) : Ordered (onDirectory name : Store κ) where
  sound := sound_onDirectory name
  tells := ⟨_, tells_empty name⟩
  exclusive t e he := absurd he (Nat.lt_irrefl 0)
  insides h x hx := by simp [onDirectory, handle?] at hx
  shaped i m hm := by simp [mapping?, onDirectory, handle?] at hm

namespace Ordered

/-- A mapping that belongs to no repository and to no entry is made. -/
lemma addMapping (h : Ordered s) {d : Disk} {m : Mapping} (hm : m.Shaped)
    (hentry : ∀ b, m.backing ≠ .entry b) (hhooks : m.hooks = .empty) :
    Ordered (({ s with disk := d } : Store κ).addHandle (.mapping m)).1 := by
  have added : Added (.mapping m) s (({ s with disk := d } : Store κ).addHandle (.mapping m)).1 :=
    (still_disk s d).added _
  have hnone : m.resources = [] := by
    obtain ⟨backing, readOnly, hooks⟩ := m
    obtain rfl : hooks = .empty := hhooks
    cases backing with
    | entry b => exact absurd rfl (hentry b)
    | _ => rfl
  refine ⟨(h.sound.opens (.made _ _ [] (took_disk s d) (fun r _ => ?_) ?_ rfl)).sound, ?_,
    h.exclusive, fun i x hx => ?_, fun i m' hm' => ?_⟩
  · exact congrArg (List.count r) hnone.symm
  · exact fun b hb => absurd hb (hentry b)
  · obtain ⟨l, ht⟩ := h.tells
    refine ⟨l.set s.handles.length none, ht.added added (.plain fun k hk => ?_)⟩
    rw [hhooks] at hk
    cases hk
  · rw [added.handle?] at hx
    split at hx
    · obtain rfl := Option.some.inj hx
      exact fun b _ _ hb => absurd hb (hentry b)
    · have inside := h.insides i x hx
      cases x <;> exact inside
  · exact (Turns.added (a := .mapBuffer .empty true none) added fun n hn =>
      Handle.mapping.inj hn ▸ hm).shaped h.shaped hm'

/-- A mapping of a file after its file and its part of it were changed. -/
lemma setFile (h : Ordered s) (hm : s.mapping? map = some m) {b b' : FileBacking}
    (hb : m.backing = .file b) (hshape : b'.Shaped) (d : Disk) :
    Ordered (({ s with disk := d } : Store κ).setHandle map
      (.mapping { m with backing := .file b' })) := by
  have hx := mapping?_eq_some.1 hm
  have hcarries : Carries [map] s (({ s with disk := d } : Store κ).setHandle map
      (.mapping { m with backing := .file b' })) :=
    carries_backing (still_disk s d) hm (hb ▸ Backing.Goes.file b b')
  have sound : Leads s (({ s with disk := d } : Store κ).setHandle map
      (.mapping { m with backing := .file b' })) := by
    refine h.sound.setHandle hx (took_disk s d) (fun r _ => ?_) (isWhole_file _ _ _) ?_
    · exact congrArg (List.count r) (resources_file m hb b')
    · simp [Handle.owned?, hb]
  refine ⟨sound.sound, ?_, h.exclusive, ?_, fun i m' hm' => ?_⟩
  · obtain ⟨l, ht⟩ := h.tells
    exact ⟨l, ht.carries hcarries⟩
  · exact h.insides.onMapping h.sound (steady_of_tables rfl) hcarries fun hnone => by
      cases hm.symm.trans hnone
  · rw [mapping?_setHandle (s := { s with disk := d }) hm] at hm'
    split at hm'
    · obtain rfl := Option.some.inj hm'
      exact Mapping.shaped_file hshape _ _
    · exact h.shaped i m' hm'

variable [DecidableEq κ] [ToString κ]

/-- An operation, whatever fails in it. -/
lemma stepUnder (h : Ordered s) (f : Faults) (op : Operation κ) : Ordered (s.stepUnder f op) := by
  obtain ⟨l, ht⟩ := h.tells
  refine ⟨h.sound.stepUnder f op, ?_,
    fun t => (h.sound.steady_stepUnder h.exclusive f op t).exclusive (h.exclusive t), ?_,
    fun i m hm => (turns_act h.sound (.operate f op)).shaped h.shaped hm⟩
  · rcases s.stepUnder_cases f op with heq | alike
    · rw [heq]
      exact ⟨l, ht⟩
    · exact ⟨_, (ht.step h.sound op).of_frame alike.handles_eq alike.repositories_eq⟩
  · rcases s.stepUnder_cases f op with heq | alike
    · rw [heq]
      exact h.insides
    · exact (h.insides.step ht h.sound h.exclusive op).alike alike

omit [DecidableEq κ] [ToString κ] in
/-- A change of the length of a file, whatever fails in it. -/
lemma resizeFileWith (h : Ordered s) (f : MappingFaults) (hm : s.mapping? map = some m)
    {b : FileBacking} (hb : m.backing = .file b) (n : UInt64) :
    Ordered (s.resizeFileWith f map m b n).1 := by
  have hshape := (h.shaped map m hm).file b hb
  have hpart := resizes_resizeFileWith f s map m b n
  revert hpart
  generalize s.resizeFileWith f map m b n = r
  intro hpart
  cases hpart with
  | refused => exact h
  | blocked =>
    rw [writeBack_eq]
    exact h.setFile hm hb hshape _
  | uncut =>
    rw [writeBack_eq]
    exact h.setFile hm hb b.shaped_unmapped _
  | unmapped =>
    rw [writeBack_eq]
    exact h.setFile hm hb b.shaped_unmapped _
  | done ho =>
    rw [afterCut, writeBack_eq]
    exact h.setFile hm hb (FileBacking.shaped_remap ho _) _

/-- A change of length, whatever fails in it. -/
lemma resizeWith (h : Ordered s) (f : MappingFaults) (map : HandleId) (n : UInt64) :
    Ordered (s.resizeWith f map n).1 := by
  have plain : Ordered (s.resize map n).1 := by
    have hstep := h.stepUnder .quiet (.resize map n)
    rw [stepUnder_quiet] at hstep
    exact hstep
  unfold Store.resize at plain
  unfold Store.resizeWith
  cases hm : s.mapping? map with
  | none => exact h
  | some m =>
    rw [hm] at plain
    dsimp only at plain ⊢
    split
    · exact h
    · next hro =>
      rw [if_neg hro] at plain
      cases hb : m.backing with
      | file b => exact h.resizeFileWith f hm hb n
      | entry b =>
        rw [hb] at plain
        exact plain
      | buffer b =>
        rw [hb] at plain
        exact plain

omit [DecidableEq κ] [ToString κ] in
/-- A mapping of a file that belongs to no repository. -/
lemma mapFile (h : Ordered s) (p : Path) (n : UInt64) (readOnly : Bool) (gate : Option Gate) :
    Ordered (s.mapFile p n readOnly gate).1 := by
  unfold Store.mapFile
  cases readOnly with
  | true =>
    simp only [if_true]
    split
    · exact h
    · next b hb =>
      exact h.addMapping (Mapping.shaped_file ((FileBacking.shaped_openReadOnly hb).withGate gate)
        _ _) (by simp) rfl
  | false =>
    simp only [Bool.false_eq_true, if_false]
    split
    · next d _ _ =>
      exact ⟨h.sound.alike ⟨rfl, rfl, rfl, rfl, rfl, rfl⟩, h.tells.imp fun _ ht =>
        ht.of_frame rfl rfl, h.exclusive, h.insides.alike ⟨rfl, rfl, rfl, rfl, rfl, rfl⟩, h.shaped⟩
    · next d b hb =>
      exact h.addMapping (Mapping.shaped_file ((FileBacking.shaped_openWritable hb).withGate gate)
        _ _) (by simp) rfl

/-- **Every action leaves a store in order.** -/
lemma act (h : Ordered s) (a : Action κ) : Ordered (s.act a) := by
  cases a with
  | operate f op => exact h.stepUnder f op
  | mapFile p n readOnly gate => exact h.mapFile p n readOnly gate
  | mapBuffer b readOnly capacity =>
    exact h.addMapping (d := s.disk) (Mapping.shaped_buffer _ _ _) nofun rfl
  | resize f map n => exact h.resizeWith f map n

/-- **So does every session.** -/
lemma session (h : Ordered s) (as : List (Action κ)) : Ordered (s.session as) :=
  session_induction (fun _ a _ h' => h'.act a) h

/-- **A mapping that is read-only, or has no view any more, stays at its place** in every session
that does not unmap or drop it, and one without a view also where it is unmapped. -/
lemma backing_session (h : Ordered s) (hm : s.mapping? map = some m) {as : List (Action κ)}
    (hstill : m.readOnly = true ∧ (∀ a ∈ as, ¬ a.Unmaps map) ∨ m.backing.closed = m.backing)
    (hdrops : ∀ a ∈ as, ¬ a.Drops map) :
    ∃ m', (s.session as).mapping? map = some m' ∧ m'.backing = m.backing ∧
      m'.readOnly = m.readOnly := by
  refine (session_induction (P := fun s' => Ordered s' ∧ ∃ m', s'.mapping? map = some m' ∧
    m'.backing = m.backing ∧ m'.readOnly = m.readOnly) (fun s' a ha ⟨h', m', hm', hb, hro⟩ => ?_)
    ⟨h, m, hm, rfl, rfl⟩).2
  obtain ⟨m'', hm'', hb', hro'⟩ := (turns_act h'.sound a).backing_eq hm'
    (hstill.imp (fun hs => ⟨hro.trans hs.1, hs.2 a ha⟩) fun hc => by rw [hb, hc]) (hdrops a ha)
  exact ⟨h'.act a, m'', hm'', hb'.trans hb, hro'.trans hro⟩

end Ordered

end ClaimStore.Store
