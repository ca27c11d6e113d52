import Mathlib.Data.List.Induction
import ClaimStore.Proofs.Budget
import ClaimStore.Proofs.Properties
import ClaimStore.Store.Access

/-!
# What a builder opens

A builder is called any number of times before it opens a repository. The kind that was chosen last
decides which backend is opened. The limits that were given last replace those of a volatile kind,
whether they were given before or after it was chosen, unless the builder was started anew in the
meantime; to other kinds they mean nothing. The budget of a volatile repository then raises them to
its floors.

## Main definitions

* `ClaimStore.BuilderCall`, `Builder.run` — calls of a builder, one after the other.
* `BuilderCall.lastKind`, `BuilderCall.lastMaxBytes`, `BuilderCall.lastMaxCount` — what counts of
  them in the end.
* `Backend.OfKind` — a backend is one of a kind.
* `Store.Builds` — what is opened after these calls.

## Main results

* `Builder.run_eq` — the builder after all calls.
* `Store.builds` — what a builder opens.
* `Store.builders_run` — from properties and calls to a backend and its limits.
-/

set_option autoImplicit false

namespace ClaimStore

/-! ### Calls -/

/-- **A call of a builder.** -/
inductive BuilderCall where
  /-- Chooses a volatile repository under the usual limits. -/
  | volatile
  /-- Chooses a file repository. -/
  | fileSystem (directory : Path)
  /-- Chooses a database repository. -/
  | database (path : Path)
  /-- Chooses a kind. -/
  | kind (k : RepositoryKind)
  /-- Gives a byte limit. -/
  | maxBytes (n : UInt64)
  /-- Gives an entry limit. -/
  | maxCount (n : UInt64)
  /-- Starts anew from properties. -/
  | fromConfig (c : Config)
  deriving DecidableEq, Repr

namespace Builder

/-- The builder after a call. One that is started anew may fail, and then there is none. -/
def call (b : Builder) : BuilderCall → Except Failure Builder
  | .volatile => .ok (b.withKind .defaultVolatile)
  | .fileSystem directory => .ok (b.withKind (.files directory))
  | .database path => .ok (b.withKind (.database path))
  | .kind k => .ok (b.withKind k)
  | .maxBytes n => .ok (b.withMaxBytes n)
  | .maxCount n => .ok (b.withMaxCount n)
  | .fromConfig c => ofConfig c

/-- The builder after calls, one after the other, up to the first one that fails. -/
def run (calls : List BuilderCall) : Except Failure Builder := calls.foldlM call empty

end Builder

namespace BuilderCall

/-- The kind that a call chooses. -/
def kind? : BuilderCall → Option RepositoryKind
  | .volatile => some .defaultVolatile
  | .fileSystem directory => some (.files directory)
  | .database path => some (.database path)
  | .kind k => some k
  | .maxBytes _ | .maxCount _ => none
  | .fromConfig c => c.repositoryKind.toOption

/-- The byte limit that a call gives. -/
def maxBytes? : BuilderCall → Option UInt64
  | .maxBytes n => some n
  | _ => none

/-- The entry limit that a call gives. -/
def maxCount? : BuilderCall → Option UInt64
  | .maxCount n => some n
  | _ => none

/-- The call starts the builder anew. -/
def isFresh : BuilderCall → Bool
  | .fromConfig _ => true
  | _ => false

/-- The failure of a call. -/
def failure? : BuilderCall → Option Failure
  | .fromConfig c =>
    match c.repositoryKind with
    | .error e => some e
    | .ok _ => none
  | _ => none

/-- The kind that is chosen last. -/
def lastKind (calls : List BuilderCall) : Option RepositoryKind := calls.reverse.findSome? kind?

/-- The calls since the last fresh start, the last one first. -/
def sinceFresh (calls : List BuilderCall) : List BuilderCall :=
  calls.reverse.takeWhile fun call => !call.isFresh

/-- The byte limit that is given last since then. -/
def lastMaxBytes (calls : List BuilderCall) : Option UInt64 :=
  (sinceFresh calls).findSome? maxBytes?

/-- The entry limit that is given last since then. -/
def lastMaxCount (calls : List BuilderCall) : Option UInt64 :=
  (sinceFresh calls).findSome? maxCount?

variable (calls : List BuilderCall) (call : BuilderCall)

/-- The last kind of a history is that of its last call, if the call chooses one. -/
lemma lastKind_concat : lastKind (calls ++ [call]) = call.kind?.or (lastKind calls) := by
  rw [lastKind, List.reverse_append, List.reverse_singleton, List.findSome?_append,
    List.findSome?_singleton, lastKind]

/-- The calls since the last fresh builder are one more with each call, unless it is a fresh
builder. -/
lemma sinceFresh_concat : sinceFresh (calls ++ [call]) =
    if call.isFresh = true then [] else call :: sinceFresh calls := by
  rw [sinceFresh, List.reverse_append, List.reverse_singleton, List.singleton_append,
    List.takeWhile_cons, sinceFresh]
  cases call.isFresh <;> rfl

end BuilderCall

namespace Builder

open BuilderCall

/-- What calls make of a builder that has what counts so far. -/
lemma call_of_last (calls : List BuilderCall) (call : BuilderCall) :
    Builder.call ⟨lastKind calls, lastMaxBytes calls, lastMaxCount calls⟩ call =
      match call.failure? with
      | some e => .error e
      | none => .ok ⟨lastKind (calls ++ [call]), lastMaxBytes (calls ++ [call]),
          lastMaxCount (calls ++ [call])⟩ := by
  simp only [lastMaxBytes, lastMaxCount, lastKind_concat, sinceFresh_concat]
  cases call with
  | fromConfig c =>
    cases hk : c.repositoryKind with
    | error e => simp [Builder.call, ofConfig, failure?, hk, Except.map]
    | ok k =>
      simp [Builder.call, ofConfig, failure?, kind?, isFresh, hk, Except.map, Except.toOption,
        withKind, Builder.empty]
  | _ => rfl

/-- **The builder after all calls** has the kind that was chosen last and the limits that were given
last since the last fresh start, unless one of these failed. -/
theorem run_eq (calls : List BuilderCall) : run calls =
    match calls.findSome? failure? with
    | some e => .error e
    | none => .ok ⟨lastKind calls, lastMaxBytes calls, lastMaxCount calls⟩ := by
  induction calls using List.reverseRecOn with
  | nil => rfl
  | append_singleton calls call ih =>
    have hlast : run (calls ++ [call]) = (run calls).bind fun b => b.call call := by
      rw [run, List.foldlM_append]
      exact congrArg _ (funext fun b => by simp)
    rw [hlast, ih, List.findSome?_append, List.findSome?_singleton]
    cases calls.findSome? failure? with
    | some e => rfl
    | none => exact call_of_last calls call

end Builder

/-! ### What is opened -/

/-- A backend is one of a kind. -/
inductive Backend.OfKind : RepositoryKind → Backend → Prop
  /-- Files below the directory. -/
  | files (directory : Path) (w r : RegistryId) :
      OfKind (.files directory) (.files directory w r)
  /-- Entries in memory. -/
  | volatile (maxBytes maxCount : UInt64) (t : TableId) (w : RegistryId) :
      OfKind (.volatile maxBytes maxCount) (.volatile t w)
  /-- Rows of the database file. -/
  | database (path : Path) (d : DatabaseId) (w : RegistryId) :
      OfKind (.database path) (.database d path w)

/-- What a builder opens is of the kind that was chosen. -/
lemma Builder.kind_of_target {b : Builder} {k : RepositoryKind} (h : b.target = .ok k) :
    ∃ k', b.kind = some k' ∧ ∀ backend, Backend.OfKind k backend → Backend.OfKind k' backend := by
  unfold target at h
  split at h
  · cases h
  · next m n hk =>
    obtain rfl := Except.ok.inj h
    refine ⟨_, hk, fun backend hof => ?_⟩
    cases hof
    exact .volatile ..
  · next kind _ hk =>
    obtain rfl := Except.ok.inj h
    exact ⟨_, hk, fun _ hof => hof⟩

namespace Store

open BuilderCall

variable {κ : Type} {s s' : Store κ} {r : RepositoryId} {k : RepositoryKind}

/-- **What is opened after calls of a builder** that did not fail. -/
structure Builds (s : Store κ) (calls : List BuilderCall) (b : Builder) : Prop where
  /-- Without a kind, nothing is. -/
  unspecified : lastKind calls = none → s.openBuilt b = (s, .error .kindUnspecified)
  /-- The backend is one of the kind that was chosen last. -/
  opened : ∀ s' r, s.openBuilt b = (s', .ok r) → ∃ k backend,
    lastKind calls = some k ∧ s'.backend? r = some backend ∧ backend.OfKind k
  /-- A volatile repository is always opened, under the limits that were given last or else those of
  its kind, which are raised to their floors. -/
  volatile : ∀ m n, lastKind calls = some (.volatile m n) → ∃ s' r t w,
    s.openBuilt b = (s', .ok r) ∧ s'.backend? r = some (.volatile t w) ∧
      (s'.table t).budget.maxBytes.toNat = max 4096 ((lastMaxBytes calls).getD m).toNat ∧
        (s'.table t).budget.maxCount.toNat = max 1 ((lastMaxCount calls).getD n).toNat
  /-- Limits mean nothing to other kinds. -/
  others : ∀ k, lastKind calls = some k → (∀ m n, k ≠ .volatile m n) →
    s.openBuilt b = s.openRepository k

/-- A repository that was added is open and has its backend. -/
lemma backend?_addRepository (s : Store κ) (b : Backend) :
    (s.addRepository b).1.backend? (s.addRepository b).2 = some b := by
  unfold addRepository backend?
  rw [List.getElem?_concat_length]
  rfl

/-- **The backend that is opened** is one of the kind. -/
lemma ofKind_openRepository (h : s.openRepository k = (s', .ok r)) :
    ∃ b, s'.backend? r = some b ∧ b.OfKind k := by
  have added : ∀ {z : Store κ} {b : Backend}, succeed (z.addRepository b) = (s', .ok r) →
      s'.backend? r = some b := by
    intro z b h
    obtain ⟨rfl, hr⟩ := Prod.mk.inj h
    obtain rfl := Except.ok.inj hr
    exact z.backend?_addRepository b
  unfold openRepository at h
  cases k with
  | files directory =>
    unfold openFiles at h
    dsimp only at h
    split at h
    · cases (Prod.mk.inj h).2
    · exact ⟨_, added h, .files ..⟩
  | volatile m n => exact ⟨_, added h, .volatile ..⟩
  | database path =>
    unfold openRows at h
    dsimp only at h
    split at h
    · cases (Prod.mk.inj h).2
    · exact ⟨_, added h, .database ..⟩

/-- The table of a volatile repository has a budget of its limits. -/
lemma table_openVolatile (s : Store κ) (m n : UInt64) :
    (s.openVolatile m n).1.table s.tables.length = .new m n := by
  have hlast : (s.openVolatile m n).1.tables[s.tables.length]? = some (.new m n) :=
    List.getElem?_concat_length
  rw [table, hlast]

/-- **What a builder opens** that has what counts of its calls. -/
theorem builds (s : Store κ) (calls : List BuilderCall) :
    s.Builds calls ⟨lastKind calls, lastMaxBytes calls, lastMaxCount calls⟩ where
  unspecified h := by rw [openBuilt, Builder.target, h]
  opened s' r h := by
    unfold openBuilt at h
    split at h
    · cases (Prod.mk.inj h).2
    · next kind htarget =>
      obtain ⟨backend, hbackend, hkind⟩ := ofKind_openRepository h
      obtain ⟨k, hk, hof⟩ := Builder.kind_of_target htarget
      exact ⟨k, backend, hk, hbackend, hof backend hkind⟩
  volatile m n h := by
    refine ⟨(s.openVolatile ((lastMaxBytes calls).getD m) ((lastMaxCount calls).getD n)).1,
      s.repositories.length, s.tables.length, s.writerRegistries.length, ?_, ?_, ?_⟩
    · rw [openBuilt, Builder.target, h]
      rfl
    · exact backend?_addRepository _ _
    · rw [table_openVolatile]
      exact Budget.limits_new _ _
  others k h hk := by
    rw [openBuilt, Builder.target, h]
    cases k with
    | volatile m n => exact absurd rfl (hk m n)
    | files directory => rfl
    | database path => rfl

/-- **From properties and calls to a backend and its limits.** -/
theorem builders_run (s : Store κ) (calls : List BuilderCall) :
    (match calls.findSome? failure? with
      | some e => Builder.run calls = .error e
      | none => ∃ b, Builder.run calls = .ok b ∧ s.Builds calls b) ∧
      ∀ c : Config, c.Described := by
  refine ⟨?_, Config.described⟩
  rw [Builder.run_eq]
  cases calls.findSome? failure? with
  | some e => rfl
  | none => exact ⟨_, rfl, s.builds calls⟩

/-- A volatile repository of 64 KiB, with a directory that does not matter. -/
def roomyVolatile : Config :=
  .ofList [(Limits.classProperty, " volatileContentREPOSITORY "),
    (Limits.volatileBytesProperty, " +65536 "), (Limits.directoryProperty, "d")]

/-- A builder that is started anew from it, with limits before and after that. -/
def lateLimits : List BuilderCall :=
  [.maxBytes 100, .fileSystem (.ofString "d"), .fromConfig roomyVolatile, .maxCount 0, .maxBytes 10]

/-- The limits that are given later are raised to their floors; the others are forgotten. -/
theorem builders_run_lateLimits :
    roomyVolatile.selected = some .volatile ∧ roomyVolatile.Described ∧
      lateLimits.findSome? failure? = none ∧
      lastKind lateLimits = some (.volatile 65536 10000) ∧
      ∃ b, Builder.run lateLimits = .ok b ∧ (onDirectory "d" : Store).Builds lateLimits b ∧
        ∃ s' r t w, (onDirectory "d" : Store).openBuilt b = (s', .ok r) ∧
          s'.backend? r = some (.volatile t w) ∧ (s'.table t).budget.maxBytes.toNat = 4096 ∧
            (s'.table t).budget.maxCount.toNat = 1 := by
  have hnone : lateLimits.findSome? failure? = none := by decide +kernel
  have hkind : lastKind lateLimits = some (.volatile 65536 10000) := by decide +kernel
  have hbytes : lastMaxBytes lateLimits = some 10 := by decide +kernel
  have hcount : lastMaxCount lateLimits = some 0 := by decide +kernel
  obtain ⟨hrun, hdescribed⟩ := builders_run (onDirectory "d" : Store) lateLimits
  rw [hnone] at hrun
  obtain ⟨b, hb, hbuilds⟩ := hrun
  obtain ⟨s', r, t, w, hopen, hbackend, hm, hn⟩ := hbuilds.volatile _ _ hkind
  rw [hbytes] at hm
  rw [hcount] at hn
  exact ⟨by decide +kernel, hdescribed roomyVolatile, hnone, hkind, b, hb, hbuilds, s', r, t, w,
    hopen, hbackend, hm, hn⟩

end Store

end ClaimStore
