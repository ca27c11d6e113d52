import Mathlib.Algebra.Order.Ring.Nat
import ClaimStore.Budget

/-!
# Budgets as unbounded counters

The words of a budget count without wrapping: what a successful reservation adds and what a
covered release takes away can be read off as sums of natural numbers. The counters stay under
their limits as long as they started there.

## Main definitions

* `Budget.Within` — what is in use is at most what the limits allow.
* `Budget.room` — the bytes that the limit leaves.

## Main results

* `Budget.allocate_ok`, `Budget.release_bytes`, `Budget.adjust_ok` — bytes, as natural numbers.
* `Budget.admitEntry_ok`, `Budget.retireEntry_entries` — entries, as natural numbers.
* `Budget.allocate_of_room`, `Budget.adjust_of_room`, `Budget.admitEntry_of_room` — what the limits
  leave room for is granted.
* `Budget.allocate_report`, `Budget.adjust_report`, `Budget.admitEntry_report` — what is refused,
  and what is said about it. -/

set_option autoImplicit false

namespace ClaimStore.Budget

/-- What is in use is at most what the limits allow. -/
structure Within (b : Budget) : Prop where
  /-- The bytes in use are at most the byte limit. -/
  bytes_le : b.bytesUsed.toNat ≤ b.maxBytes.toNat
  /-- The entries in use are at most the entry limit. -/
  entries_le : b.entries.toNat ≤ b.maxCount.toNat

/-- A new budget has nothing in use. -/
lemma within_new (maxBytes maxCount : UInt64) : (new maxBytes maxCount).Within :=
  ⟨Nat.zero_le _, Nat.zero_le _⟩

/-- **A new budget raises its limits to their floors.** -/
lemma limits_new (maxBytes maxCount : UInt64) :
    (new maxBytes maxCount).maxBytes.toNat = max 4096 maxBytes.toNat ∧
      (new maxBytes maxCount).maxCount.toNat = max 1 maxCount.toNat := by
  have hfloor : Limits.minVolatileBytes.toNat = 4096 := rfl
  unfold new
  constructor
  · dsimp only
    split
    · next h =>
      rw [UInt64.lt_iff_toNat_lt, hfloor] at h
      omega
    · next h =>
      rw [UInt64.lt_iff_toNat_lt, hfloor] at h
      omega
  · dsimp only
    split
    · next h =>
      subst h
      rfl
    · next h =>
      have hpos : maxCount.toNat ≠ 0 := fun h0 => h (UInt64.toNat_inj.1 h0)
      omega

/-- Two budgets with the same limits. -/
def SameLimits (b b' : Budget) : Prop := b'.maxBytes = b.maxBytes ∧ b'.maxCount = b.maxCount

/-! ### Room -/

/-- What the limit leaves room for is reserved. -/
lemma reserve_of_room {current amount limit : UInt64}
    (h : current.toNat + amount.toNat ≤ limit.toNat) :
    reserve current amount limit = .ok (current + amount) := by
  refine if_neg ?_
  rw [UInt64.lt_iff_toNat_lt, saturatingSub_toNat]
  omega

/-- **An allocation is granted** where the limit leaves room for it. -/
lemma allocate_of_room {b : Budget} {n : UInt64}
    (h : b.bytesUsed.toNat + n.toNat ≤ b.maxBytes.toNat) : ∃ b', b.allocate n = .ok b' := by
  unfold allocate
  rw [reserve_of_room h]
  split <;> exact ⟨_, rfl⟩

/-- **A change of length is granted** where the limit leaves room for the difference. -/
lemma adjust_of_room {b : Budget} {old new : UInt64}
    (h : b.bytesUsed.toNat + new.toNat ≤ b.maxBytes.toNat + old.toNat) :
    ∃ b', b.adjust old new = .ok b' := by
  unfold adjust
  split
  · next hlt =>
    have hnat := UInt64.lt_iff_toNat_lt.1 hlt
    refine allocate_of_room ?_
    rw [UInt64.toNat_sub_of_le _ _ (UInt64.le_of_lt hlt)]
    omega
  · exact ⟨_, rfl⟩

/-- **An entry is admitted** where the limit leaves room for one more. -/
lemma admitEntry_of_room {b : Budget} (h : b.entries.toNat < b.maxCount.toNat) :
    ∃ b', b.admitEntry = .ok b' := by
  have hroom : b.entries.toNat + (1 : UInt64).toNat ≤ b.maxCount.toNat := h
  unfold admitEntry
  rw [reserve_of_room hroom]
  exact ⟨_, rfl⟩

/-! ### Refusals -/

section Refusals

variable {b : Budget} {x : ContentError}

/-- The bytes that the limit leaves. -/
def room (b : Budget) : Nat := b.maxBytes.toNat - b.bytesUsed.toNat

/-- A reservation that is refused asks for more than the limit leaves, and both are reported. -/
lemma reserve_report {current amount limit : UInt64}
    (h : reserve current amount limit = .error x) :
    x = .capacityExceeded amount.toNat (limit.toNat - current.toNat) ∧
      limit.toNat - current.toNat < amount.toNat := by
  unfold reserve at h
  split at h
  · next hlt =>
    obtain rfl := Except.error.inj h
    rw [UInt64.lt_iff_toNat_lt, saturatingSub_toNat] at hlt
    exact ⟨by rw [saturatingSub_toNat], hlt⟩
  · cases h

/-- So does an allocation. -/
lemma allocate_report {n : UInt64} (h : b.allocate n = .error x) :
    x = .capacityExceeded n.toNat b.room ∧ b.room < n.toNat := by
  unfold allocate at h
  split at h
  · cases h
  · cases hr : reserve b.bytesUsed n b.maxBytes with
    | ok used =>
      rw [hr] at h
      cases h
    | error e =>
      rw [hr] at h
      obtain rfl := Except.error.inj h
      exact reserve_report hr

/-- **A change of length that is refused is a growth**, and the growth is what is reported. -/
lemma adjust_report {old new : UInt64} (h : b.adjust old new = .error x) :
    x = .capacityExceeded (new.toNat - old.toNat) b.room ∧ b.room < new.toNat - old.toNat := by
  unfold adjust at h
  split at h
  · next hlt =>
    rw [← UInt64.toNat_sub_of_le _ _ (UInt64.le_of_lt hlt)]
    exact allocate_report h
  · cases h

/-- An entry that is refused is one more than the limit leaves. -/
lemma admitEntry_refused (h : b.admitEntry = .error x) :
    x = .capacityExceeded 1 (b.maxCount.toNat - b.entries.toNat) ∧
      b.maxCount.toNat - b.entries.toNat < 1 := by
  unfold admitEntry at h
  cases hr : reserve b.entries 1 b.maxCount with
  | ok entries =>
    rw [hr] at h
    cases h
  | error e =>
    rw [hr] at h
    obtain rfl := Except.error.inj h
    exact reserve_report hr

/-- **An entry is refused where the count has reached its limit**, and no room is reported. -/
lemma admitEntry_report (hb : b.Within) (h : b.admitEntry = .error x) :
    x = .capacityExceeded 1 0 ∧ b.entries = b.maxCount := by
  obtain ⟨rfl, hlt⟩ := admitEntry_refused h
  have hnone : b.maxCount.toNat - b.entries.toNat = 0 := Nat.lt_one_iff.1 hlt
  refine ⟨by rw [hnone], UInt64.toNat_inj.1 ?_⟩
  exact Nat.le_antisymm hb.entries_le (Nat.le_of_sub_eq_zero hnone)

/-! Only the limits refuse anything, whatever the numbers are. -/

/-- An allocation fails in one way only: the capacity is exceeded. -/
lemma allocate_error {n : UInt64} (h : b.allocate n = .error x) :
    ∃ requested available, x = .capacityExceeded requested available :=
  ⟨_, _, (allocate_report h).1⟩

/-- An adjustment fails in one way only: the capacity is exceeded. -/
lemma adjust_error {old new : UInt64} (h : b.adjust old new = .error x) :
    ∃ requested available, x = .capacityExceeded requested available :=
  ⟨_, _, (adjust_report h).1⟩

/-- An admission fails in one way only: the capacity is exceeded. -/
lemma admitEntry_error (h : b.admitEntry = .error x) :
    ∃ requested available, x = .capacityExceeded requested available :=
  ⟨_, _, (admitEntry_refused h).1⟩

end Refusals

/-! ### Bytes -/

/-- **A granted allocation adds exactly what was asked for.** -/
lemma allocate_ok {b b' : Budget} {n : UInt64} (hb : b.Within) (h : b.allocate n = .ok b') :
    b'.bytesUsed.toNat = b.bytesUsed.toNat + n.toNat ∧ b'.entries = b.entries ∧
      b.SameLimits b' ∧ b'.Within := by
  unfold allocate at h
  split at h
  · next hn =>
    obtain rfl := Except.ok.inj h
    exact ⟨by simp [hn], rfl, ⟨rfl, rfl⟩, hb⟩
  · cases hr : reserve b.bytesUsed n b.maxBytes with
    | error e => rw [hr] at h; cases h
    | ok used =>
      rw [hr] at h
      obtain rfl := Except.ok.inj h
      obtain ⟨hadd, hle⟩ := reserve_toNat hb.bytes_le hr
      exact ⟨hadd, rfl, ⟨rfl, rfl⟩, hle, hb.entries_le⟩

/-- A release takes away what it gives back, and stops at zero. -/
@[simp] lemma release_bytes (b : Budget) (n : UInt64) :
    (b.release n).bytesUsed.toNat = b.bytesUsed.toNat - n.toNat := by
  unfold release
  split
  · next hn => simp [hn]
  · exact saturatingSub_toNat _ _

/-- A release of bytes changes nothing else. -/
@[simp] lemma release_entries (b : Budget) (n : UInt64) :
    (b.release n).entries = b.entries := by
  unfold release
  split <;> rfl

/-- A release of bytes keeps the limits. -/
lemma release_limits (b : Budget) (n : UInt64) : b.SameLimits (b.release n) := by
  unfold release
  split <;> exact ⟨rfl, rfl⟩

/-- A release leaves no more in use than before. -/
lemma Within.release {b : Budget} (hb : b.Within) (n : UInt64) : (b.release n).Within := by
  obtain ⟨hm, hc⟩ := b.release_limits n
  refine ⟨?_, ?_⟩
  · rw [release_bytes, hm]
    exact Nat.le_trans (Nat.sub_le _ _) hb.bytes_le
  · rw [release_entries, hc]
    exact hb.entries_le

/-- A granted change of length leaves the entries as they are, and keeps to the limits. -/
lemma adjust_keeps {b b' : Budget} {old new : UInt64} (hb : b.Within)
    (h : b.adjust old new = .ok b') :
    b'.entries = b.entries ∧ b.SameLimits b' ∧ b'.Within := by
  unfold adjust at h
  split at h
  · exact (allocate_ok hb h).2
  · obtain rfl := Except.ok.inj h
    exact ⟨release_entries _ _, release_limits _ _, hb.release _⟩

/-- **A granted change of length moves the counter by the difference**, where the old length was
accounted for. -/
lemma adjust_ok {b b' : Budget} {old new : UInt64} (hb : b.Within)
    (hold : old.toNat ≤ b.bytesUsed.toNat) (h : b.adjust old new = .ok b') :
    b'.bytesUsed.toNat + old.toNat = b.bytesUsed.toNat + new.toNat ∧ b'.entries = b.entries ∧
      b.SameLimits b' ∧ b'.Within := by
  refine ⟨?_, adjust_keeps hb h⟩
  unfold adjust at h
  split at h
  · next hlt =>
    have hle : old ≤ new := UInt64.le_of_lt hlt
    have hnat : old.toNat ≤ new.toNat := UInt64.le_iff_toNat_le.1 hle
    rw [(allocate_ok hb h).1, UInt64.toNat_sub_of_le _ _ hle]
    omega
  · next hlt =>
    obtain rfl := Except.ok.inj h
    have hle : new ≤ old := UInt64.not_lt.1 hlt
    have hnat : new.toNat ≤ old.toNat := UInt64.le_iff_toNat_le.1 hle
    rw [release_bytes, UInt64.toNat_sub_of_le _ _ hle]
    omega

/-! ### Entries -/

/-- **A granted admission counts exactly one entry more.** -/
lemma admitEntry_ok {b b' : Budget} (hb : b.Within) (h : b.admitEntry = .ok b') :
    b'.entries.toNat = b.entries.toNat + 1 ∧ b'.bytesUsed = b.bytesUsed ∧ b.SameLimits b' ∧
      b'.Within := by
  unfold admitEntry at h
  cases hr : reserve b.entries 1 b.maxCount with
  | error e => rw [hr] at h; cases h
  | ok entries =>
    rw [hr] at h
    obtain rfl := Except.ok.inj h
    obtain ⟨hadd, hle⟩ := reserve_toNat hb.entries_le hr
    exact ⟨hadd, rfl, ⟨rfl, rfl⟩, hb.bytes_le, hle⟩

/-- A retired entry is counted no more, if any was. -/
@[simp] lemma retireEntry_entries (b : Budget) :
    b.retireEntry.entries.toNat = b.entries.toNat - 1 :=
  saturatingSub_toNat _ _

/-- A retired entry leaves no more in use than before. -/
lemma Within.retireEntry {b : Budget} (hb : b.Within) : b.retireEntry.Within := by
  refine ⟨hb.bytes_le, ?_⟩
  rw [retireEntry_entries]
  exact Nat.le_trans (Nat.sub_le _ _) hb.entries_le

/-- A place that is admitted and given back was never taken. -/
lemma retireEntry_admitEntry {b b' : Budget} (hb : b.Within) (h : b.admitEntry = .ok b') :
    (b'.release 0).retireEntry = b := by
  obtain ⟨hentries, hbytes, ⟨hmax, hcount⟩, -⟩ := admitEntry_ok hb h
  have hback : saturatingSub b'.entries 1 = b.entries := by
    refine UInt64.toNat_inj.1 ?_
    rw [saturatingSub_toNat, hentries]
    exact Nat.add_sub_cancel ..
  show Budget.mk b'.maxBytes b'.maxCount b'.bytesUsed (saturatingSub b'.entries 1) = b
  rw [hmax, hcount, hbytes, hback]

end ClaimStore.Budget
