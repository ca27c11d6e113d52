import ClaimStore.Proofs.Capabilities
import Mathlib.Data.List.GetD

/-!
# Plain arrays of bytes

A plain array is a list of bytes, or none any more, that may or may not be changed. It is asked for
a range, to change a range, to lend all bytes, and for another length, and every byte of it is
described on its own. A mapping whose bytes can be changed and given back answers as the array does
that it shows, along all sequences of calls and of whatever is done meanwhile that leaves its bytes.

## Main definitions

* `ClaimStore.ArrayCall`, `ClaimStore.ArrayAnswer` — what is asked of an array, and its answers.
* `ClaimStore.PlainArray`, `PlainArray.ask` — an array, and how it answers.
* `PlainArray.checkedRange` — the check of a range on words.
* `Capability.ask`, `Capability.plain` — a mapping that is asked, and the array that it shows.
* `Capability.Lends` — bytes that can be changed are those that are shown.
* `ClaimStore.ArrayTurn`, `Capability.beside` — calls and other things, with an array beside.

## Main results

* `PlainArray.laid_toList`, `PlainArray.fitted_toList` — strings of bytes as arrays.
* `PlainArray.checkedRange_eq` — the check of a range on words is that of an array.
* `Capability.Lends.ask` — a mapping answers as the array that it shows.
* `Capability.beside_eq` — so it does along every sequence.
-/

set_option autoImplicit false

namespace ClaimStore

/-! ### Calls and answers -/

/-- **A change of bytes in place**: every byte may change, and their number stays. -/
structure Retouch where
  /-- The bytes that are made of bytes. -/
  apply : List UInt8 → List UInt8
  /-- They are as many. -/
  length_apply : ∀ l, (apply l).length = l.length

/-- Something that is asked of an array of bytes. -/
inductive ArrayCall where
  /-- The bytes of a range. -/
  | read (offset len : Nat)
  /-- Other bytes in a range. -/
  | write (offset : Nat) (b : Bytes)
  /-- All bytes, which are changed in place. -/
  | lend (r : Retouch)
  /-- Another length. -/
  | resize (n : UInt64)

/-- The answer of an array of bytes. -/
inductive ArrayAnswer where
  /-- Bytes: of a range, or all of them at their new length. -/
  | bytes (l : List UInt8)
  /-- The range was written. -/
  | written
  /-- The bytes that can be changed, if there are any. -/
  | lent (l : Option (List UInt8))
  /-- It failed. -/
  | refused (e : Failure)
  deriving DecidableEq, Repr

namespace ArrayAnswer

/-- The answer to a call that asks for bytes. -/
def ofBytes : Except Failure Bytes → ArrayAnswer
  | .ok b => .bytes b.toList
  | .error e => .refused e

/-- The answer to a write. -/
def ofWrite : Except Failure Unit → ArrayAnswer
  | .ok () => .written
  | .error e => .refused e

end ArrayAnswer

/-! ### Plain arrays -/

/-- **A plain array of bytes.** -/
structure PlainArray where
  /-- The bytes, until there are none any more. -/
  cells : Option (List UInt8)
  /-- The bytes can be changed. -/
  writable : Bool
  deriving DecidableEq, Repr

namespace PlainArray

/-- The `len` bytes from `offset` on. -/
def part (offset len : Nat) (l : List UInt8) : List UInt8 :=
  .ofFn fun i : Fin len => l.getD (offset + i) 0

/-- The bytes with those of `p` from `offset` on, and all others as they are. -/
def laid (offset : Nat) (p l : List UInt8) : List UInt8 :=
  .ofFn fun i : Fin l.length =>
    if offset ≤ i ∧ i < offset + p.length then p.getD (i - offset) 0 else l.getD i 0

/-- The first `n` bytes, with zeros where there are none. -/
def fitted (n : Nat) (l : List UInt8) : List UInt8 := .ofFn fun i : Fin n => l.getD i 0

variable (a : PlainArray)

/-- The failure of a range that is not inside the bytes. -/
def outside? (offset len : Nat) (l : List UInt8) : Option Failure :=
  if offset + len ≤ l.length then none else some (outOfBounds offset len l.length)

/-- What needs bytes fails where there are none, and then as it says. -/
def needsBytes (operation : String) (fails : List UInt8 → Option Failure) : Option Failure :=
  match a.cells with
  | none => some (.content (.invalidMapping operation))
  | some l => fails l

/-- What changes bytes fails where they cannot be changed, and then as what needs bytes. -/
def changesBytes (operation : String) (fails : List UInt8 → Option Failure) : Option Failure :=
  if a.writable then a.needsBytes operation fails
  else some (.content (.notSupported operation))

/-- **The failure of a call**, if it fails, where `denial` says which lengths there is no room for:
that the bytes cannot be changed comes before that there are none, and that before all others. -/
def failure? (denial : UInt64 → Option Failure) : ArrayCall → Option Failure
  | .read offset len => a.needsBytes "read" (outside? offset len)
  | .write offset b => a.changesBytes "write" (outside? offset b.size)
  | .lend _ => none
  | .resize n => a.changesBytes "resize" fun _ => denial n

/-- The array after a call that does not fail. -/
def after : ArrayCall → PlainArray
  | .read _ _ => a
  | .write offset b => { a with cells := a.cells.map (laid offset b.toList) }
  | .lend r => if a.writable then { a with cells := a.cells.map r.apply } else a
  | .resize n => { a with cells := a.cells.map (fitted n.toNat) }

/-- The answer to a call that does not fail. -/
def answer : ArrayCall → ArrayAnswer
  | .read offset len => .bytes (part offset len (a.cells.getD []))
  | .write _ _ => .written
  | .lend _ => .lent (if a.writable then a.cells else none)
  | .resize n => .bytes (fitted n.toNat (a.cells.getD []))

/-- **The array after a call, and its answer.** A call that fails changes nothing. -/
def ask (denial : UInt64 → Option Failure) (call : ArrayCall) : PlainArray × ArrayAnswer :=
  match a.failure? denial call with
  | some e => (a, .refused e)
  | none => (a.after call, a.answer call)

/-! ### Strings of bytes as arrays -/

/-- A part of the bytes is a slice of them. -/
lemma part_toList {offset len : Nat} {b : Bytes} (h : offset + len ≤ b.size) :
    part offset len b.toList = (b.slice offset len).toList := by
  have hlen := b.length_toList
  apply List.ext_getElem
  · simp [part, Bytes.toList_slice]
    omega
  · intro i hi _
    have hi' : i < len := by simpa [part] using hi
    simp only [part, Bytes.toList_slice, List.getElem_ofFn, List.getElem_take, List.getElem_drop]
    exact List.getD_eq_getElem _ _ (by omega)

/-- **A string that is laid over another one** inside it. -/
lemma laid_toList {offset : Nat} {p b : Bytes} (h : offset + p.size ≤ b.size) :
    laid offset p.toList b.toList = (Bytes.patch offset p b).toList := by
  have hb := b.length_toList
  have hp := p.length_toList
  have hfit : (b.fit offset).toList = b.toList.take offset := by
    rw [Bytes.fit_of_le_size (by omega), Bytes.toList_take]
  have hfront : (b.toList.take offset).length = offset := by
    rw [List.length_take]
    omega
  apply List.ext_getElem
  · simp [laid, Bytes.size_patch h]
  · intro i hi _
    have hi' : i < b.toList.length := by simpa [laid] using hi
    simp only [laid, List.getElem_ofFn, Bytes.toList_patch, hfit]
    by_cases hbefore : i < offset
    · rw [if_neg (by omega), List.getElem_append_left (by omega), List.getElem_take]
      exact List.getD_eq_getElem _ _ hi'
    · rw [List.getElem_append_right (by omega)]
      simp only [hfront]
      by_cases hinside : i < offset + p.size
      · rw [if_pos (by omega), List.getElem_append_left (by omega)]
        exact List.getD_eq_getElem _ _ (by omega)
      · rw [if_neg (by omega), List.getElem_append_right (by omega), List.getElem_drop,
          List.getD_eq_getElem _ _ hi']
        congr 1
        omega

/-- **A string that is cut or padded.** -/
lemma fitted_toList (n : Nat) (b : Bytes) : fitted n b.toList = (b.fit n).toList := by
  have hb := b.length_toList
  apply List.ext_getElem
  · simp [fitted]
  · intro i hi _
    have hi' : i < n := by simpa [fitted] using hi
    simp only [fitted, List.getElem_ofFn, Bytes.toList_fit]
    by_cases hinside : i < b.size
    · rw [List.getElem_append_left (by rw [List.length_take]; omega), List.getElem_take]
      exact List.getD_eq_getElem _ _ (by omega)
    · rw [List.getElem_append_right (by rw [List.length_take]; omega), List.getElem_replicate]
      exact List.getD_eq_default _ _ (by omega)

/-! ### Ranges of words -/

/-- The sum of two words, if it is a word. -/
def checkedAdd (x y : UInt64) : Option UInt64 := if x ≤ x + y then some (x + y) else none

/-- **The check of a range on words**: its bounds, if the upper one is a word and not beyond the
size. -/
def checkedRange (offset len size : UInt64) : Except Failure (UInt64 × UInt64) :=
  match checkedAdd offset len with
  | some bound =>
    if bound ≤ size then .ok (offset, bound)
    else .error (outOfBounds offset.toNat len.toNat size.toNat)
  | none => .error (outOfBounds offset.toNat len.toNat size.toNat)

/-- The sum is none exactly where it would wrap. -/
lemma checkedAdd_eq (x y : UInt64) : checkedAdd x y =
    if x.toNat + y.toNat < 2 ^ 64 then some (UInt64.ofNat (x.toNat + y.toNat)) else none := by
  have hx := x.toNat_lt
  have hy := y.toNat_lt
  have hsum : (x + y).toNat = (x.toNat + y.toNat) % 2 ^ 64 := UInt64.toNat_add x y
  unfold checkedAdd
  by_cases h : x.toNat + y.toNat < 2 ^ 64
  · have hle : x ≤ x + y := by
      rw [UInt64.le_iff_toNat_le, hsum, Nat.mod_eq_of_lt h]
      exact Nat.le_add_right _ _
    rw [if_pos h, if_pos hle, UInt64.ofNat_add, UInt64.ofNat_toNat, UInt64.ofNat_toNat]
  · have hlt : ¬ x ≤ x + y := by
      rw [UInt64.le_iff_toNat_le, hsum]
      omega
    rw [if_neg h, if_neg hlt]

/-- **The check on words does not wrap**: it is the check of an array. -/
lemma checkedRange_eq {l : List UInt8} (hl : l.length < 2 ^ 64) (offset len : UInt64) :
    checkedRange offset len (.ofNat l.length) =
      match outside? offset.toNat len.toNat l with
      | some e => .error e
      | none => .ok (offset, .ofNat (offset.toNat + len.toNat)) := by
  have hsize : (UInt64.ofNat l.length).toNat = l.length := UInt64.toNat_ofNat_of_lt' hl
  unfold checkedRange outside?
  rw [checkedAdd_eq, hsize]
  by_cases hword : offset.toNat + len.toNat < 2 ^ 64
  · have hbound : UInt64.ofNat (offset.toNat + len.toNat) ≤ UInt64.ofNat l.length ↔
        offset.toNat + len.toNat ≤ l.length := by
      rw [UInt64.le_iff_toNat_le, hsize, UInt64.toNat_ofNat_of_lt' hword]
    rw [if_pos hword]
    by_cases hle : offset.toNat + len.toNat ≤ l.length
    · rw [if_pos hle]
      exact if_pos (hbound.2 hle)
    · rw [if_neg hle]
      exact if_neg (mt hbound.1 hle)
  · rw [if_neg hword, if_neg (by omega)]

end PlainArray

/-! ### Mappings as arrays -/

namespace Capability

variable {σ α : Type} (C : Capability σ)

/-- A mapping is asked something. Bytes that are lent out are changed and given back. -/
def ask (f : MappingFaults) (s : σ) : ArrayCall → σ × ArrayAnswer
  | .read offset len => (s, .ofBytes (C.readAt s offset len))
  | .write offset b => ((C.writeAt s offset b).1, .ofWrite (C.writeAt s offset b).2)
  | .lend r =>
    match C.dataMut s with
    | none => (s, .lent none)
    | some l => (l.back (some (.ofList (r.apply l.bytes.toList))), .lent (some l.bytes.toList))
  | .resize n => ((C.resize f s n).1, .ofBytes (C.resize f s n).2)

/-- **The array that a mapping shows.** -/
def plain (s : σ) : PlainArray := ⟨(C.data s).map Bytes.toList, !C.isReadOnly s⟩

/-- **The bytes that can be changed are those that are shown**, and what is given back for them is
shown afterwards. -/
structure Lends (s : σ) : Prop where
  /-- They are those that are shown, if the mapping is writable. -/
  bytes_eq : (C.dataMut s).map Loan.bytes = if C.isReadOnly s then none else C.data s
  /-- As many bytes as there were are shown after they were given back. -/
  back_eq : ∀ l, C.dataMut s = some l → ∀ o, (∀ v, o = some v → v.size = l.bytes.size) →
    C.data (l.back o) = some (o.getD l.bytes) ∧ C.isReadOnly (l.back o) = false

/-- **A mapping answers a call as the array does** that it shows, and shows the same array as
before, as the call changed it. -/
def AsPlain (denial : UInt64 → Option Failure) (f : MappingFaults) (s : σ) (call : ArrayCall) :
    Prop :=
  (C.plain s).ask denial call = (C.plain (C.ask f s call).1, (C.ask f s call).2)

variable {C} {s : σ}

/-- The bytes of a writable mapping are lent out. -/
lemma Lends.dataMut_cases (h : C.Lends s) : C.isReadOnly s = true ∧ C.dataMut s = none ∨
    C.isReadOnly s = false ∧ C.data s = none ∧ C.dataMut s = none ∨
    C.isReadOnly s = false ∧ ∃ l, C.data s = some l.bytes ∧ C.dataMut s = some l := by
  have hbytes := h.bytes_eq
  cases hro : C.isReadOnly s with
  | true =>
    rw [hro, if_pos rfl, Option.map_eq_none_iff] at hbytes
    exact .inl ⟨rfl, hbytes⟩
  | false =>
    rw [hro, if_neg Bool.false_ne_true] at hbytes
    cases hl : C.dataMut s with
    | none =>
      rw [hl, Option.map_none] at hbytes
      exact .inr (.inl ⟨rfl, hbytes.symm, rfl⟩)
    | some l =>
      rw [hl, Option.map_some] at hbytes
      exact .inr (.inr ⟨rfl, l, hbytes.symm, rfl⟩)

/-- A mapping after its bytes were given back. -/
lemma Lends.plain_back (h : C.Lends s) {l : Loan σ} (hl : C.dataMut s = some l) {v : Bytes}
    (hv : v.size = l.bytes.size) : C.plain (l.back (some v)) = ⟨some v.toList, true⟩ := by
  obtain ⟨hdata, hro⟩ := h.back_eq l hl (some v) fun w hw => Option.some.inj hw ▸ hv
  rw [plain, hdata, hro]
  rfl

/-- A read. -/
lemma asPlain_read (denial : UInt64 → Option Failure) (f : MappingFaults) (s : σ)
    (offset len : Nat) : C.AsPlain denial f s (.read offset len) := by
  have hsize : ∀ v : Bytes, v.toList.length = v.size := Bytes.length_toList
  unfold AsPlain ask readAt PlainArray.ask
  simp only [PlainArray.failure?, PlainArray.needsBytes, PlainArray.after, PlainArray.answer]
  cases hdata : C.data s with
  | none => simp [plain, hdata, ArrayAnswer.ofBytes]
  | some v =>
    simp only [plain, hdata, Option.map_some, PlainArray.outside?, hsize, Option.getD_some]
    by_cases hle : offset + len ≤ v.size
    · rw [if_pos hle, if_pos hle]
      exact congrArg (Prod.mk _) (congrArg ArrayAnswer.bytes (PlainArray.part_toList hle))
    · rw [if_neg hle, if_neg hle]
      rfl

/-- A write. -/
lemma Lends.asPlain_write (h : C.Lends s) (denial : UInt64 → Option Failure) (f : MappingFaults)
    (offset : Nat) (b : Bytes) : C.AsPlain denial f s (.write offset b) := by
  have hsize : ∀ v : Bytes, v.toList.length = v.size := Bytes.length_toList
  unfold AsPlain ask writeAt PlainArray.ask
  simp only [PlainArray.failure?, PlainArray.changesBytes, PlainArray.needsBytes, PlainArray.after,
    PlainArray.answer]
  rcases h.dataMut_cases with ⟨hro, -⟩ | ⟨hro, hdata, hl⟩ | ⟨hro, l, hdata, hl⟩
  · simp [plain, hro, ArrayAnswer.ofWrite]
  · simp [plain, hro, hdata, hl, ArrayAnswer.ofWrite]
  · simp only [hro, hl, plain, hdata, Option.map_some, Bool.not_false, if_true,
      Bool.false_eq_true, if_false, PlainArray.outside?, hsize]
    by_cases hle : offset + b.size ≤ l.bytes.size
    · rw [if_pos hle, if_pos hle]
      have hback := h.plain_back hl (Bytes.size_patch hle)
      rw [PlainArray.laid_toList hle]
      exact congrArg₂ Prod.mk hback.symm rfl
    · rw [if_neg hle, if_neg hle]
      obtain ⟨hsame, hro'⟩ := h.back_eq l hl none (by simp)
      simp [hsame, hro', ArrayAnswer.ofWrite]

/-- A loan. -/
lemma Lends.asPlain_lend (h : C.Lends s) (denial : UInt64 → Option Failure) (f : MappingFaults)
    (r : Retouch) : C.AsPlain denial f s (.lend r) := by
  unfold AsPlain ask PlainArray.ask
  simp only [PlainArray.failure?, PlainArray.after, PlainArray.answer]
  rcases h.dataMut_cases with ⟨hro, hl⟩ | ⟨hro, hdata, hl⟩ | ⟨hro, l, hdata, hl⟩
  · simp [plain, hro, hl]
  · simp [plain, hro, hdata, hl]
  · have hv : (Bytes.ofList (r.apply l.bytes.toList)).size = l.bytes.size := by
      rw [← Bytes.length_toList, Bytes.toList_ofList, r.length_apply, Bytes.length_toList]
    have hback := h.plain_back hl hv
    rw [Bytes.toList_ofList] at hback
    simp only [hl, plain, hro, hdata, Option.map_some, Bool.not_false, if_true]
    exact congrArg₂ Prod.mk hback.symm rfl

/-- **A mapping answers as the array that it shows**, where it does so for changes of length. -/
lemma Lends.ask (h : C.Lends s) {denial : UInt64 → Option Failure} (f : MappingFaults)
    (call : ArrayCall) (hresize : ∀ n, call = .resize n → C.AsPlain denial f s (.resize n)) :
    C.AsPlain denial f s call := by
  cases call with
  | read offset len => exact asPlain_read denial f s offset len
  | write offset b => exact h.asPlain_write denial f offset b
  | lend r => exact h.asPlain_lend denial f r
  | resize n => exact hresize n rfl

/-! ### Sequences -/

end Capability

/-- A call of an array, or something else that is done meanwhile. -/
inductive ArrayTurn (α : Type) where
  /-- A call, with what fails in it. -/
  | ask (f : MappingFaults) (call : ArrayCall)
  /-- Something else. -/
  | other (a : α)

/-- The calls and all else are some of these. -/
def ArrayTurn.Among {α : Type} (calls : ArrayCall → Prop) (others : α → Prop) : ArrayTurn α → Prop
  | .ask _ call => calls call
  | .other a => others a

namespace Capability

variable {σ α : Type} (C : Capability σ) (act : σ → α → σ) (denial : σ → UInt64 → Option Failure)

/-- **What a turn makes of a state, and of an array beside it.** Only calls reach the array. -/
def turnBeside (x : σ × PlainArray) : ArrayTurn α → σ × PlainArray
  | .ask f call => ((C.ask f x.1 call).1, (x.2.ask (denial x.1) call).1)
  | .other a => (act x.1 a, x.2)

/-- What turns make of both, one after the other, from the array that is shown at the start. -/
def beside (s : σ) (ts : List (ArrayTurn α)) : σ × PlainArray :=
  ts.foldl (C.turnBeside act denial) (s, C.plain s)

/-- What is done meanwhile leaves the bytes that the mapping shows as they are. -/
def Undisturbed : σ → List (ArrayTurn α) → Prop
  | _, [] => True
  | s, .ask f call :: ts => Undisturbed (C.ask f s call).1 ts
  | s, .other a :: ts => C.data (act s a) = C.data s ∧ Undisturbed (act s a) ts

/-- **A mapping mirrors an array**: it shows the array, and gives the same answers to all of these
calls. Ranges of words are checked as the array checks them. -/
structure Mirrors (denial : UInt64 → Option Failure) (calls : ArrayCall → Prop) (s : σ)
    (a : PlainArray) : Prop where
  /-- It shows the array. -/
  plain_eq : C.plain s = a
  /-- It gives the same answers. -/
  answer_eq : ∀ f call, calls call → (C.ask f s call).2 = (a.ask denial call).2
  /-- No check of a range wraps. -/
  checked_eq : ∀ l, a.cells = some l → l.length < 2 ^ 64 → ∀ offset len : UInt64,
    PlainArray.checkedRange offset len (.ofNat l.length) =
      match PlainArray.outside? offset.toNat len.toNat l with
      | some e => .error e
      | none => .ok (offset, .ofNat (offset.toNat + len.toNat))

variable {C} {P : σ → Prop} {calls : ArrayCall → Prop} {others : α → Prop}

/-- **A mapping shows the array that goes beside it**, along every sequence of calls that it answers
as the array does.

**Proof sketch.** Induction on the turns, with `P` for what keeps the mapping in order. A call
changes mapping and array alike; anything else leaves the array, and what is shown by assumption. -/
lemma beside_eq
    (hask : ∀ s f call, P s → calls call →
      C.AsPlain (denial s) f s call ∧ P (C.ask f s call).1)
    (hact : ∀ s a, P s → others a → P (act s a) ∧ C.isReadOnly (act s a) = C.isReadOnly s)
    {s : σ} (hs : P s) {ts : List (ArrayTurn α)} (hts : ∀ t ∈ ts, t.Among calls others)
    (hquiet : C.Undisturbed act s ts) : P (C.beside act denial s ts).1 ∧
      C.plain (C.beside act denial s ts).1 = (C.beside act denial s ts).2 := by
  induction ts generalizing s with
  | nil => exact ⟨hs, rfl⟩
  | cons t ts ih =>
    have hts' : ∀ t' ∈ ts, t'.Among calls others := fun t' ht' =>
      hts t' (List.mem_cons_of_mem t ht')
    have hmem := hts t List.mem_cons_self
    cases t with
    | ask f call =>
      obtain ⟨hplain, hs'⟩ := hask s f call hs hmem
      have hnext : C.beside act denial s (.ask f call :: ts) =
          C.beside act denial (C.ask f s call).1 ts := by
        rw [beside, List.foldl_cons, turnBeside, hplain]
        rfl
      rw [hnext]
      exact ih hs' hts' hquiet
    | other a =>
      obtain ⟨hs', hro⟩ := hact s a hs hmem
      have hnext : C.beside act denial s (.other a :: ts) =
          C.beside act denial (act s a) ts := by
        have hplain : C.plain s = C.plain (act s a) := by rw [plain, plain, hquiet.1, hro]
        rw [beside, List.foldl_cons, turnBeside, hplain]
        rfl
      rw [hnext]
      exact ih hs' hts' hquiet.2

/-- What is done meanwhile disturbs nothing if it never reaches the bytes. -/
lemma undisturbed_of_data_eq {act : σ → α → σ} (h : ∀ s a, C.data (act s a) = C.data s) (s : σ)
    (ts : List (ArrayTurn α)) : C.Undisturbed act s ts := by
  induction ts generalizing s with
  | nil => trivial
  | cons t ts ih =>
    cases t with
    | ask f call => exact ih _
    | other a => exact ⟨h s a, ih _⟩

/-- What a mapping shows and what it answers. -/
lemma mirrors_plain {denial : UInt64 → Option Failure} {s : σ}
    (h : ∀ f call, calls call → C.AsPlain denial f s call) :
    C.Mirrors denial calls s (C.plain s) where
  plain_eq := rfl
  answer_eq f call hcall := by rw [h f call hcall]
  checked_eq _ _ hl := PlainArray.checkedRange_eq hl

end Capability

end ClaimStore
