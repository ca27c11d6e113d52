import ClaimStore.Proofs.HandleFrames

/-!
# What readers deliver

A reader delivers the bytes of its content at its position: as many as are moved at once where it is
read raw, and all of them where it is read to the end.

## Main results

* `Store.readRaw_reader`, `Store.readToEnd_reader` — a raw read, and one to the end.
* `Store.deliver_deliver` — two parts in a row.
* `Store.readToEnd_addReader` — a new reader, read to the end.
-/

set_option autoImplicit false

namespace ClaimStore

namespace Bytes

/-- What is there of a range. -/
lemma slice_min (b : Bytes) (p n : Nat) : b.slice p (min (b.size - p) n) = b.slice p n := by
  apply ext
  rw [toList_slice, toList_slice, List.take_eq_take_iff, List.length_drop, length_toList]
  omega

/-- A slice is one of as many bytes as there are in it. -/
lemma slice_size (b : Bytes) (p n : Nat) : b.slice p (b.slice p n).size = b.slice p n := by
  rw [← slice_min b p n, size_slice]
  congr 1
  omega

/-- A string laid over the beginning of another one is there. -/
lemma take_patch_zero (p b : Bytes) : (patch 0 p b).take p.size = p := by
  apply ext
  rw [toList_take, toList_patch, toList_fit, List.take_zero, Nat.zero_sub, List.replicate_zero,
    List.nil_append, List.nil_append, List.take_left' p.length_toList]

/-- Nothing is left of a string that is cut to nothing. -/
lemma take_zero (b : Bytes) : b.take 0 = .empty :=
  size_eq_zero_iff.1 (by rw [size_take, Nat.zero_min])

/-- Nothing is cut off in front. -/
lemma drop_zero (b : Bytes) : b.drop 0 = b :=
  ext (by rw [toList_drop, List.drop_zero])

/-- All that is there from the start on. -/
lemma slice_zero_size (b : Bytes) : b.slice 0 b.size = b := by
  apply ext
  rw [toList_slice, List.drop_zero, List.take_of_length_le (Nat.le_of_eq b.length_toList)]

/-- **A slice is made of the slices that it is cut into.** -/
lemma slice_append_slice (b : Bytes) (p m n : Nat) :
    b.slice p m ++ b.slice (p + (b.slice p m).size) n = b.slice p (m + n) := by
  apply ext
  rw [toList_append, toList_slice, toList_slice, toList_slice, size_slice, List.take_add,
    List.drop_drop]
  rcases Nat.le_total m (b.size - p) with hm | hm
  · rw [Nat.min_eq_left hm]
  · -- nothing is left for the second slice
    have hrest : ∀ i, b.size - p ≤ i → b.toList.drop (p + i) = [] := fun i hi =>
      List.drop_eq_nil_of_le (by rw [length_toList]; omega)
    rw [Nat.min_eq_right hm, hrest _ (Nat.le_refl _), hrest _ hm]

/-- Byte strings are joined in any order. -/
lemma append_assoc (a b c : Bytes) : a ++ b ++ c = a ++ (b ++ c) :=
  ext (by simp only [toList_append, List.append_assoc])

/-- Nothing is joined at the end. -/
lemma append_empty (a : Bytes) : a ++ empty = a :=
  ext (by rw [toList_append, toList_empty, List.append_nil])

/-- Nothing is joined in front. -/
lemma empty_append (a : Bytes) : empty ++ a = a :=
  ext (by rw [toList_append, toList_empty, List.nil_append])

end Bytes

namespace Store

variable {κ : Type} {s : Store κ} {reader : HandleId} {r : Reader} {content : Bytes}

/-- Of two changes of one handle the second is the one that stays. -/
lemma setHandle_setHandle (s : Store κ) (h : HandleId) (x y : Handle) :
    (s.setHandle h x).setHandle h y = s.setHandle h y := by
  unfold setHandle
  rw [List.set_set]

/-- A handle that changes changes no content. -/
lemma sourceBytes_setHandle (s : Store κ) (h : HandleId) (x : Handle) :
    (s.setHandle h x).sourceBytes = s.sourceBytes := by
  funext source
  rcases source with ⟨_ | _, _⟩ | _ | _ <;> rfl

/-- Bytes that are delivered change no content. -/
lemma sourceBytes_deliver (s : Store κ) (reader : HandleId) (n : Nat) :
    (s.deliver reader n).1.sourceBytes = s.sourceBytes := by
  unfold deliver
  split
  · rfl
  · split
    · rfl
    · exact sourceBytes_setHandle s _ _

/-- A raw read of a live reader is one transfer from its source. -/
lemma readRaw_eq_deliver (hr : s.handle? reader = some (.reader r)) (n : Nat) :
    s.readRaw reader n = s.deliver reader (r.source.atOnce n) := by
  rw [readRaw, atOnce, reader?_eq_some.2 hr]

/-- The chunk of a copy is moved at once. -/
lemma readRaw_copyChunk (hr : s.handle? reader = some (.reader r)) :
    s.readRaw reader copyChunk = s.deliver reader copyChunk := by
  rw [readRaw_eq_deliver hr, r.source.atOnce_of_le (by decide)]

/-- A reader of what cannot be read delivers the failure, and stays. -/
lemma deliver_error (hr : s.handle? reader = some (.reader r)) {e : IoError}
    (hcontent : s.sourceBytes r.source = .error e) (n : Nat) :
    s.deliver reader n = (s, .error e) := by
  rw [deliver, reader?_eq_some.2 hr]
  dsimp only
  rw [hcontent]

section Reads

variable (hr : s.handle? reader = some (.reader r))
  (hcontent : s.sourceBytes r.source = .ok content)
include hr hcontent

/-- **What is delivered** are the bytes at the position, and the reader moves past them. -/
lemma deliver_reader (n : Nat) :
    s.deliver reader n = (s.setHandle reader (.reader { r with
        position := r.position + (content.slice r.position n).size }),
      .ok (content.slice r.position n)) := by
  rw [deliver, reader?_eq_some.2 hr]
  dsimp only
  rw [hcontent]

/-- **A raw read** delivers the bytes at the position that are moved at once. -/
lemma readRaw_reader (n : Nat) :
    s.readRaw reader n = (s.setHandle reader (.reader { r with
        position := r.position + (content.slice r.position (r.source.atOnce n)).size }),
      .ok (content.slice r.position (r.source.atOnce n))) :=
  (readRaw_eq_deliver hr n).trans (deliver_reader hr hcontent _)

/-- What a reader delivers up to the end. -/
lemma readToEnd_reader : s.readToEnd reader = s.deliver reader content.size := by
  rw [readToEnd, reader?_eq_some.2 hr]
  dsimp only
  rw [hcontent]

/-- At the end of its content a reader delivers nothing, and stays. -/
lemma deliver_end (hend : content.size ≤ r.position) (n : Nat) :
    s.deliver reader n = (s, .ok .empty) := by
  have hempty : content.slice r.position n = .empty :=
    Bytes.size_eq_zero_iff.1 (by rw [Bytes.size_slice]; omega)
  rw [deliver_reader hr hcontent, hempty, Bytes.size_empty, Nat.add_zero, setHandle_self hr]

/-- **Bytes that are delivered in two parts** leave the reader where it is after both at once. -/
lemma deliver_deliver (m n : Nat) : ((s.deliver reader m).1.deliver reader n).1 =
    (s.deliver reader ((content.slice r.position m).size + n)).1 := by
  obtain ⟨b, hb⟩ : ∃ b, b = content.slice r.position m := ⟨_, rfl⟩
  have hreader : (s.deliver reader m).1.handle? reader =
      some (.reader { r with position := r.position + b.size }) := by
    rw [deliver_reader hr hcontent, handle?_setHandle hr, if_pos rfl, ← hb]
  have hsame : (s.deliver reader m).1.sourceBytes r.source = .ok content := by
    rw [sourceBytes_deliver, hcontent]
  -- the second part begins where the first one ends
  have hsize : (content.slice r.position (b.size + n)).size =
      b.size + (content.slice (r.position + b.size) n).size := by
    rw [← Bytes.slice_append_slice, Bytes.size_append, hb, Bytes.slice_size]
  rw [deliver_reader hreader hsame, ← hb, deliver_reader hr hcontent, deliver_reader hr hcontent,
    ← hb, setHandle_setHandle, hsize, ← Nat.add_assoc]

/-- A raw read through the loop's view of a reader lays what is delivered over the room. -/
lemma read_byteSource (room : Bytes) : (byteSource reader).read s room =
    ((s.deliver reader (r.source.atOnce room.size)).1,
      Bytes.patch 0 (content.slice r.position (r.source.atOnce room.size)) room,
      .delivered (content.slice r.position (r.source.atOnce room.size)).size) := by
  simp only [byteSource, readRaw_eq_deliver hr, deliver_reader hr hcontent]

end Reads

/-- **A new reader** delivers all that its source holds. -/
lemma readToEnd_addReader (c : ClaimId) {source : Source}
    (h : s.sourceBytes source = .ok content) :
    (s.addReader c source).1.reader? s.handles.length = some ⟨c, source, 0⟩ ∧
      ((s.addReader c source).1.readToEnd s.handles.length).2 = .ok content := by
  have hreader : (s.addReader c source).1.reader? s.handles.length = some ⟨c, source, 0⟩ := by
    simp [addReader, addHandle, takeReference, reader?, handle?]
  have hsame : (s.addReader c source).1.sourceBytes source = .ok content := by
    rw [← h]
    rcases source with ⟨_ | _, _⟩ | _ | _ <;> rfl
  refine ⟨hreader, ?_⟩
  rw [readToEnd_reader (reader?_eq_some.1 hreader) hsame,
    deliver_reader (reader?_eq_some.1 hreader) hsame, Bytes.slice_zero_size]

end Store

end ClaimStore
