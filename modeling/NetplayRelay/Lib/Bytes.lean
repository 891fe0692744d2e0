import Mathlib.Algebra.Ring.Nat
import Mathlib.Data.List.Induction

/-!
# Byte strings with fields at fixed places

A message is a string of bytes with fields of known widths one after the other. An encoder writes
the fields; a decoder reads each of them at its offset. `slice` is what a decoder reads, `fieldsAt`
is all it reads, and `eq_flatten_iff` says that the two agree: a string is the fields that were
written if and only if it has their length and they are what is read from it.

Where fields vary in length a decoder moves an offset along. `PartAt` says what stands at an offset,
and the readers are described by it: each returns a value exactly if the value's bytes are there.
-/

namespace NetplayRelay.Lib

/-- Bytes in order. -/
abbrev Bytes := List UInt8

variable {bytes front back : Bytes} {offset width n : Nat}

/-! ## Numbers, most significant byte first -/

/-- A number, high byte first. -/
def toBeBytes : Nat → Nat → Bytes
  | 0, _ => []
  | width + 1, n => toBeBytes width (n / 256) ++ [UInt8.ofNat n]

/-- The number that bytes write. -/
def fromBeBytes (bytes : Bytes) : Nat := bytes.foldl (fun n byte => n * 256 + byte.toNat) 0

@[simp]
theorem length_toBeBytes (width n : Nat) : (toBeBytes width n).length = width := by
  induction width generalizing n with
  | zero => rfl
  | succ width ih => rw [toBeBytes, List.length_append, ih, List.length_singleton]

theorem fromBeBytes_concat (bytes : Bytes) (byte : UInt8) :
    fromBeBytes (bytes ++ [byte]) = fromBeBytes bytes * 256 + byte.toNat := by
  rw [fromBeBytes, List.foldl_append]
  rfl

theorem fromBeBytes_lt (bytes : Bytes) : fromBeBytes bytes < 256 ^ bytes.length := by
  induction bytes using List.reverseRecOn with
  | nil => exact Nat.one_pos
  | append_singleton bytes byte ih =>
    have hbyte := byte.toNat_lt
    rw [fromBeBytes_concat, List.length_append, List.length_singleton, Nat.pow_succ]
    omega

/-- A number that fits is read back. -/
theorem fromBeBytes_toBeBytes (h : n < 256 ^ width) : fromBeBytes (toBeBytes width n) = n := by
  induction width generalizing n with
  | zero =>
    obtain rfl : n = 0 := by simpa using h
    rfl
  | succ width ih =>
    have hrest : n / 256 < 256 ^ width := by
      rw [Nat.pow_succ] at h
      omega
    rw [toBeBytes, fromBeBytes_concat, ih hrest, UInt8.toNat_ofNat']
    omega

/-- The bytes that were read are written again. -/
theorem toBeBytes_fromBeBytes (bytes : Bytes) :
    toBeBytes bytes.length (fromBeBytes bytes) = bytes := by
  induction bytes using List.reverseRecOn with
  | nil => rfl
  | append_singleton bytes byte ih =>
    have hbyte := byte.toNat_lt
    have hrest : (fromBeBytes bytes * 256 + byte.toNat) / 256 = fromBeBytes bytes := by omega
    have hlast : UInt8.ofNat (fromBeBytes bytes * 256 + byte.toNat) = byte := by
      refine UInt8.toNat.inj ?_
      rw [UInt8.toNat_ofNat']
      omega
    rw [fromBeBytes_concat, List.length_append, List.length_singleton, toBeBytes, hrest, ih, hlast]

/-! ## Fields -/

/-- The bytes of a field. -/
def slice (bytes : Bytes) (offset width : Nat) : Bytes := (bytes.drop offset).take width

/-- The fields of the given widths, the first of them at `offset`. -/
def fieldsAt (bytes : Bytes) : Nat → List Nat → List Bytes
  | _, [] => []
  | offset, width :: widths => slice bytes offset width :: fieldsAt bytes (offset + width) widths

/-- A field that was read is there. -/
theorem le_of_length_slice (hwidth : 0 < width) (h : (slice bytes offset width).length = width) :
    offset + width ≤ bytes.length := by
  rw [slice, List.length_take, List.length_drop] at h
  omega

theorem length_slice (h : offset + width ≤ bytes.length) :
    (slice bytes offset width).length = width := by
  rw [slice, List.length_take, List.length_drop]
  omega

theorem slice_one (h : offset < bytes.length) : slice bytes offset 1 = [bytes.getD offset 0] := by
  rw [slice, List.drop_eq_getElem_cons h, List.take_succ_cons, List.take_zero,
    List.getD_eq_getElem?_getD, List.getElem?_eq_getElem h, Option.getD_some]

/-- The last field is all that is left. -/
theorem slice_eq_drop (h : bytes.length = offset + width) :
    slice bytes offset width = bytes.drop offset := by
  rw [slice, List.take_of_length_le (by rw [List.length_drop]; omega)]

/-- A field is its front and its rest. -/
theorem slice_add (bytes : Bytes) (offset width width' : Nat) :
    slice bytes offset (width + width')
      = slice bytes offset width ++ slice bytes (offset + width) width' := by
  rw [slice, List.take_add, List.drop_drop]
  rfl

/-- A field that is a front of the right width and a rest is these two fields. -/
theorem slice_add_eq_append {width' : Nat} (h : front.length = width) :
    slice bytes offset (width + width') = front ++ back
      ↔ slice bytes offset width = front ∧ slice bytes (offset + width) width' = back := by
  constructor
  · intro hall
    have hfront := congrArg (List.take width) hall
    have hback := congrArg (List.drop width) hall
    rw [slice, List.take_take, Nat.min_eq_left (Nat.le_add_right _ _), List.take_left' h] at hfront
    rw [slice, List.drop_take, List.drop_drop, Nat.add_sub_cancel_left, List.drop_left' h] at hback
    exact ⟨hfront, hback⟩
  · rintro ⟨rfl, rfl⟩
    exact slice_add _ _ _ _

theorem slice_append (front back : Bytes) (offset width : Nat) :
    slice (front ++ back) (front.length + offset) width = slice back offset width := by
  rw [slice, List.drop_append, Nat.add_sub_cancel_left,
    List.drop_eq_nil_of_le (Nat.le_add_right _ _), List.nil_append]
  rfl

/-- What was written is read. -/
theorem fieldsAt_flatten (front : Bytes) (parts : List Bytes) :
    fieldsAt (front ++ parts.flatten) front.length (parts.map List.length) = parts := by
  induction parts generalizing front with
  | nil => rfl
  | cons part parts ih =>
    have hpart : slice (front ++ (part ++ parts.flatten)) front.length part.length = part := by
      rw [← Nat.add_zero front.length, slice_append, slice, List.drop_zero, List.take_left]
    have hrest := ih (front ++ part)
    rw [List.append_assoc, List.length_append] at hrest
    rw [List.flatten_cons, List.map_cons, fieldsAt, hpart, hrest]

/-- What was read, one after the other, is what is there. -/
theorem flatten_fieldsAt {widths : List Nat} (h : bytes.length = offset + widths.sum) :
    (fieldsAt bytes offset widths).flatten = bytes.drop offset := by
  induction widths generalizing offset with
  | nil =>
    have hall : bytes.length ≤ offset := Nat.le_of_eq h
    rw [fieldsAt, List.flatten_nil, List.drop_eq_nil_of_le hall]
  | cons width widths ih =>
    rw [List.sum_cons, ← Nat.add_assoc] at h
    rw [fieldsAt, List.flatten_cons, ih h, slice, ← List.drop_drop, List.take_append_drop]

theorem map_length_fieldsAt {widths : List Nat} (h : offset + widths.sum ≤ bytes.length) :
    (fieldsAt bytes offset widths).map List.length = widths := by
  induction widths generalizing offset with
  | nil => rfl
  | cons width widths ih =>
    rw [List.sum_cons, ← Nat.add_assoc] at h
    rw [fieldsAt, List.map_cons, length_slice (by omega), ih h]

/-- **A string is what was written if and only if it has its length and reads as it.** -/
theorem eq_flatten_iff (parts : List Bytes) :
    bytes = parts.flatten
      ↔ bytes.length = (parts.map List.length).sum
        ∧ fieldsAt bytes 0 (parts.map List.length) = parts := by
  constructor
  · rintro rfl
    exact ⟨List.length_flatten, fieldsAt_flatten [] parts⟩
  · rintro ⟨hlength, hfields⟩
    rw [← hfields, flatten_fieldsAt (hlength.trans (Nat.zero_add _).symm), List.drop_zero]

/-! ## Records of one width -/

/-- The whole records of one width. -/
def chunksExact (width : Nat) (bytes : Bytes) : List Bytes :=
  fieldsAt bytes 0 (List.replicate (bytes.length / width) width)

theorem chunksExact_flatten {parts : List Bytes} (hwidth : 0 < width)
    (h : ∀ part ∈ parts, part.length = width) : chunksExact width parts.flatten = parts := by
  have hwidths : parts.map List.length = List.replicate parts.length width :=
    List.map_eq_replicate_iff.mpr h
  have hcount : parts.flatten.length / width = parts.length := by
    rw [List.length_flatten, hwidths, List.sum_replicate_nat, Nat.mul_div_cancel _ hwidth]
  rw [chunksExact, hcount, ← hwidths]
  exact fieldsAt_flatten [] parts

theorem flatten_chunksExact (h : width ∣ bytes.length) :
    (chunksExact width bytes).flatten = bytes := by
  rw [chunksExact, flatten_fieldsAt, List.drop_zero]
  rw [List.sum_replicate_nat, Nat.div_mul_cancel h, Nat.zero_add]

theorem length_of_mem_chunksExact {part : Bytes} (h : part ∈ chunksExact width bytes) :
    part.length = width := by
  have hwidths : (List.replicate (bytes.length / width) width).sum ≤ bytes.length := by
    rw [List.sum_replicate_nat]
    exact Nat.div_mul_le_self _ _
  have hlengths := map_length_fieldsAt (by rwa [Nat.zero_add])
  have hmem := List.mem_map_of_mem (f := List.length) h
  rw [chunksExact, hlengths] at hmem
  exact List.eq_of_mem_replicate hmem

/-! ## Readers -/

variable {ε : Type} {error : ε} {part : Bytes}

/-- The part stands at the offset. -/
def PartAt (bytes : Bytes) (offset : Nat) (part : Bytes) : Prop :=
  slice bytes offset part.length = part

theorem partAt_append :
    PartAt bytes offset (front ++ back)
      ↔ PartAt bytes offset front ∧ PartAt bytes (offset + front.length) back := by
  rw [PartAt, List.length_append]
  exact slice_add_eq_append rfl

theorem partAt_nil : PartAt bytes offset [] := by
  rw [PartAt, slice, List.length_nil, List.take_zero]

theorem PartAt.le (h : PartAt bytes offset part) (hpart : part ≠ []) :
    offset + part.length ≤ bytes.length :=
  le_of_length_slice (List.length_pos_iff.mpr hpart) (congrArg List.length h)

/-- A part of the whole length is the whole. -/
theorem partAt_zero_iff (h : bytes.length = part.length) : PartAt bytes 0 part ↔ bytes = part := by
  rw [PartAt, slice, List.drop_zero, ← h, List.take_length]

theorem drop_eq_append_iff :
    bytes.drop offset = front ++ back
      ↔ PartAt bytes offset front ∧ bytes.drop (offset + front.length) = back := by
  rw [PartAt, slice, ← List.drop_drop]
  constructor
  · intro hall
    rw [hall]
    exact ⟨List.take_left, List.drop_left⟩
  · rintro ⟨hfront, hback⟩
    rw [← List.take_append_drop front.length (bytes.drop offset), hfront, hback]

theorem partAt_singleton {byte : UInt8} (h : offset < bytes.length) :
    PartAt bytes offset [byte] ↔ bytes.getD offset 0 = byte := by
  rw [PartAt, List.length_singleton, slice_one h, List.cons.injEq]
  exact and_iff_left rfl

/-- A number of `width` bytes. -/
def readBe (error : ε) (width : Nat) (bytes : Bytes) (offset : Nat) : Except ε Nat :=
  if offset + width ≤ bytes.length then .ok (fromBeBytes (slice bytes offset width))
  else .error error

theorem readBe_eq_ok (hwidth : 0 < width) :
    readBe error width bytes offset = .ok n
      ↔ n < 256 ^ width ∧ PartAt bytes offset (toBeBytes width n) := by
  rw [PartAt, length_toBeBytes]
  unfold readBe
  constructor
  · intro h
    split at h
    · rename_i hthere
      obtain rfl := Except.ok.inj h
      have hlength := length_slice hthere
      have hbound := fromBeBytes_lt (slice bytes offset width)
      have hback := toBeBytes_fromBeBytes (slice bytes offset width)
      rw [hlength] at hbound hback
      exact ⟨hbound, hback.symm⟩
    · exact absurd h (by simp)
  · rintro ⟨hbound, hslice⟩
    have hthere : offset + width ≤ bytes.length :=
      le_of_length_slice hwidth (by rw [hslice, length_toBeBytes])
    rw [if_pos hthere, hslice, fromBeBytes_toBeBytes hbound]

/-- The next `width` bytes. -/
def takeBytes (error : ε) (width : Nat) (bytes : Bytes) (offset : Nat) : Except ε Bytes :=
  if bytes.length - offset < width then .error error else .ok (slice bytes offset width)

theorem takeBytes_eq_ok :
    takeBytes error width bytes offset = .ok part
      ↔ part.length = width ∧ PartAt bytes offset part := by
  unfold takeBytes
  constructor
  · intro h
    split at h
    · exact absurd h (by simp)
    rename_i hthere
    obtain rfl := Except.ok.inj h
    have hlength : (slice bytes offset width).length = width := by
      rw [slice, List.length_take, List.length_drop]
      omega
    exact ⟨hlength, by rw [PartAt, hlength]⟩
  · rintro ⟨rfl, hpart⟩
    have hlength := congrArg List.length hpart
    rw [slice, List.length_take, List.length_drop] at hlength
    rw [if_neg (by omega), hpart]

/-- The early return of a failed check. -/
def checked (error : ε) (passes : Prop) [Decidable passes] : Except ε Unit :=
  if passes then .ok () else .error error

theorem checked_eq_ok {passes : Prop} [Decidable passes] {u : Unit} :
    checked error passes = .ok u ↔ passes := by
  unfold checked
  by_cases h : passes
  · simp [h]
  · simp [h]

theorem bind_eq_ok {α β : Type} {x : Except ε α} {f : α → Except ε β} {b : β} :
    (x >>= f) = .ok b ↔ ∃ a, x = .ok a ∧ f a = .ok b := by
  cases x with
  | error e => simp [bind, Except.bind]
  | ok a => simp [bind, Except.bind]

theorem forM_eq_ok {α : Type} {f : α → Except ε Unit} {as : List α} {u : Unit} :
    as.forM f = .ok u ↔ ∀ a ∈ as, f a = .ok u := by
  induction as with
  | nil => simp [pure, Except.pure]
  | cons a as ih =>
    have hcons : (a :: as).forM f = f a >>= fun _ => as.forM f := rfl
    rw [hcons, bind_eq_ok, List.forall_mem_cons]
    constructor
    · rintro ⟨_, ha, hrest⟩
      exact ⟨ha, ih.mp hrest⟩
    · rintro ⟨ha, hrest⟩
      exact ⟨u, ha, ih.mpr hrest⟩

end NetplayRelay.Lib
