/-! Byte strings: writing one over part of another, the big-endian value of one, and byte areas of a
fixed size. -/

namespace PolledLink

abbrev Bytes := List UInt8

namespace Bytes

/-- Writes `bs` over `area` from offset `start` on. What does not fit is left out, so the length of
the area never changes. -/
def overlay (area : Bytes) (start : Nat) (bs : Bytes) : Bytes :=
  area.take start ++ bs.take (area.length - start) ++ area.drop (start + bs.length)

@[simp] theorem length_overlay (area : Bytes) (start : Nat) (bs : Bytes) :
    (overlay area start bs).length = area.length := by
  simp only [overlay, List.length_append, List.length_take, List.length_drop]
  omega

@[simp] theorem overlay_nil (area : Bytes) (start : Nat) : overlay area start [] = area := by
  simp [overlay]

theorem overlay_of_fits {area bs : Bytes} {start : Nat} (h : start + bs.length ≤ area.length) :
    overlay area start bs = area.take start ++ bs ++ area.drop (start + bs.length) := by
  rw [overlay, List.take_of_length_le (l := bs) (by omega)]

theorem overlay_zero {area bs : Bytes} (h : bs.length ≤ area.length) :
    overlay area 0 bs = bs ++ area.drop bs.length := by
  simp [overlay, List.take_of_length_le h]

/-- The number that the bytes spell, the most significant first. -/
def toNat (bs : Bytes) : Nat := bs.foldl (fun n b => 256 * n + b.toNat) 0

/-- The low `width` bytes of a number, the most significant first. -/
def bigEndian : Nat → Nat → Bytes
  | 0, _ => []
  | width + 1, n => bigEndian width (n / 256) ++ [UInt8.ofNat n]

@[simp] theorem length_bigEndian (width n : Nat) : (bigEndian width n).length = width := by
  induction width generalizing n with
  | zero => rfl
  | succ width ih => simp [bigEndian, ih]

theorem toNat_append_singleton (bs : Bytes) (b : UInt8) :
    toNat (bs ++ [b]) = 256 * toNat bs + b.toNat := by
  simp [toNat, List.foldl_append]

theorem toNat_bigEndian (width n : Nat) : toNat (bigEndian width n) = n % Nat.pow 256 width := by
  induction width generalizing n with
  | zero => simp [bigEndian, toNat, Nat.mod_one]
  | succ width ih =>
    have last : (UInt8.ofNat n).toNat = n % 256 := by simp
    have split : n % Nat.pow 256 (width + 1) =
        n % 256 + 256 * (n / 256 % Nat.pow 256 width) := by
      show n % (Nat.pow 256 width * 256) = _
      rw [Nat.mul_comm, Nat.mod_mul]
    rw [bigEndian, toNat_append_singleton, ih, last, split, Nat.add_comm]

theorem bigEndian_toNat (bs : Bytes) : bigEndian bs.length (toNat bs) = bs := by
  generalize h : bs.length = width
  induction width generalizing bs with
  | zero => simp [List.length_eq_zero_iff.mp h, bigEndian]
  | succ width ih =>
    obtain ⟨init, b, rfl⟩ : ∃ init b, bs = init ++ [b] :=
      ⟨bs.dropLast, bs.getLast (by rintro rfl; simp at h), (List.dropLast_concat_getLast _).symm⟩
    have hb := b.toNat_lt
    have rest : (256 * toNat init + b.toNat) / 256 = toNat init := by omega
    have last : UInt8.ofNat (256 * toNat init + b.toNat) = b := by
      apply UInt8.toNat_inj.mp
      simp only [UInt8.toNat_ofNat']
      omega
    rw [toNat_append_singleton, bigEndian, rest, last, ih init (by simpa using h)]

end Bytes

/-- A byte area of fixed size. -/
structure Block (size : Nat) where
  bytes : Bytes
  length_bytes : bytes.length = size
  deriving DecidableEq

namespace Block

variable {size : Nat}

def zero (size : Nat) : Block size := ⟨List.replicate size 0, by simp⟩

instance : Inhabited (Block size) := ⟨zero size⟩

def overlay (b : Block size) (start : Nat) (bs : Bytes) : Block size :=
  ⟨Bytes.overlay b.bytes start bs, by simp [b.length_bytes]⟩

/-- The bytes cut at the size of the area, or filled up to it with zeros. -/
def ofBytes (size : Nat) (bs : Bytes) : Block size := (zero size).overlay 0 bs

def slice (b : Block size) (start count : Nat) : Bytes := (b.bytes.drop start).take count

@[ext] theorem ext {a b : Block size} (h : a.bytes = b.bytes) : a = b := by
  cases a; cases b; cases h; rfl

@[simp] theorem bytes_overlay (b : Block size) (start : Nat) (bs : Bytes) :
    (b.overlay start bs).bytes = Bytes.overlay b.bytes start bs := rfl

@[simp] theorem overlay_nil (b : Block size) (start : Nat) : b.overlay start [] = b := by
  ext1; simp

/-- An area that is written over as a whole. -/
theorem overlay_bytes (b c : Block size) : b.overlay 0 c.bytes = c := by
  ext1
  have same : c.bytes.length = b.bytes.length := c.length_bytes.trans b.length_bytes.symm
  rw [bytes_overlay, Bytes.overlay_zero (Nat.le_of_eq same),
    List.drop_of_length_le (Nat.le_of_eq same.symm), List.append_nil]

theorem length_slice {b : Block size} {start count : Nat} (h : start + count ≤ size) :
    (b.slice start count).length = count := by
  simp only [slice, List.length_take, List.length_drop, b.length_bytes]
  omega

@[simp] theorem slice_zero (b : Block size) (start : Nat) : b.slice start 0 = [] := rfl

theorem slice_append (b : Block size) (start first second : Nat) :
    b.slice start first ++ b.slice (start + first) second = b.slice start (first + second) := by
  simp only [slice, ← List.drop_drop, List.take_add]

theorem take_slice (b : Block size) {start count fewer : Nat} (h : fewer ≤ count) :
    (b.slice start count).take fewer = b.slice start fewer := by
  simp only [slice, List.take_take, Nat.min_eq_left h]

/-- Bytes read back from where they were written. -/
theorem slice_overlay_self {b : Block size} {start : Nat} {bs : Bytes}
    (h : start + bs.length ≤ size) : (b.overlay start bs).slice start bs.length = bs := by
  have reach : start ≤ b.bytes.length := by have := b.length_bytes; omega
  rw [slice, bytes_overlay, Bytes.overlay_of_fits (by rwa [b.length_bytes]), List.append_assoc,
    List.drop_left' (List.length_take_of_le reach), List.take_left]

/-- Bytes before those written stay. -/
theorem slice_overlay_before {b : Block size} {start early count : Nat} {bs : Bytes}
    (h : early + count ≤ start) (fits : start ≤ size) :
    (b.overlay start bs).slice early count = b.slice early count := by
  have reach : start ≤ b.bytes.length := by rwa [b.length_bytes]
  have len : (b.bytes.take start).length = start := List.length_take_of_le reach
  rw [slice, bytes_overlay, Bytes.overlay, List.append_assoc,
    List.drop_append_of_le_length (by omega), List.take_append_of_le_length (by simp; omega),
    List.drop_take, List.take_take, Nat.min_eq_left (by omega), slice]

end Block

end PolledLink
