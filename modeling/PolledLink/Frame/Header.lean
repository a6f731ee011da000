import PolledLink.Bytes
import PolledLink.Error

/-! The header at the start of every frame: four tag bytes, the source unit, a reserved byte and a
big-endian length. A request's length counts the payload bytes sent, a reply's all the bytes that
the peripheral has available. -/

namespace PolledLink

inductive Tag
  | request
  | reply
  deriving DecidableEq

namespace Tag

/-- The letters `FREQ` and `FRPY`. -/
def bytes : Tag → Bytes
  | request => [0x46, 0x52, 0x45, 0x51]
  | reply => [0x46, 0x52, 0x50, 0x59]

def word (t : Tag) : Nat := t.bytes.toNat

def ofWord? (n : Nat) : Option Tag :=
  if n = request.word then some request else if n = reply.word then some reply else none

def name : Tag → String
  | request => "Request"
  | reply => "Reply"

theorem ofWord?_eq_some {n : Nat} {t : Tag} : ofWord? n = some t ↔ n = t.word := by
  have distinct : request.word ≠ reply.word := by decide
  unfold ofWord?
  split
  · cases t <;> simp_all
  · split <;> cases t <;> simp_all [eq_comm]

theorem ofWord?_word (t : Tag) : ofWord? t.word = some t := ofWord?_eq_some.mpr rfl

theorem ofWord?_eq_none {n : Nat} : ofWord? n = none ↔ ∀ t : Tag, n ≠ t.word := by
  simp only [Option.eq_none_iff_forall_ne_some, ne_eq, ofWord?_eq_some]

end Tag

def headerLength : Nat := 8

structure Header where
  tag : Tag
  source : UInt8
  length : UInt16
  deriving DecidableEq

namespace Header

def encode (h : Header) : Bytes :=
  h.tag.bytes ++ [h.source, 0] ++ Bytes.bigEndian 2 h.length.toNat

def write (h : Header) (area : Bytes) : Except Error Bytes :=
  if area.length < headerLength then .error .bufferTooSmall else .ok (area.overlay 0 h.encode)

def parse : Bytes → Except Error Header
  | t₀ :: t₁ :: t₂ :: t₃ :: source :: _ :: l₀ :: l₁ :: _ =>
    match Tag.ofWord? (Bytes.toNat [t₀, t₁, t₂, t₃]) with
    | some tag => .ok ⟨tag, source, UInt16.ofNat (Bytes.toNat [l₀, l₁])⟩
    | none => .error .wrongTag
  | _ => .error .shortFrame

/-- Bytes that are no fewer than those of a header. -/
theorem exists_of_length_ge {bs : Bytes} (h : headerLength ≤ bs.length) :
    ∃ t₀ t₁ t₂ t₃ source reserved l₀ l₁ rest,
      bs = t₀ :: t₁ :: t₂ :: t₃ :: source :: reserved :: l₀ :: l₁ :: rest := by
  match bs, h with
  | t₀ :: t₁ :: t₂ :: t₃ :: source :: reserved :: l₀ :: l₁ :: rest, _ =>
    exact ⟨t₀, t₁, t₂, t₃, source, reserved, l₀, l₁, rest, rfl⟩

@[simp] theorem length_encode (h : Header) : h.encode.length = headerLength := by
  cases h with | mk tag source length => cases tag <;> simp [encode, Tag.bytes, headerLength]

/-- Whatever follows a written header, it reads back. -/
theorem parse_encode_append (h : Header) (rest : Bytes) : parse (h.encode ++ rest) = .ok h := by
  have value : Bytes.toNat (Bytes.bigEndian 2 h.length.toNat) = h.length.toNat := by
    rw [Bytes.toNat_bigEndian]
    exact Nat.mod_eq_of_lt h.length.toNat_lt
  rcases h with ⟨tag, source, length⟩
  have word : Tag.ofWord? (Bytes.toNat tag.bytes) = some tag := Tag.ofWord?_word tag
  cases tag <;>
    simp only [encode, Tag.bytes, Bytes.bigEndian, parse, List.nil_append, List.cons_append,
      word, value, UInt16.ofNat_toNat] at word value ⊢

end Header

end PolledLink
