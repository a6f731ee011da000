/-! What can go wrong on a link, and the results of what it is asked to do. Two errors are faults of
framing. They are transient, since polling again recovers from them. Every other error stays on the
link until one of its units is opened again. -/

namespace PolledLink

inductive Error
  | notConfigured
  | io
  | wrongTag
  | shortFrame
  | busy
  | payloadTooLarge
  | bufferTooSmall
  deriving DecidableEq

namespace Error

def all : List Error :=
  [notConfigured, io, wrongTag, shortFrame, busy, payloadTooLarge, bufferTooSmall]

def name : Error → String
  | notConfigured => "NotConfigured"
  | io => "Io"
  | wrongTag => "WrongTag"
  | shortFrame => "ShortFrame"
  | busy => "Busy"
  | payloadTooLarge => "PayloadTooLarge"
  | bufferTooSmall => "BufferTooSmall"

def ofName? (text : String) : Option Error := all.find? fun e => e.name == text

/-- Codes start at one, so that zero is left for success. -/
def code : Error → Nat
  | notConfigured => 1
  | io => 2
  | wrongTag => 3
  | shortFrame => 4
  | busy => 5
  | payloadTooLarge => 6
  | bufferTooSmall => 7

def isTransient : Error → Bool
  | wrongTag => true
  | shortFrame => true
  | _ => false

theorem mem_all (e : Error) : e ∈ all := by cases e <;> decide

theorem isTransient_iff (e : Error) : e.isTransient = true ↔ e = wrongTag ∨ e = shortFrame := by
  cases e <;> decide

theorem code_injective {e f : Error} (h : e.code = f.code) : e = f := by
  cases e <;> cases f <;> first | rfl | cases h

theorem ofName?_name (e : Error) : ofName? e.name = some e := by cases e <;> decide

end Error

inductive Outcome
  | ok
  | error (e : Error)
  deriving DecidableEq

namespace Outcome

/-- The error that keeps a link from starting any operation. -/
def failure? : Outcome → Option Error
  | ok => none
  | error e => if e.isTransient then none else some e

/-- The first error of the two wins. -/
def andThen : Outcome → Outcome → Outcome
  | ok, second => second
  | error e, _ => error e

def text : Outcome → String
  | ok => "Ok(())"
  | error e => s!"Err({e.name})"

@[simp] theorem failure?_ok : ok.failure? = none := rfl

theorem failure?_eq_some {o : Outcome} {e : Error} :
    o.failure? = some e ↔ o = error e ∧ e.isTransient = false := by
  cases o with
  | ok => simp
  | error f =>
    by_cases h : f.isTransient
    · simp only [failure?, h, if_true, error.injEq]
      exact ⟨nofun, fun ⟨hf, he⟩ => by subst hf; simp [h] at he⟩
    · simp only [failure?, h, error.injEq]
      constructor
      · rintro ⟨rfl⟩
        exact ⟨rfl, by simpa using h⟩
      · rintro ⟨rfl, _⟩
        rfl

@[simp] theorem andThen_ok (o : Outcome) : o.andThen ok = o := by cases o <;> rfl

@[simp] theorem ok_andThen (o : Outcome) : ok.andThen o = o := rfl

end Outcome

inductive Progress
  | pending
  | ready (outcome : Outcome)
  deriving DecidableEq

end PolledLink
