import PolledLink.Frame.Basic

/-! A channel that performs nothing. It holds the operation last asked for, until somebody takes it
out and performs it. -/

namespace PolledLink

inductive ChannelOperation
  /-- Send the first `count` bytes of the frame. -/
  | write (count : Nat)
  | read
  deriving DecidableEq

structure Mailbox where
  operation : Option ChannelOperation := none
  frame : Frame := Block.zero frameLength
  deriving DecidableEq

namespace Mailbox

def issueWrite (box : Mailbox) (bs : Bytes) : Mailbox where
  operation := some (.write (min bs.length frameLength))
  frame := box.frame.overlay 0 bs

def issueRead (box : Mailbox) : Mailbox := { box with operation := some .read }

/-- Takes the operation out. The bytes of a write go to the start of `target`. -/
def take (box : Mailbox) (target : Frame) : Option ChannelOperation × Frame × Mailbox :=
  let filled :=
    match box.operation with
    | some (.write count) => target.overlay 0 (box.frame.bytes.take count)
    | _ => target
  (box.operation, filled, { box with operation := none })

end Mailbox

end PolledLink
