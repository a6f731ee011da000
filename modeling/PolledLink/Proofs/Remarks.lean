import PolledLink.Proofs.Passage

/-! What a link remarks on its own work. In a sound session it never finds an operation in a state that
it should not be in once the channel has started it, and it is for want of a channel alone that one
cannot be started. -/

namespace PolledLink

/-- Whether the note is made in the course of things. -/
def Note.routine : Note → Bool
  | .unexpectedOperation _ | .notStarted _ => false
  | _ => true

namespace Advance

/-- What is noted is routine, or else that there is no channel, as the result then says too. -/
def Explained (a : Advance) : Prop :=
  ∀ n ∈ a.notes, n.routine = true ∨
    n = .notStarted .notConfigured ∧ a.link.result = .error .notConfigured

/-- Nothing is noted about an operation in a state that it should not be in. -/
def Expected (a : Advance) : Prop := ∀ code, Note.unexpectedOperation code ∉ a.notes

variable {a : Advance} {notes : List Note}

theorem Explained.expected (h : a.Explained) : a.Expected := by
  intro code noted
  rcases h _ noted with routine | ⟨other, _⟩
  · nomatch routine
  · nomatch other

theorem explained_of_routine (h : a.notes.all Note.routine = true) : a.Explained :=
  fun n noted => .inl (List.all_eq_true.mp h n noted)

theorem Explained.after (h : a.Explained) (routine : notes.all Note.routine = true) :
    (a.after notes).Explained := by
  intro n noted
  rcases List.mem_append.mp noted with early | late
  · exact .inl (List.all_eq_true.mp routine n early)
  · exact h n late

end Advance

namespace Link

variable {l : Link}

theorem explained_unattached (l : Link) : (l.abandon .notConfigured).Explained := by
  intro n noted
  exact .inr ⟨List.mem_singleton.mp noted, rfl⟩

theorem explained_poll (l : Link) : l.poll.Explained := by
  unfold poll
  dsimp only
  split
  · exact explained_unattached _
  · exact Advance.explained_of_routine rfl

theorem explained_flush (h : l.buffers.InBounds) : l.flush.Explained := by
  unfold flush
  simp only [h.stamp_eq]
  split
  · exact explained_unattached _
  · exact Advance.explained_of_routine rfl

theorem explained_wake (l : Link) : l.wake.Explained := by
  unfold wake
  dsimp only
  split <;> exact Advance.explained_of_routine rfl

theorem explained_runTask (h : l.buffers.InBounds) : l.runTask.Explained := by
  unfold runTask
  split
  · exact Advance.explained_of_routine rfl
  · rename_i locks _
    refine Advance.Explained.after ?_ rfl
    cases { l with locks }.nextAction with
    | flush => exact explained_flush h
    | poll => exact explained_poll _
    | wake => exact explained_wake _

theorem explained_finishWrite (l : Link) (o : Outcome) : (l.finishWrite o).Explained := by
  cases o with
  | error e => exact Advance.explained_of_routine rfl
  | ok =>
    unfold finishWrite
    dsimp only
    split
    · exact (explained_poll _).after rfl
    · exact Advance.explained_of_routine rfl

theorem explained_passOn (l : Link) (unit : LinkUnit) : (l.passOn unit).Explained := by
  cases unit <;> exact Advance.explained_of_routine rfl

theorem Serves.routine {r : Request} {sv : Serviced} (h : l.Serves r sv) :
    sv.notes.all Note.routine = true := by
  cases h <;> rfl

theorem explained_offered (l : Link) (unit : LinkUnit) (shown : Option Request) :
    (l.offered unit shown).Explained := by
  unfold offered
  split
  · exact explained_passOn l unit
  · rename_i r _
    have routine := (l.serves r).routine
    dsimp only
    split
    · exact Advance.explained_of_routine (by rw [List.all_append, routine]; rfl)
    · exact (explained_passOn _ unit).after routine

theorem routine_discard (l : Link) (e : Error) : (l.discard e).2.all Note.routine = true := by
  unfold discard
  dsimp only
  split <;> rfl

theorem routine_receive (l : Link) (received : Received) :
    (l.receive received).2.2.all Note.routine = true := by
  have refused (e : Error) {notes : List Note} (h : notes.all Note.routine = true) :
      (if e.isTransient then (Outcome.error e, (l.discard e).1, notes ++ (l.discard e).2)
        else (.error e, { l with result := .error e }, notes ++ [.readFailed e])).2.2.all
          Note.routine = true := by
    split
    · rw [List.all_append, h, routine_discard]
      rfl
    · rw [List.all_append, h]
      rfl
  cases received with
  | error e => exact refused e rfl
  | ok bs =>
    simp only [receive]
    cases Reply.read bs with
    | ok r => rfl
    | error rejection =>
      refine refused rejection.error ?_
      cases rejection <;> rfl

theorem explained_call (h : l.buffers.InBounds) (c : Call) : (l.call c).Explained := by
  cases c with
  | attach channel =>
    unfold call attach
    dsimp only
    split <;> exact Advance.explained_of_routine rfl
  | openUnit unit =>
    unfold call openUnit
    dsimp only
    split
    · refine Advance.explained_of_routine ?_
      rw [List.all_append, Bool.and_eq_true]
      constructor
      · split <;> split <;> rfl
      · split <;> rfl
    · exact Advance.explained_of_routine rfl
  | closeUnit unit => exact Advance.explained_of_routine rfl
  | setPollInterval ticks => exact Advance.explained_of_routine rfl
  | onTimer =>
    unfold call onTimer
    dsimp only
    split
    · exact explained_runTask h
    · exact Advance.explained_of_routine rfl
  | runTask => exact explained_runTask h
  | service r => exact Advance.explained_of_routine (l.serves r).routine
  | writeComplete o =>
    unfold call writeComplete
    dsimp only
    split
    · exact explained_finishWrite _ o
    · exact Advance.explained_of_routine rfl
    · exact Advance.explained_of_routine rfl
  | readComplete received =>
    unfold call readComplete
    dsimp only
    split
    · exact Advance.explained_of_routine (routine_receive _ received)
    · exact Advance.explained_of_routine rfl
    · exact Advance.explained_of_routine rfl

end Link

namespace Session

variable {s : Session}

theorem Sound.explained (h : s.Sound) (m : Move) : (s.advance m).Explained := by
  cases m with
  | call c => exact Link.explained_call h.inBounds c
  | answer shown =>
    have stacked := h.stacked
    unfold advance
    cases hs : s.stopped with
    | nil => exact Advance.explained_of_routine rfl
    | cons d outer =>
      rw [hs] at stacked
      cases d with
      | head unit => exact s.link.explained_offered unit shown
      | complete unit outcome => exact s.link.explained_passOn unit
      | issueRead channel =>
        have started := Link.readIssued_pending stacked.of_issueRead.1
        simp only [Link.resume, started]
        exact Advance.explained_of_routine rfl
      | issueWrite channel frame count =>
        rcases stacked.of_issueWrite.1 with issuing | ⟨o, done⟩
        · have started := Link.writeIssued_pending issuing count
          simp only [Link.resume, started]
          exact Advance.explained_of_routine rfl
        · have ended := Link.writeIssued_heldOver done count
          simp only [Link.resume, ended]
          exact (Link.explained_finishWrite _ o).after rfl

theorem Sound.expected (h : s.Sound) (m : Move) : (s.advance m).Expected := (h.explained m).expected

end Session

end PolledLink
