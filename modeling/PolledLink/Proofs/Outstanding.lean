import PolledLink.Proofs.Discipline

/-! The link and the traffic agree on the operation that is outstanding. Hence operations are asked for
one at a time, and each comes to its end before the next is asked for. -/

namespace PolledLink

namespace Traffic

theorem outstanding_note_served (t : Traffic) (before after : Request) :
    (t.note (.served before after)).outstanding = t.outstanding := by
  simp only [note]
  split <;> rfl

end Traffic

namespace Link

/-- The traffic has the operation that is outstanding. A write is one of the frame in which bytes are
staged, with the header that counts them. -/
structure TrackedBy (l : Link) (t : Traffic) : Prop where
  idle : l.operation = .idle → t.outstanding = none
  writes : l.operation.writes = true → t.outstanding = some (.write l.buffers.tx) ∧
    Header.parse l.buffers.tx.bytes =
      .ok ⟨.request, l.config.source, UInt16.ofNat l.buffers.writePos⟩
  reads : l.operation.reads = true → t.outstanding = some .read

namespace TrackedBy

variable {l : Link} {t : Traffic}

theorem of_idle (idle : l.operation = .idle) (none : t.outstanding = none) : l.TrackedBy t where
  idle _ := none
  writes writes := absurd idle (Operation.ne_idle_of_writes writes)
  reads reads := absurd idle (Operation.ne_idle_of_reads reads)

theorem serves {r : Request} {sv : Serviced} (h : l.TrackedBy t) (serves : l.Serves r sv)
    (held : l.operation ≠ .idle → l.locks.link = true) :
    sv.link.TrackedBy (t.note (.served r sv.request)) := by
  have same := t.outstanding_note_served r sv.request
  by_cases idle : l.operation = .idle
  · obtain ⟨schedule, published, link⟩ := serves.link_eq
    refine of_idle ?_ (same.trans (h.idle idle))
    rw [link]
    exact idle
  · rw [(serves.eq_of_held (held idle)).1]
    exact ⟨fun i => absurd i idle, fun w => ⟨same.trans (h.writes w).1, (h.writes w).2⟩,
      fun r => same.trans (h.reads r)⟩

theorem passOn (h : l.TrackedBy t) (unit : LinkUnit) : (l.passOn unit).link.TrackedBy t := by
  cases unit with
  | input => exact h
  | output => exact ⟨h.idle, h.writes, h.reads⟩

end TrackedBy

end Link

namespace Session

variable {s s' : Session} {m : Move} {es : List Event} {t : Traffic}

theorem Passage.tracked (p : s.Passage m es s') (h : s.Steady) (ht : s.link.TrackedBy t) :
    s'.link.TrackedBy (t.noteAll es) := by
  cases p with
  | aside schedule isOpen => exact ⟨ht.idle, ht.writes, ht.reads⟩
  | attached idle => exact .of_idle idle (ht.idle idle)
  | opened schedule configured => exact ⟨ht.idle, ht.writes, ht.reads⟩
  | served r => exact ht.serves (s.link.serves r) h.busy
  | flushed => exact ⟨nofun, fun _ => ⟨rfl, Frame.parse_stamp _ _⟩, nofun⟩
  | polled => exact ⟨nofun, nofun, fun _ => rfl⟩
  | unstarted runs idle => exact .of_idle idle (ht.idle idle)
  | wakeRefused runs idle => exact .of_idle idle (ht.idle idle)
  | woke runs idle => exact .of_idle idle (ht.idle idle)
  | @shown unit r => exact ht.serves (s.link.serves r) h.busy
  | @shownShort unit r => exact (ht.serves (s.link.serves r) h.busy).passOn unit
  | @shownNone unit => exact ht.passOn unit
  | @completed unit => exact ht.passOn unit
  | writeStarted hs issuing => exact ⟨nofun, fun _ => ht.writes (by rw [issuing]; rfl), nofun⟩
  | readStarted hs issuing => exact ⟨nofun, nofun, fun _ => ht.reads (by rw [issuing]; rfl)⟩
  | writeEarly issuing => exact ⟨nofun, fun _ => ht.writes (by rw [issuing]; rfl), nofun⟩
  | writeFailed => exact .of_idle rfl rfl
  | writeSent => exact .of_idle rfl rfl
  | writeChained => exact ⟨nofun, nofun, fun _ => rfl⟩
  | replyAccepted => exact .of_idle rfl rfl
  | replyDiscarded => exact .of_idle rfl rfl
  | readFailed => exact .of_idle rfl rfl

theorem Passage.admitsAll (p : s.Passage m es s') (ht : s.link.TrackedBy t) : t.AdmitsAll es := by
  cases p with
  | served r => exact ⟨trivial, trivial⟩
  | flushed runs idle => exact ⟨ht.idle idle, trivial⟩
  | polled runs idle => exact ⟨ht.idle idle, trivial⟩
  | shown => exact ⟨trivial, trivial⟩
  | shownShort => exact ⟨trivial, trivial⟩
  | writeFailed ends => exact ⟨⟨_, (ht.writes ends.writes).1⟩, trivial⟩
  | writeSent ends => exact ⟨⟨_, (ht.writes ends.writes).1⟩, trivial⟩
  | writeChained ends => exact ⟨⟨_, (ht.writes ends.writes).1⟩, rfl, trivial⟩
  | replyAccepted reading => exact ⟨ht.reads (by rw [reading]; rfl), trivial⟩
  | replyDiscarded reading => exact ⟨ht.reads (by rw [reading]; rfl), trivial⟩
  | readFailed reading => exact ⟨ht.reads (by rw [reading]; rfl), trivial⟩
  | _ => trivial

theorem tracked_ofConfig (config : Config) : (ofConfig config).link.TrackedBy {} :=
  .of_idle rfl rfl

theorem Steady.tracked_run (h : s.Steady) (ms : List Move) (ht : s.link.TrackedBy t) :
    (s.run ms).link.TrackedBy (t.noteAll (s.history ms)) :=
  h.keeps (fun steady p tracked => p.tracked steady tracked) ms ht

theorem tracked_traffic (config : Config) (ms : List Move) :
    ((ofConfig config).run ms).link.TrackedBy ((ofConfig config).traffic ms) :=
  (steady_ofConfig config).tracked_run ms (tracked_ofConfig config)

theorem Steady.admitsAll_history (h : s.Steady) (ms : List Move) (ht : s.link.TrackedBy t) :
    t.AdmitsAll (s.history ms) := by
  induction ms generalizing s t with
  | nil => trivial
  | cons m ms ih =>
    have p := passage h.toSound m
    exact (t.admitsAll_append _ _).mpr ⟨p.admitsAll ht, ih (h.next m) (p.tracked h ht)⟩

end Session

end PolledLink
