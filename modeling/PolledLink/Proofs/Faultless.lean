import PolledLink.Proofs.CheckedLink
import PolledLink.Proofs.CheckedRunner
import PolledLink.Proofs.Discipline
import PolledLink.Proofs.Remarks

/-! Nothing that is done with a link takes it out of the range of what it accesses. Whatever bytes are
received and however calls are nested, the link with all accesses checked does what the link does
without the checks. Its requests come from a host that makes them, fills their buffers and hands
them in, and the count of the bytes moved is left to the link. -/

namespace PolledLink

/-- What holds of a request ever since it was made. -/
structure Request.Proper (r : Request) : Prop where
  processed_le : r.processed ≤ r.requested
  whole : r.progress = .ready .ok → r.processed = r.requested

/-- The request with other bytes in its buffer, if these are as many. -/
def Request.refilled (r : Request) (buffer : Bytes) : Request :=
  if buffer.length = r.requested then { r with buffer } else r

namespace Request

variable {r : Request}

theorem Proper.fresh (direction : Direction) (buffer : Bytes) : Proper { direction, buffer } where
  processed_le := Nat.zero_le _
  whole := nofun

theorem Proper.refilled (h : r.Proper) (buffer : Bytes) : (r.refilled buffer).Proper := by
  unfold Request.refilled
  split
  · rename_i same
    refine ⟨Nat.le_trans h.processed_le (Nat.le_of_eq same.symm), fun done => ?_⟩
    exact (h.whole done).trans same.symm
  · exact h

theorem Proper.exchange (h : r.Proper) (b : Buffers) :
    (b.exchange r).2.1.processed ≤ (b.exchange r).2.1.requested := by
  have rest : r.processed + r.rest.length = r.requested := by
    rw [Request.rest, List.length_drop]
    exact Nat.add_sub_cancel' h.processed_le
  unfold Buffers.exchange
  cases r.direction with
  | write =>
    show r.processed + min r.rest.length b.writeSpace ≤ r.requested
    omega
  | read =>
    have few : (b.drain r.rest.length).1.length ≤ r.rest.length :=
      Nat.le_trans (List.length_take_le _ _) (Nat.min_le_left _ _)
    show r.processed + (b.drain r.rest.length).1.length ≤ (Bytes.overlay r.buffer _ _).length
    rw [Bytes.length_overlay]
    show _ ≤ r.requested
    omega

end Request

namespace Link

variable {l : Link} {r : Request} {sv : Serviced}

theorem Serves.proper (h : l.Serves r sv) (proper : r.Proper) : sv.request.Proper := by
  cases h with
  | busy => exact proper
  | failed => exact ⟨proper.processed_le, nofun⟩
  | finished _ _ exchanged all => exact ⟨Nat.le_of_eq all, fun _ => all⟩
  | unfinished _ _ exchanged =>
    have moved := proper.exchange l.buffers
    rw [exchanged] at moved
    exact ⟨moved, nofun⟩

/-- A request that is serviced to its end has all its bytes moved. -/
theorem Serves.whole (h : l.Serves r sv) (done : sv.progress = .ready .ok) :
    sv.request.processed = sv.request.requested := by
  cases h with
  | busy => nomatch done
  | failed => nomatch done
  | finished _ _ exchanged all => exact all
  | unfinished => nomatch done

end Link

theorem Session.Passage.served_eq {s s' : Session} {m : Session.Move} {es : List Event}
    {before after : Request} (p : s.Passage m es s') (he : .served before after ∈ es) :
    after = (s.link.service before).request := by
  cases p with
  | served r =>
    rcases List.mem_singleton.mp he with ⟨⟩
    rfl
  | shown =>
    rcases List.mem_singleton.mp he with ⟨⟩
    rfl
  | shownShort =>
    rcases List.mem_singleton.mp he with ⟨⟩
    rfl
  | _ => simp at he

theorem Session.served_mem_events {s : Session} {m : Session.Move} {before after : Request}
    (handed : m.request? = some before) (served : (s.advance m).served = some after) :
    .served before after ∈ s.events m := by
  have servings : s.servings m = [.served before after] := by
    unfold servings
    rw [handed, served]
  rw [events, servings]
  exact List.mem_append_left _ (List.mem_append_right _ List.mem_cons_self)

/-- A session with all the requests that its host has made, each known by its number. -/
structure Holdings where
  session : Session
  requests : List Request := []

namespace Holdings

/-- What the host and the channel can do. A call that services a request names its number. -/
inductive Act
  | make (direction : Direction) (buffer : Bytes)
  /-- Changes the bytes in the buffer of a request, but not how many there are. -/
  | refill (id : Nat) (buffer : Bytes)
  | service (id : Nat)
  | call (c : Call)
  | answer (shown : Option Nat)

def ofConfig (config : Config) : Holdings := { session := .ofConfig config }

def Act.id? : Act → Option Nat
  | service id => some id
  | answer shown => shown
  | _ => none

def move? (h : Holdings) : Act → Option Session.Move
  | .service id => h.requests[id]?.map fun r => .call (.service r)
  | .answer (some id) => h.requests[id]?.map fun r => .answer (some r)
  | .answer none => some (.answer none)
  | .call (.service _) => none
  | .call c => some (.call c)
  | .make _ _ | .refill _ _ => none

/-- The requests after what the host does by itself. -/
def prepared (h : Holdings) : Act → List Request
  | .make direction buffer => h.requests ++ [{ direction, buffer }]
  | .refill id buffer =>
    match h.requests[id]? with
    | some r => h.requests.set id (r.refilled buffer)
    | none => h.requests
  | _ => h.requests

/-- What a move of the session leaves, with the request that it has served. -/
def after (h : Holdings) (a : Act) (ended : Advance × Session) : Holdings where
  session := ended.2
  requests :=
    match a.id?, ended.1.served with
    | some id, some r => h.requests.set id r
    | _, _ => h.requests

def act (h : Holdings) (a : Act) : Holdings :=
  match h.move? a with
  | none => { h with requests := h.prepared a }
  | some m => h.after a (h.session.step m)

/-- The same with all accesses of the link checked. -/
def act? (h : Holdings) (a : Act) : Option Holdings :=
  match h.move? a with
  | none => some { h with requests := h.prepared a }
  | some m => do
    let ended ← h.session.step? m
    some (h.after a ended)

def run (h : Holdings) (acts : List Act) : Holdings := acts.foldl act h

def run? (h : Holdings) (acts : List Act) : Option Holdings := acts.foldlM act? h

structure Proper (h : Holdings) : Prop where
  steady : h.session.Steady
  requests : ∀ r ∈ h.requests, r.Proper

variable {h : Holdings} {a : Act} {m : Session.Move}

theorem proper_ofConfig (config : Config) : (ofConfig config).Proper :=
  ⟨Session.steady_ofConfig config, nofun⟩

/-- The request that is handed in with a move is one of those that the host has. -/
theorem handed (hm : h.move? a = some m) :
    a.id? = none ∧ m.request? = none ∨
      ∃ id r, a.id? = some id ∧ h.requests[id]? = some r ∧ m.request? = some r := by
  cases a with
  | make => nomatch hm
  | refill => nomatch hm
  | service id =>
    obtain ⟨r, found, rfl⟩ := Option.map_eq_some_iff.mp hm
    exact .inr ⟨id, r, rfl, found, rfl⟩
  | call c =>
    cases c with
    | service => nomatch hm
    | _ =>
      cases hm
      exact .inl ⟨rfl, rfl⟩
  | answer shown =>
    cases shown with
    | none =>
      cases hm
      exact .inl ⟨rfl, rfl⟩
    | some id =>
      obtain ⟨r, found, rfl⟩ := Option.map_eq_some_iff.mp hm
      exact .inr ⟨id, r, rfl, found, rfl⟩

theorem Proper.set (proper : h.Proper) (id : Nat) {r : Request} (hr : r.Proper) :
    ∀ r' ∈ h.requests.set id r, r'.Proper := by
  intro r' mem
  rcases List.mem_or_eq_of_mem_set mem with old | rfl
  · exact proper.requests r' old
  · exact hr

theorem Proper.prepared (proper : h.Proper) (a : Act) : ∀ r ∈ h.prepared a, r.Proper := by
  cases a with
  | make direction buffer =>
    intro r mem
    rcases List.mem_append.mp mem with old | new
    · exact proper.requests r old
    · rw [List.mem_singleton.mp new]
      exact .fresh direction buffer
  | refill id buffer =>
    unfold Holdings.prepared
    dsimp only
    split
    · rename_i r found
      exact proper.set id ((proper.requests r (List.mem_of_getElem? found)).refilled buffer)
    · exact proper.requests
  | _ => exact proper.requests

theorem Proper.after (proper : h.Proper) (hm : h.move? a = some m) :
    ∀ r ∈ (h.after a (h.session.step m)).requests, r.Proper := by
  unfold Holdings.after
  rw [Session.step_fst]
  rcases handed hm with ⟨none, -⟩ | ⟨id, r, named, found, given⟩
  · rw [none]
    exact proper.requests
  · rw [named]
    cases served : (h.session.advance m).served with
    | none => exact proper.requests
    | some r' =>
      have p := Session.passage proper.steady.toSound m
      have left := p.served_eq (Session.served_mem_events given served)
      have serves := h.session.link.serves r
      rw [left]
      exact proper.set id (serves.proper (proper.requests r (List.mem_of_getElem? found)))

/-- One step: the checks are all passed, and what holds of the requests still does. -/
theorem Proper.act (proper : h.Proper) (a : Act) :
    h.act? a = some (h.act a) ∧ (h.act a).Proper := by
  unfold Holdings.act? Holdings.act
  cases hm : h.move? a with
  | none => exact ⟨rfl, proper.steady, proper.prepared a⟩
  | some m =>
    have fits : ∀ r ∈ m.request?, r.processed ≤ r.requested := by
      intro r mem
      rcases handed hm with ⟨-, none⟩ | ⟨id, r', -, found, given⟩
      · nomatch none.symm.trans mem
      · obtain rfl := Option.some.inj (given.symm.trans mem)
        exact (proper.requests r' (List.mem_of_getElem? found)).processed_le
    refine ⟨?_, proper.steady.next m, proper.after hm⟩
    dsimp only
    rw [proper.steady.toSound.step?_eq fits]
    rfl

theorem Proper.run (proper : h.Proper) (acts : List Act) :
    h.run? acts = some (h.run acts) ∧ (h.run acts).Proper := by
  induction acts generalizing h with
  | nil => exact ⟨rfl, proper⟩
  | cons a acts ih =>
    obtain ⟨same, kept⟩ := proper.act a
    obtain ⟨later, rest⟩ := ih kept
    refine ⟨?_, rest⟩
    unfold run?
    rw [List.foldlM_cons, same]
    exact later

/-- Take any run of a new link, with calls nested in any way, any bytes received, and requests of any
length. None of its accesses is out of range, and the link lock is held wherever it has to be. No
request is ever further on than it is long, and one that is complete has been moved as a whole. A
frame can always be made of the staged bytes, so that it is for want of a channel that an operation
is not started. A mailbox keeps in range in the same way, whatever it is given. So does every step of
a runner, whatever its transport says of the bytes that it has read. -/
theorem accesses_in_range (config : Config) (acts : List Act) :
    let h := (ofConfig config).run acts
    (ofConfig config).run? acts = some h ∧
    (∀ r ∈ h.requests,
      r.processed ≤ r.requested ∧ (r.progress = .ready .ok → r.processed = r.requested)) ∧
    (∀ r, (h.session.link.service r).progress = .ready .ok →
      (h.session.link.service r).request.processed =
        (h.session.link.service r).request.requested) ∧
    (∀ source, ∃ b, h.session.link.buffers.stamp source = .ok b) ∧
    (∀ m e, .notStarted e ∈ (h.session.step m).1.notes →
      e = .notConfigured ∧ (h.session.next m).link.result = .error .notConfigured) ∧
    (∀ us : List Mailbox.Use,
      us.foldlM Mailbox.use? {} = some (us.foldl Mailbox.use {})) ∧
    (∀ {σ τ : Type} (q : Queueing σ) (t : Carrier τ) (queues : σ) (far : τ) (bound : Nat)
        (driven : List (PolledLink.Act σ)),
      let rig := ((Console.driven q t (bound + 3)).run driven (.ofConfig config queues far)).2
      (Deployment.runner? q t).step? (bound + 3) rig.buffer rig.site =
        some ((Deployment.runner q t).step (bound + 3) rig.buffer rig.site)) := by
  intro h
  obtain ⟨same, proper⟩ := (proper_ofConfig config).run acts
  have sound := proper.steady.toSound
  refine ⟨same, ?_, ?_, ?_, ?_, ?_, ?_⟩
  · intro r mem
    have holds := proper.requests r mem
    exact ⟨holds.processed_le, holds.whole⟩
  · intro r done
    exact (h.session.link.serves r).whole done
  · intro source
    exact ⟨_, sound.inBounds.stamp_eq source⟩
  · intro m e noted
    rw [Session.step_fst] at noted
    rw [Session.next_link]
    rcases sound.explained m _ noted with routine | ⟨named, result⟩
    · nomatch routine
    · exact ⟨Note.notStarted.inj named, result⟩
  · intro us
    have empty : ({} : Mailbox).Fits := nofun
    exact empty.foldlM_use? us
  · intro σ τ q t queues far bound driven rig
    have start := Console.ready_ofConfig config queues far
    exact (Console.run_onWire (q := q) (t := t) start bound driven).2.step?_eq (bound + 3)

end Holdings

end PolledLink
