import PolledLink.Proofs.Failure

/-! Replies that cannot be used are counted as long as they come in a row, and at the limit they fail
the link. What makes a row is told from the moves of a session alone, and the count of the link
keeps to it. -/

namespace PolledLink

/-- Bytes that are no reply are a fault of framing. -/
theorem Reply.isTransient_of_decode {bs : Bytes} {e : Error} (h : Reply.decode bs = .error e) :
    e.isTransient = true := by
  have header {e : Error} (hp : Header.parse bs = .error e) : e.isTransient = true := by
    unfold Header.parse at hp
    split at hp
    · split at hp
      · nomatch hp
      · cases hp; rfl
    · cases hp; rfl
  unfold Reply.decode Reply.read at h
  cases hp : Header.parse bs with
  | error e' =>
    rw [hp] at h
    obtain rfl : e' = e := Except.error.inj h
    exact header hp
  | ok parsed =>
    simp only [hp] at h
    split at h
    · cases h; rfl
    · split at h
      · cases h; rfl
      · nomatch h

namespace Session

/-- What a move means to a row of discards. -/
inductive Bearing
  | discard
  /-- The next discard is the first of a row. -/
  | restart
  | neither
  deriving DecidableEq

def bearing (s : Session) : Move → Bearing
  | .call (.openUnit unit) => if (s.link.openUnit unit).1 = .ok then .restart else .neither
  | .call (.readComplete received) =>
    if s.link.operation = .reading then
      match received.reply with
      | .ok _ => .restart
      | .error e => if e.isTransient then .discard else .neither
    else .neither
  | _ => .neither

def bearings (s : Session) : List Move → List Bearing
  | [] => []
  | m :: ms => s.bearing m :: (s.next m).bearings ms

/-- The length of the row that the last of these belong to. -/
def Bearing.row (bs : List Bearing) : Nat := (bs.reverse.takeWhile (· ≠ .restart)).count .discard

theorem Bearing.row_concat (bs : List Bearing) (b : Bearing) :
    row (bs ++ [b]) =
      match b with
      | .discard => row bs + 1
      | .restart => 0
      | .neither => row bs := by
  unfold row
  rw [List.reverse_append, List.reverse_singleton, List.singleton_append]
  cases b with
  | discard => rw [List.takeWhile_cons_of_pos (by decide), List.count_cons_self]
  | restart => rw [List.takeWhile_cons_of_neg (by decide), List.count_nil]
  | neither => rw [List.takeWhile_cons_of_pos (by decide), List.count_cons_of_ne (by decide)]

/-- How many replies have been discarded since a reply was accepted or a unit opened. -/
def discardsInARow (s : Session) (ms : List Move) : Nat := Bearing.row (s.bearings ms)

variable {s s' : Session} {m : Move} {es : List Event} {e : Error}

theorem bearings_append (s : Session) (first second : List Move) :
    s.bearings (first ++ second) = s.bearings first ++ (s.run first).bearings second := by
  induction first generalizing s with
  | nil => rfl
  | cons m ms ih => exact congrArg (s.bearing m :: ·) (ih (s.next m))

theorem discardsInARow_concat (s : Session) (ms : List Move) (m : Move) :
    s.discardsInARow (ms ++ [m]) = Bearing.row (s.bearings ms ++ [(s.run ms).bearing m]) := by
  rw [discardsInARow, bearings_append]
  rfl

theorem bearing_openUnit {unit : LinkUnit} (configured : s.link.configured = true) :
    s.bearing (.call (.openUnit unit)) = .restart := if_pos (reopens_iff.mpr configured)

theorem bearing_readComplete {received : Link.Received} (reading : s.link.operation = .reading) :
    s.bearing (.call (.readComplete received)) =
      match received.reply with
      | .ok _ => .restart
      | .error e => if e.isTransient then .discard else .neither := if_pos reading

/-- What starts a row anew is an opened unit or an accepted reply. -/
theorem restart_cases (h : s.bearing m = .restart) :
    (∃ unit, m = .call (.openUnit unit) ∧ s.link.configured = true) ∨
      ∃ received r, m = .call (.readComplete received) ∧ s.link.operation = .reading ∧
        received.reply = .ok r := by
  unfold bearing at h
  split at h
  · rename_i unit
    split at h
    · rename_i opened
      exact .inl ⟨unit, rfl, reopens_iff.mp opened⟩
    · nomatch h
  · rename_i received
    split at h
    · rename_i reading
      split at h
      · rename_i r accepted
        exact .inr ⟨received, r, rfl, reading, accepted⟩
      · split at h <;> nomatch h
    · nomatch h
  · nomatch h

theorem discard_cases (h : s.bearing m = .discard) :
    ∃ received e, m = .call (.readComplete received) ∧ s.link.operation = .reading ∧
      received.reply = .error e ∧ e.isTransient = true := by
  unfold bearing at h
  split at h
  · split at h <;> nomatch h
  · rename_i received
    split at h
    · rename_i reading
      split at h
      · nomatch h
      · rename_i e refused
        split at h
        · rename_i transient
          exact ⟨received, e, rfl, reading, refused, transient⟩
        · nomatch h
    · nomatch h
  · nomatch h

/-- Whatever has no bearing on the row leaves the count alone. -/
theorem Passage.discards_eq (p : s.Passage m es s') (h : s.bearing m = .neither) :
    s'.link.discards = s.link.discards := by
  have served (r : Request) : (s.link.service r).link.discards = s.link.discards := by
    obtain ⟨schedule, published, link⟩ := (s.link.serves r).link_eq
    rw [link]
  cases p with
  | opened schedule configured => exact absurd (h.symm.trans (bearing_openUnit configured)) nofun
  | served r => exact served r
  | @shown unit r => exact served r
  | @shownShort unit r => cases unit <;> exact served r
  | @shownNone unit => cases unit <;> rfl
  | @completed unit => cases unit <;> rfl
  | replyAccepted reading accepted =>
    rw [bearing_readComplete reading, accepted] at h
    nomatch h
  | replyDiscarded reading refused transient =>
    rw [bearing_readComplete reading, refused] at h
    exact absurd (h.symm.trans (if_pos transient)) nofun
  | _ => rfl

theorem next_discarded {received : Link.Received} (reading : s.link.operation = .reading)
    (refused : received.reply = .error e) (transient : e.isTransient = true) :
    let m : Move := .call (.readComplete received)
    (s.next m).link =
        { s.link with
          operation := .idle, discards := min (s.link.discards + 1) Link.maxDiscards
          result := .error (s.link.discardError e) }.unlock.nudge ∧
      (s.advance m).turn = .returned (.outcome (.error e)) := by
  obtain ⟨notes, ended⟩ := advance_refused reading refused
  simp only [transient, if_true] at ended
  simp only [next, Session.step, ended]
  exact ⟨rfl, trivial⟩

theorem next_accepted {received : Link.Received} {r : Reply}
    (reading : s.link.operation = .reading) (accepted : received.reply = .ok r) :
    (s.next (.call (.readComplete received))).link =
      { s.link with
        operation := .idle, buffers := s.link.buffers.load r, wakeScheduled := true
        discards := 0, result := .ok }.unlock.nudge := by
  obtain ⟨notes, receives⟩ := Link.receive_accepted { s.link with operation := .idle } accepted
  simp only [next, Session.step, advance, Link.call, Link.readComplete, reading, receives, take]

theorem discards_of_restart (h : s.bearing m = .restart) : (s.next m).link.discards = 0 := by
  rcases restart_cases h with ⟨unit, rfl, configured⟩ | ⟨received, r, rfl, reading, accepted⟩
  · simp only [next, Session.step, advance, Link.call, Link.openUnit, configured, if_true, take]
  · rw [next_accepted reading accepted]
    rfl

end Session

namespace Link

/-- The count of a link that has discarded so many replies in a row. As long as the link works, the
limit has not been reached. -/
structure Tallies (l : Link) (count : Nat) : Prop where
  discards : l.discards = min count maxDiscards
  below : l.failure? = none → 0 < l.config.wrongTagLimit.toNat →
    count < l.config.wrongTagLimit.toNat

theorem Tallies.discardError_eq {l : Link} {count : Nat} (h : l.Tallies count)
    (works : l.failure? = none) (e : Error) :
    l.discardError e =
      if 0 < l.config.wrongTagLimit.toNat ∧ count + 1 = l.config.wrongTagLimit.toNat then .io
      else e := by
  have range : l.config.wrongTagLimit.toNat ≤ maxDiscards :=
    Nat.le_of_lt_succ l.config.wrongTagLimit.toNat_lt
  have below := h.below works
  unfold discardError
  rw [h.discards]
  generalize l.config.wrongTagLimit.toNat = limit at range below ⊢
  -- below the limit the count does not saturate
  have same : (0 < limit ∧ limit ≤ min (min count maxDiscards + 1) maxDiscards) =
      (0 < limit ∧ count + 1 = limit) := by
    apply propext
    constructor
    · rintro ⟨positive, reached⟩
      have := below positive
      exact ⟨positive, by omega⟩
    · rintro ⟨positive, rfl⟩
      exact ⟨positive, by omega⟩
  simp only [same]

end Link

namespace Session

variable {s : Session}

theorem Steady.tallies_next {done : List Bearing} (h : s.Steady)
    (ht : s.link.Tallies (Bearing.row done)) (m : Move) :
    (s.next m).link.Tallies (Bearing.row (done ++ [s.bearing m])) := by
  have p := passage h.toSound m
  have fixed := p.config_eq
  rw [Bearing.row_concat]
  cases hm : s.bearing m with
  | restart => exact ⟨discards_of_restart hm, fun _ positive => positive⟩
  | discard =>
    obtain ⟨received, e, rfl, reading, refused, transient⟩ := discard_cases hm
    have works : s.link.failure? = none := (h.disciplined.calm (by rw [reading]; nofun)).1
    have left := (next_discarded reading refused transient).1
    constructor
    · show (s.next _).link.discards = min (Bearing.row done + 1) _
      rw [left]
      show min (s.link.discards + 1) _ = _
      rw [ht.discards]
      omega
    · intro works' positive
      show Bearing.row done + 1 < _
      rw [fixed] at positive ⊢
      have below := ht.below works positive
      rw [left] at works'
      have result : (Outcome.error (s.link.discardError e)).failure? = none := works'
      rw [ht.discardError_eq works] at result
      -- at the limit the link would have failed
      by_cases reached : Bearing.row done + 1 = s.link.config.wrongTagLimit.toNat
      · rw [if_pos ⟨positive, reached⟩] at result
        nomatch result
      · omega
  | neither =>
    refine ⟨(p.discards_eq hm).trans ht.discards, fun works' => ?_⟩
    rw [fixed]
    apply ht.below
    -- the link worked before, since nothing else than a unit being opened gets it to work again
    cases failed : s.link.failure? with
    | none => rfl
    | some e =>
      have closed : ¬ s.Reopens m := by
        intro reopens
        obtain ⟨unit, rfl⟩ := exists_of_reopens reopens
        exact absurd (hm.symm.trans (if_pos reopens)) nofun
      have lasts := (p.arrested h failed closed).1.failure?_eq
      exact absurd (works'.symm.trans (lasts.trans failed)) nofun

theorem Steady.tallies_run {done : List Bearing} (h : s.Steady)
    (ht : s.link.Tallies (Bearing.row done)) (ms : List Move) :
    (s.run ms).link.Tallies (Bearing.row (done ++ s.bearings ms)) := by
  induction ms generalizing s done with
  | nil =>
    rw [bearings, List.append_nil]
    exact ht
  | cons m ms ih =>
    have later := ih (h.next m) (h.tallies_next ht m)
    rw [List.append_assoc] at later
    exact later

theorem tallies_ofConfig (config : Config) : (ofConfig config).link.Tallies (Bearing.row []) :=
  ⟨rfl, fun _ positive => positive⟩

/-- In every run of a new link, however its calls are nested, a read in flight that ends with a fault
of framing is told of that fault, and so is the link, unless this is the one that makes up the
limit of them in a row, which fails the link. Without a limit they never do. Nothing but replies
accepted and units opened starts a row anew, and nothing else changes the count. -/
theorem discards_fail_link_at_limit (config : Config) (ms : List Move) :
    let s := (ofConfig config).run ms
    let count := (ofConfig config).discardsInARow ms
    let limit := config.wrongTagLimit.toNat
    (∀ received e, s.link.operation = .reading → received.reply = .error e →
      e.isTransient = true →
      let m : Move := .call (.readComplete received)
      (s.next m).link.result =
          .error (if 0 < limit ∧ count + 1 = limit then .io else e) ∧
        (s.advance m).turn = .returned (.outcome (.error e)) ∧
        (ofConfig config).discardsInARow (ms ++ [m]) = count + 1) ∧
    (∀ bs e, Reply.decode bs = .error e → e.isTransient = true) ∧
    (limit = 0 → s.link.failure? ≠ none → ∃ before m after, ms = before ++ m :: after ∧
      ((ofConfig config).run before).link.failure? = none ∧
      (((ofConfig config).run before).next m).link.failure? ≠ none ∧
      ((ofConfig config).run before).bearing m ≠ .discard) ∧
    s.link.discards = min count Link.maxDiscards ∧
    (∀ m, s.bearing m = .neither → (s.next m).link.discards = s.link.discards ∧
      (ofConfig config).discardsInARow (ms ++ [m]) = count) ∧
    (∀ m, s.bearing m = .restart → (s.next m).link.discards = 0 ∧
      (ofConfig config).discardsInARow (ms ++ [m]) = 0) := by
  intro s count limit
  have steady : s.Steady := steady_run config ms
  have tallies : s.link.Tallies count :=
    (steady_ofConfig config).tallies_run (tallies_ofConfig config) ms
  have fixed : s.link.config = config := (steady_ofConfig config).config_run ms
  refine ⟨?_, fun bs e => Reply.isTransient_of_decode, ?_, tallies.discards, ?_, ?_⟩
  · intro received e reading refused transient m
    have works : s.link.failure? = none := (steady.disciplined.calm (by rw [reading]; nofun)).1
    obtain ⟨left, told⟩ := next_discarded reading refused transient
    have advances : s.bearing m = .discard := by
      rw [bearing_readComplete reading, refused]
      exact if_pos transient
    refine ⟨?_, told, ?_⟩
    · rw [left]
      show Outcome.error (s.link.discardError e) = _
      rw [tallies.discardError_eq works, fixed]
    · rw [discardsInARow_concat, Bearing.row_concat, advances]
      rfl
  · intro none failed
    obtain ⟨fault, failed⟩ := Option.ne_none_iff_exists'.mp failed
    obtain ⟨before, m, after, rfl, failedBy⟩ :=
      (steady_ofConfig config).exists_failing_move rfl ms failed
    have fails : (((ofConfig config).run before).next m).link.failure? ≠ .none := by
      rw [failedBy.fails]
      nofun
    refine ⟨before, m, after, rfl, failedBy.works, fails, fun discards => fails ?_⟩
    obtain ⟨received, e, rfl, reading, refused, transient⟩ := discard_cases discards
    have unlimited : ((ofConfig config).run before).link.config.wrongTagLimit.toNat = 0 := by
      rw [(steady_ofConfig config).config_run before]
      exact none
    have error : ((ofConfig config).run before).link.discardError e = e := by
      unfold Link.discardError
      rw [unlimited]
      exact if_neg fun positive => absurd positive.1 (Nat.lt_irrefl 0)
    rw [(next_discarded reading refused transient).1]
    show (Outcome.error (((ofConfig config).run before).link.discardError e)).failure? = _
    rw [error]
    exact if_pos transient
  · intro m hm
    refine ⟨(passage steady.toSound m).discards_eq hm, ?_⟩
    rw [discardsInARow_concat, Bearing.row_concat, hm]
    rfl
  · intro m hm
    refine ⟨discards_of_restart hm, ?_⟩
    rw [discardsInARow_concat, Bearing.row_concat, hm]

-- a unit is opened while the second reply is on its way, so that the third is the second in a row
example :
    let config : Config := { wrongTagLimit := 2 }
    let discard : List Move :=
      [.call .runTask, .answer none, .call (.readComplete (.error .wrongTag))]
    let reopened : List Move :=
      [.call .runTask, .answer none, .call (.openUnit .input),
        .call (.readComplete (.error .shortFrame))]
    let ms := .call (.attach 0) :: discard ++ reopened
    ((ofConfig config).run ms).link.result = .error .shortFrame ∧
      ((ofConfig config).run (ms ++ discard)).link.result = .error .io := by
  decide +kernel

end Session

end PolledLink
