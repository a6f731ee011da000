import Mathlib.Data.List.Induction
import PolledLink.Lock

/-! Guards as tokens. There is one guard at most for each lock, and none for a lock that is free. The
converse fails, since a guard that is dropped leaves its lock held, and then nobody is left who could
release it. -/

namespace PolledLink.Custody

/-- The lock that a move is about. -/
def Move.lock : Move → LockName
  | acquire name | release name | abandon name => name

/-- The moves that came to something: a guard was given, or there was one to give up. -/
def deeds (c : Custody) : List Move → List Move
  | [] => []
  | m :: ms => (if (c.step m).1 then [m] else []) ++ (c.step m).2.deeds ms

/-- A guard was given for the lock, and the lock has not been released since. -/
def GivenSinceRelease (name : LockName) (deeds : List Move) : Prop :=
  ∃ earlier later, deeds = earlier ++ .acquire name :: later ∧ .release name ∉ later

/-- What a move can come to. -/
inductive Does (c : Custody) : Move → Bool × Custody → Prop
  | gives {name : LockName} (free : c.locks.held name = false) :
    Does c (.acquire name) (true, ⟨c.locks.set name true, name :: c.guards⟩)
  | refuses {name : LockName} (held : c.locks.held name = true) : Does c (.acquire name) (false, c)
  | releases {name : LockName} (live : name ∈ c.guards) :
    Does c (.release name) (true, ⟨c.locks.set name false, c.guards.erase name⟩)
  | drops {name : LockName} (live : name ∈ c.guards) :
    Does c (.abandon name) (true, { c with guards := c.guards.erase name })
  | releasesNone {name : LockName} (none : name ∉ c.guards) : Does c (.release name) (false, c)
  | dropsNone {name : LockName} (none : name ∉ c.guards) : Does c (.abandon name) (false, c)

theorem does (c : Custody) (m : Move) : c.Does m (c.step m) := by
  cases m with
  | acquire name =>
    cases held : c.locks.held name with
    | true =>
      simp only [step, Locks.acquire?, held, if_true]
      exact .refuses held
    | false =>
      simp only [step, Locks.acquire?, held, Bool.false_eq_true, if_false]
      exact .gives held
  | release name =>
    by_cases live : name ∈ c.guards
    · rw [step, if_pos live]
      exact .releases live
    · rw [step, if_neg live]
      exact .releasesNone live
  | abandon name =>
    by_cases live : name ∈ c.guards
    · rw [step, if_pos live]
      exact .drops live
    · rw [step, if_neg live]
      exact .dropsNone live

/-- There is one guard at most for each lock, and none for a lock that is free. -/
def Exclusive (c : Custody) : Prop :=
  ∀ name, c.guards.count name ≤ (c.locks.held name).toNat

/-- The lock is held, though there is no guard to release it. -/
structure Lost (c : Custody) (name : LockName) : Prop where
  held : c.locks.held name = true
  unguarded : name ∉ c.guards

variable {c : Custody} {name : LockName} {m : Move} {done : Bool × Custody}

/-- A move about one lock leaves the other as it is, with its guards. -/
theorem Does.other (h : c.Does m done) (other : m.lock ≠ name) :
    done.2.locks.held name = c.locks.held name ∧
      done.2.guards.count name = c.guards.count name := by
  cases h with
  | gives => exact ⟨c.locks.held_set_of_ne true other.symm, List.count_cons_of_ne other⟩
  | releases => exact ⟨c.locks.held_set_of_ne false other.symm, List.count_erase_of_ne other.symm⟩
  | drops => exact ⟨rfl, List.count_erase_of_ne other.symm⟩
  | refuses => exact ⟨rfl, rfl⟩
  | releasesNone => exact ⟨rfl, rfl⟩
  | dropsNone => exact ⟨rfl, rfl⟩

theorem Does.exclusive (h : c.Does m done) (exclusive : c.Exclusive) : done.2.Exclusive := by
  intro name
  by_cases own : m.lock = name
  · have before := exclusive name
    subst own
    cases h with
    | @gives name free =>
      show (name :: c.guards).count name ≤ ((c.locks.set name true).held name).toNat
      rw [Move.lock, free] at before
      rw [Locks.held_set_self, List.count_cons_self]
      exact Nat.succ_le_succ before
    | @releases name live =>
      show (c.guards.erase name).count name ≤ _
      have one := Nat.le_trans before (Bool.toNat_le _)
      rw [List.count_erase_self]
      exact Nat.le_trans (Nat.sub_le_of_le_add one) (Nat.zero_le _)
    | @drops name live =>
      show (c.guards.erase name).count name ≤ (c.locks.held name).toNat
      rw [List.count_erase_self]
      exact Nat.le_trans (Nat.sub_le _ 1) before
    | refuses => exact before
    | releasesNone => exact before
    | dropsNone => exact before
  · obtain ⟨held, guards⟩ := h.other own
    rw [held, guards]
    exact exclusive name

theorem Does.lost (h : c.Does m done) (lost : c.Lost name) : done.2.Lost name := by
  by_cases own : m.lock = name
  · subst own
    cases h with
    | gives free => exact absurd (free.symm.trans lost.held) nofun
    | releases live => exact absurd live lost.unguarded
    | drops live => exact absurd live lost.unguarded
    | refuses => exact lost
    | releasesNone => exact lost
    | dropsNone => exact lost
  · obtain ⟨held, guards⟩ := h.other own
    refine ⟨held.trans lost.held, List.count_eq_zero.mp ?_⟩
    rw [guards, List.count_eq_zero]
    exact lost.unguarded

/-- The guard that is dropped was the only one. -/
theorem Exclusive.lost (exclusive : c.Exclusive) (live : name ∈ c.guards) :
    (c.step (.abandon name)).2.Lost name := by
  have drops : c.step (.abandon name) = (true, { c with guards := c.guards.erase name }) :=
    if_pos live
  have some := List.one_le_count_iff.mpr live
  have bound := exclusive name
  have held : c.locks.held name = true := by
    cases free : c.locks.held name with
    | true => rfl
    | false =>
      rw [free] at bound
      exact absurd (Nat.le_trans some bound) nofun
  rw [drops]
  refine ⟨held, List.count_eq_zero.mp ?_⟩
  rw [List.count_erase_self]
  exact Nat.sub_eq_zero_of_le (Nat.le_trans bound (Bool.toNat_le _))

theorem givenSinceRelease_concat {deeds : List Move} :
    GivenSinceRelease name (deeds ++ [m]) ↔
      m = .acquire name ∨ m ≠ .release name ∧ GivenSinceRelease name deeds := by
  constructor
  · rintro ⟨earlier, later, split, none⟩
    rcases List.eq_nil_or_concat later with rfl | ⟨later, last, rfl⟩
    · exact .inl (List.singleton_inj.mp (List.append_inj' split rfl).2)
    · rw [List.concat_eq_append] at split none
      rw [← List.cons_append, ← List.append_assoc] at split
      obtain ⟨same, final⟩ := List.append_inj' split rfl
      obtain rfl := List.singleton_inj.mp final
      rw [List.mem_append, List.mem_singleton, not_or] at none
      exact .inr ⟨fun release => none.2 release.symm, earlier, later, same, none.1⟩
  · rintro (rfl | ⟨kept, earlier, later, rfl, none⟩)
    · exact ⟨deeds, [], rfl, List.not_mem_nil⟩
    · refine ⟨earlier, later ++ [m], ?_, ?_⟩
      · rw [List.append_assoc, List.cons_append]
      · rw [List.mem_append, List.mem_singleton, not_or]
        exact ⟨none, fun release => kept release.symm⟩

theorem Does.held_iff (h : c.Does m done) {deeds : List Move}
    (before : c.locks.held name = true ↔ GivenSinceRelease name deeds) :
    done.2.locks.held name = true ↔
      GivenSinceRelease name (deeds ++ if done.1 then [m] else []) := by
  have idle : c.locks.held name = true ↔ GivenSinceRelease name (deeds ++ []) := by
    rwa [List.append_nil]
  have still (given : m ≠ .acquire name) (released : m ≠ .release name) :
      c.locks.held name = true ↔ GivenSinceRelease name (deeds ++ if done.1 then [m] else []) := by
    split
    · rw [givenSinceRelease_concat, ← before]
      exact ⟨fun held => .inr ⟨released, held⟩, fun now => (now.resolve_left given).2⟩
    · exact idle
  by_cases own : m.lock = name
  · subst own
    cases h with
    | gives free =>
      exact iff_of_true (Locks.held_set_self _ _ _) (givenSinceRelease_concat.mpr (.inl rfl))
    | @releases name live =>
      refine iff_of_false ?_ fun given => ?_
      · rw [Move.lock, Locks.held_set_self]
        nofun
      · rcases givenSinceRelease_concat.mp given with other | ⟨kept, -⟩
        · nomatch other
        · exact kept rfl
    | drops live => exact still nofun nofun
    | refuses => exact idle
    | releasesNone => exact idle
    | dropsNone => exact idle
  · rw [(h.other own).1]
    exact still (fun acquires => own (acquires ▸ rfl)) (fun releases => own (releases ▸ rfl))

theorem run_append (c : Custody) (first second : List Move) :
    c.run (first ++ second) = (c.run first).run second := by
  induction first generalizing c with
  | nil => rfl
  | cons m _ ih => exact ih (c.step m).2

theorem deeds_append (c : Custody) (first second : List Move) :
    c.deeds (first ++ second) = c.deeds first ++ (c.run first).deeds second := by
  induction first generalizing c with
  | nil => rfl
  | cons m _ ih => simp only [List.cons_append, deeds, run, ih, List.append_assoc]

theorem held_run_iff (free : c.locks.held name = false) (ms : List Move) :
    (c.run ms).locks.held name = true ↔ GivenSinceRelease name (c.deeds ms) := by
  induction ms using List.reverseRecOn with
  | nil =>
    refine iff_of_false (by rw [run, free]; nofun) ?_
    rintro ⟨earlier, later, nothing, -⟩
    exact List.append_ne_nil_of_right_ne_nil _ (List.cons_ne_nil _ _) nothing.symm
  | append_singleton ms m ih =>
    have last : (c.run ms).deeds [m] = if ((c.run ms).step m).1 then [m] else [] :=
      List.append_nil _
    rw [run_append, deeds_append, last]
    exact ((c.run ms).does m).held_iff ih

theorem Exclusive.run (exclusive : c.Exclusive) (ms : List Move) : (c.run ms).Exclusive := by
  induction ms generalizing c with
  | nil => exact exclusive
  | cons m _ ih => exact ih ((c.does m).exclusive exclusive)

theorem Lost.run (lost : c.Lost name) (ms : List Move) : (c.run ms).Lost name := by
  induction ms generalizing c with
  | nil => exact lost
  | cons m _ ih => exact ih ((c.does m).lost lost)

theorem run_other {ms : List Move} (others : ∀ m ∈ ms, m.lock ≠ name) :
    (c.run ms).locks.held name = c.locks.held name ∧
      (c.run ms).guards.count name = c.guards.count name := by
  induction ms generalizing c with
  | nil => exact ⟨rfl, rfl⟩
  | cons m ms ih =>
    obtain ⟨other, others⟩ := List.forall_mem_cons.mp others
    obtain ⟨held, guards⟩ := (c.does m).other other
    obtain ⟨heldLater, guardsLater⟩ := ih (c := (c.step m).2) others
    exact ⟨heldLater.trans held, guardsLater.trans guards⟩

theorem step_acquire (c : Custody) (name : LockName) :
    ((c.step (.acquire name)).1 = true ↔ c.locks.held name = false) ∧
      ((c.step (.acquire name)).1 = true → name ∈ (c.step (.acquire name)).2.guards) := by
  have h := c.does (.acquire name)
  generalize c.step (.acquire name) = done at h
  cases h with
  | gives free => exact ⟨iff_of_true rfl free, fun _ => List.mem_cons_self⟩
  | refuses held => exact ⟨iff_of_false nofun (by rw [held]; nofun), nofun⟩

theorem Lost.refuses (lost : c.Lost name) : (c.step (.acquire name)).1 = false := by
  rw [Bool.eq_false_iff]
  intro given
  exact absurd (lost.held.symm.trans ((c.step_acquire name).1.mp given)) nofun

/-- In every run with new locks, there is one guard at most for each lock, and one is given whenever
the lock is not held. A lock is held if a guard was given for it since it was last released, and only
then. What is done with the other lock makes no difference. Once a guard has been dropped its lock
stays held, and is given to nobody any more. -/
theorem guards_exclusive (ms : List Move) (name : LockName) :
    let c := run {} ms
    c.guards.count name ≤ 1 ∧
    ((c.step (.acquire name)).1 = true ↔ c.locks.held name = false) ∧
    ((c.step (.acquire name)).1 = true → name ∈ (c.step (.acquire name)).2.guards) ∧
    (c.locks.held name = true ↔ GivenSinceRelease name (deeds {} ms)) ∧
    (∀ others : List Move, (∀ m ∈ others, m.lock ≠ name) →
      (c.run others).locks.held name = c.locks.held name ∧
      (c.run others).guards.count name = c.guards.count name) ∧
    (name ∈ c.guards → ∀ later,
      let lost := c.run (.abandon name :: later)
      lost.locks.held name = true ∧ name ∉ lost.guards ∧
        (lost.step (.acquire name)).1 = false) := by
  intro c
  have new : Exclusive {} := fun name => Nat.zero_le _
  have exclusive : c.Exclusive := new.run ms
  have free : ({} : Custody).locks.held name = false := by cases name <;> rfl
  obtain ⟨tries, gives⟩ := c.step_acquire name
  refine ⟨Nat.le_trans (exclusive name) (Bool.toNat_le _), tries, gives, held_run_iff free ms,
    fun others => run_other, fun live later => ?_⟩
  have lost : (c.run (.abandon name :: later)).Lost name := (exclusive.lost live).run later
  exact ⟨lost.held, lost.unguarded, lost.refuses⟩

/-- There is no guard any more with which to release the lock. -/
example :
    (({} : Custody).run [.acquire .link, .acquire .wake, .abandon .link, .release .link]).locks =
      { link := true, wake := true } := by
  decide

end PolledLink.Custody
