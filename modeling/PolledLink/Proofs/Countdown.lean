import PolledLink.Schedule

/-! Which ticks are due. The countdown is loaded when a schedule is installed and again at each tick
that is due, with the interval that was last set by then. From there on nothing but ticks and nudges
counts. -/

namespace PolledLink.Schedule

/-- What can be done with a schedule. -/
inductive Use
  | install
  | setInterval (ticks : Nat)
  | nudge
  | tick
  deriving DecidableEq

def use (s : Schedule) : Use → Schedule
  | .install => s.install.2
  | .setInterval ticks => s.setInterval ticks
  | .nudge => s.nudge
  | .tick => s.tick.2

def useAll (s : Schedule) : List Use → Schedule
  | [] => s
  | u :: us => (s.use u).useAll us

/-- Whether a tick is due if it comes now. -/
def due (s : Schedule) : Bool := s.tick.1

/-- Tells of each tick whether it is due. -/
def dues (s : Schedule) : List Use → List Bool
  | [] => []
  | u :: us => if u = .tick then s.due :: (s.use u).dues us else (s.use u).dues us

def Use.interval? : Use → Option Nat
  | .setInterval ticks => some ticks
  | .install | .nudge | .tick => none

/-- The interval that is set last. -/
def lastSet : List Use → Option Nat
  | [] => none
  | u :: us => (lastSet us).or u.interval?

/-- The schedule has just been installed for the first time, or has just had a tick that was due. -/
inductive JustLoaded : List Use → Prop
  | installed {us : List Use} (first : .install ∉ us) : JustLoaded (us ++ [.install])
  | ticked {us : List Use} (due : (useAll {} us).due = true) : JustLoaded (us ++ [.tick])

/-- How many ticks it takes to the next that is due. -/
def left (s : Schedule) : Nat := max s.countdown 1

variable {s s' : Schedule} {u : Use} {us : List Use}

theorem useAll_append (s : Schedule) (first second : List Use) :
    s.useAll (first ++ second) = (s.useAll first).useAll second := by
  induction first generalizing s with
  | nil => rfl
  | cons u us ih => exact ih (s.use u)

theorem dues_append (s : Schedule) (first second : List Use) :
    s.dues (first ++ second) = s.dues first ++ (s.useAll first).dues second := by
  induction first generalizing s with
  | nil => rfl
  | cons u us ih =>
    simp only [List.cons_append, dues, useAll, ih]
    split <;> rfl

/-! The installed schedule. -/

theorem installed_install (s : Schedule) : s.install.2.installed = true := by
  unfold install
  split
  · assumption
  · rfl

theorem installed_tick (s : Schedule) : s.tick.2.installed = s.installed := by
  unfold tick
  split
  · rename_i installed
    split <;> exact rfl
  · rfl

theorem installed_use (s : Schedule) (u : Use) :
    (s.use u).installed = true ↔ s.installed = true ∨ u = .install := by
  cases u with
  | install => exact iff_of_true (installed_install s) (.inr rfl)
  | setInterval ticks => exact (or_iff_left nofun).symm
  | nudge => exact (or_iff_left nofun).symm
  | tick => rw [use, installed_tick, or_iff_left nofun]

theorem installed_useAll_iff (s : Schedule) (us : List Use) :
    (s.useAll us).installed = true ↔ s.installed = true ∨ .install ∈ us := by
  induction us generalizing s with
  | nil => exact (or_iff_left List.not_mem_nil).symm
  | cons u us ih => rw [useAll, ih, installed_use, or_assoc, List.mem_cons, eq_comm (a := u)]

theorem installed_useAll (h : s.installed = true) (us : List Use) :
    (s.useAll us).installed = true := (s.installed_useAll_iff us).mpr (.inl h)

theorem install_of_installed (h : s.installed = true) : s.install.2 = s := by
  rw [install, if_pos h]

theorem due_iff : s.due = true ↔ s.installed = true ∧ s.left = 1 := by
  unfold due tick left
  split
  · rename_i installed
    split <;> simp only [installed, true_and, reduceCtorEq, false_iff, true_iff] <;> omega
  · rename_i away
    simp only [away, reduceCtorEq, false_and]

theorem tick_of_due (h : s.due = true) :
    s.tick = (true, { s with countdown := max s.interval 1 }) := by
  obtain ⟨installed, here⟩ := due_iff.mp h
  unfold left at here
  rw [tick, if_pos installed, if_pos (by omega)]

/-- A tick that is not due leaves fewer to wait for. -/
theorem countdown_tick (installed : s.installed = true) (h : s.tick = (false, s')) :
    s'.countdown < s.countdown := by
  unfold tick at h
  rw [if_pos installed] at h
  split at h
  · nomatch h
  · obtain rfl := (Prod.mk.inj h).2
    show s.countdown - 1 < s.countdown
    omega

/-! Before the schedule is installed. -/

theorem away_useAll (away : s.installed = false) (never : .install ∉ us) :
    (s.useAll us).installed = false ∧ true ∉ s.dues us := by
  induction us generalizing s with
  | nil => exact ⟨away, List.not_mem_nil⟩
  | cons u us ih =>
    have other := List.ne_of_not_mem_cons never
    have later := List.not_mem_of_not_mem_cons never
    cases u with
    | install => exact absurd rfl other
    | setInterval ticks => exact ih (s := s.setInterval ticks) away later
    | nudge => exact ih (s := s.nudge) away later
    | tick =>
      have still : s.tick = (false, s) := by rw [tick, away]; rfl
      obtain ⟨away', quiet⟩ := ih away later
      have same : s.use .tick = s := congrArg Prod.snd still
      have idle : s.due = false := congrArg Prod.fst still
      rw [useAll, dues, same, idle, if_pos rfl]
      exact ⟨away', List.not_mem_cons_of_ne_of_not_mem nofun quiet⟩

theorem interval_use (s : Schedule) (u : Use) :
    (s.use u).interval = u.interval?.elim s.interval (max · 1) := by
  cases u with
  | install =>
    simp only [use, install]
    split <;> rfl
  | setInterval ticks => rfl
  | nudge => rfl
  | tick =>
    simp only [use, tick]
    split
    · split <;> rfl
    · rfl

theorem interval_useAll (s : Schedule) (us : List Use) :
    (s.useAll us).interval = (lastSet us).elim s.interval (max · 1) := by
  induction us generalizing s with
  | nil => rfl
  | cons u us ih =>
    rw [useAll, ih, interval_use, lastSet]
    cases lastSet us <;> rfl

theorem interval_new (us : List Use) :
    (useAll {} us).interval = (lastSet us).elim 0 (max · 1) := interval_useAll {} us

/-- The interval counts for one tick at least. -/
theorem max_interval_new (us : List Use) :
    max (useAll {} us).interval 1 = max ((lastSet us).getD 0) 1 := by
  rw [interval_new]
  cases lastSet us with
  | none => rfl
  | some ticks =>
    show max (max ticks 1) 1 = max ticks 1
    omega

theorem useAll_first_install (first : .install ∉ us) :
    useAll {} (us ++ [.install]) =
      { countdown := (useAll {} us).interval, interval := (useAll {} us).interval
        installed := true } := by
  have away : (useAll {} us).installed = false := (away_useAll rfl first).1
  rw [useAll_append]
  show (useAll {} us).install.2 = _
  rw [install, away]
  rfl

/-! From one load of the countdown to the next. -/

theorem JustLoaded.left_eq (h : JustLoaded us) :
    (useAll {} us).installed = true ∧ (useAll {} us).left = max ((lastSet us).getD 0) 1 := by
  have force := max_interval_new us
  cases h with
  | @installed us first =>
    rw [useAll_first_install first] at force ⊢
    exact ⟨rfl, force⟩
  | @ticked us due =>
    have loaded : useAll {} (us ++ [.tick]) =
        { useAll {} us with countdown := max (useAll {} us).interval 1 } := by
      rw [useAll_append]
      exact congrArg Prod.snd (tick_of_due due)
    have kept : (useAll {} (us ++ [.tick])).interval = (useAll {} us).interval := by rw [loaded]
    rw [← force, kept, loaded]
    exact ⟨(due_iff.mp due).1, by simp only [left]; omega⟩

/-- As long as there is no nudge, only ticks bring the next one nearer that is due. -/
theorem left_useAll (installed : s.installed = true) (calm : .nudge ∉ us)
    (early : us.count .tick < s.left) :
    true ∉ s.dues us ∧ (s.useAll us).left + us.count .tick = s.left := by
  induction us generalizing s with
  | nil => exact ⟨List.not_mem_nil, rfl⟩
  | cons u us ih =>
    have other := List.ne_of_not_mem_cons calm
    have later := List.not_mem_of_not_mem_cons calm
    cases u with
    | nudge => exact absurd rfl other
    | install =>
      have same : s.use .install = s := install_of_installed installed
      rw [useAll, dues, if_neg nofun, same]
      exact ih installed later early
    | setInterval ticks => exact ih (s := s.setInterval ticks) installed later early
    | tick =>
      rw [List.count_cons_self] at early ⊢
      have waits : s.due = false := by
        rw [← Bool.not_eq_true, due_iff]
        omega
      have ticked : s.tick = (false, { s with countdown := s.countdown - 1 }) := by
        unfold left at early
        rw [tick, if_pos installed, if_neg (by omega)]
      have fewer : (s.use .tick).left + 1 = s.left := by
        have once : s.use .tick = { s with countdown := s.countdown - 1 } :=
          congrArg Prod.snd ticked
        rw [once]
        unfold left at early
        show max (s.countdown - 1) 1 + 1 = max s.countdown 1
        omega
      obtain ⟨quiet, counted⟩ := ih ((s.installed_use .tick).mpr (.inl installed)) later (by omega)
      rw [useAll, dues, if_pos rfl, waits]
      exact ⟨List.not_mem_cons_of_ne_of_not_mem nofun quiet, by omega⟩

/-- The tick that ends the count is due, and none before it. -/
theorem due_useAll (installed : s.installed = true) (calm : .nudge ∉ us)
    (early : us.count .tick < s.left) :
    true ∉ s.dues us ∧ ((s.useAll us).due = true ↔ us.count .tick + 1 = s.left) := by
  obtain ⟨quiet, counted⟩ := left_useAll installed calm early
  refine ⟨quiet, ?_⟩
  rw [due_iff, ← counted]
  constructor
  · rintro ⟨-, here⟩
    rw [here, Nat.add_comm]
  · intro last
    exact ⟨installed_useAll installed us, by omega⟩

/-- Once the next tick is due it stays so until it comes. -/
theorem left_still (installed : s.installed = true) (here : s.left = 1) (still : .tick ∉ us) :
    s.dues us = [] ∧ (s.useAll us).left = 1 := by
  induction us generalizing s with
  | nil => exact ⟨rfl, here⟩
  | cons u us ih =>
    have other := List.ne_of_not_mem_cons still
    have later := List.not_mem_of_not_mem_cons still
    rw [useAll, dues, if_neg other.symm]
    cases u with
    | tick => exact absurd rfl other
    | nudge => exact ih (s := s.nudge) installed rfl later
    | setInterval ticks => exact ih (s := s.setInterval ticks) installed here later
    | install =>
      have same : s.use .install = s := install_of_installed installed
      rw [same]
      exact ih installed here later

theorem due_nudge (installed : s.installed = true) (still : .tick ∉ us) :
    s.nudge.dues us = [] ∧ (s.nudge.useAll us).due = true := by
  obtain ⟨quiet, here⟩ := left_still (s := s.nudge) installed rfl still
  exact ⟨quiet, due_iff.mpr ⟨installed_useAll (s := s.nudge) installed us, here⟩⟩

/-- However a new schedule is used, no tick is due before it is installed, and of all that is done
until then only the interval that is set last makes a difference to later ticks. From the first
installation on, and again from each tick that is due, the next one is the first after a nudge that
comes in time. Without such a nudge it is the tick that the interval tells, as it was set at the
start of the count. What is set or installed in the meantime does not count. -/
theorem next_due_tick :
    (∀ us, .install ∉ us → true ∉ dues {} us) ∧
    (∀ us other, .install ∉ us → .install ∉ other → lastSet us = lastSet other →
      ∀ later, (useAll {} (us ++ [.install])).dues later =
        (useAll {} (other ++ [.install])).dues later) ∧
    ∀ us, JustLoaded us →
      let s := useAll {} us
      let ticks := max ((lastSet us).getD 0) 1
      (∀ between, .nudge ∉ between → between.count .tick < ticks →
        true ∉ s.dues between ∧
        ((s.useAll between).due = true ↔ between.count .tick + 1 = ticks)) ∧
      ∀ before after, .nudge ∉ before → before.count .tick < ticks → .tick ∉ after →
        true ∉ s.dues (before ++ .nudge :: after) ∧
        (s.useAll (before ++ .nudge :: after)).due = true := by
  refine ⟨fun us first => (away_useAll rfl first).2, ?_, ?_⟩
  · intro us other first first' same later
    rw [useAll_first_install first, useAll_first_install first', interval_new, interval_new, same]
  · intro us loaded s ticks
    obtain ⟨installed, left⟩ := loaded.left_eq
    constructor
    · intro between calm early
      obtain ⟨quiet, next⟩ := due_useAll installed calm (left ▸ early)
      rw [left] at next
      exact ⟨quiet, next⟩
    · intro before after calm early still
      obtain ⟨quiet, -⟩ := left_useAll installed calm (left ▸ early)
      obtain ⟨none, due⟩ := due_nudge (installed_useAll installed before) still
      rw [dues_append, useAll_append]
      refine ⟨?_, due⟩
      rw [List.mem_append, not_or]
      refine ⟨quiet, ?_⟩
      rw [show dues _ (.nudge :: after) = [] from none]
      exact List.not_mem_nil

/-- A later interval or installation makes no difference to the first count. -/
theorem next_due_tick_after_three :
    JustLoaded [.nudge, .setInterval 3, .install] ∧
    (useAll {} [.nudge, .setInterval 3, .install, .tick, .setInterval 9, .install, .tick]).due =
      true := by
  have loaded : JustLoaded ([.nudge, .setInterval 3] ++ [.install]) := .installed (by decide)
  obtain ⟨count, -⟩ := next_due_tick.2.2 _ loaded
  exact ⟨loaded, (count [.tick, .setInterval 9, .install, .tick] (by decide) (by decide)).2.mpr rfl⟩

end PolledLink.Schedule
