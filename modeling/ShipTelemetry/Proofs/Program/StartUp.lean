import ShipTelemetry.Program
import ShipTelemetry.Proofs.Settings

/-!
# When the program cannot start

The settings of the cleanup are numbers of 64 bits, but what the cleanup counts are seconds, and
these must fit into 64 bits as well.  The longest retention that can be counted is `maxDays`, the
longest interval `maxMinutes`; both are far below what can be set.  Beyond them the program ends
with a panic before it serves anything (`exit_run_eq_panic_iff`), unless the cleanup is switched
off by the other setting.  Up to them the plan has the exact numbers of seconds.
-/

namespace ShipTelemetry

namespace Files.Plan

/-- The greatest number of days whose seconds can be counted. -/
def maxDays : Nat := maxSeconds / 86400

/-- The greatest number of minutes whose seconds can be counted. -/
def maxMinutes : Nat := maxSeconds / 60

variable {a b c : Nat}

theorem times_eq (a : Nat) (hb : 0 < b) :
    times a b = if a ≤ maxSeconds / b then .ok (a * b) else .error .multiply := by
  simp only [times, Nat.le_div_iff_mul_le hb]

/-- Two factors one after the other are as good as their product: when the first one is too
large, so is the product. -/
theorem times_times (a : Nat) (hc : 0 < c) : (times a b >>= (times · c)) = times a (b * c) := by
  have hproduct : a * (b * c) = a * b * c := (Nat.mul_assoc a b c).symm
  by_cases hfirst : a * b ≤ maxSeconds
  · simp [times, hfirst, hproduct, Bind.bind, Except.bind]
  · have hgrows : a * b ≤ a * b * c := Nat.le_mul_of_pos_right (a * b) hc
    have hsecond : ¬ a * b * c ≤ maxSeconds := fun h => hfirst (Nat.le_trans hgrows h)
    simp [times, hfirst, hproduct, hsecond, Bind.bind, Except.bind]

theorem secondsOfDays_eq (days : Nat) :
    secondsOfDays days = if days ≤ maxDays then .ok (days * 86400) else .error .multiply :=
  calc secondsOfDays days
      = times days 24 >>= fun hours => times hours 60 >>= (times · 60) := rfl
    _ = times days 24 >>= (times · 3600) := by
        simp only [fun hours => times_times (b := 60) (c := 60) hours (by decide)]
    _ = times days 86400 := times_times days (by decide)
    _ = if days ≤ maxDays then .ok (days * 86400) else .error .multiply :=
        times_eq days (by decide)

/-- A plan counts the seconds of its settings exactly, or there is none because one of them is
zero or too large. -/
theorem ofSettings_eq (days minutes : Nat) :
    ofSettings days minutes =
      if days = 0 ∨ minutes = 0 then .ok none
      else if days ≤ maxDays ∧ minutes ≤ maxMinutes then
        .ok (some { retention := days * 86400, interval := minutes * 60 })
      else .error .multiply := by
  have hinterval : times minutes 60 =
      if minutes ≤ maxMinutes then .ok (minutes * 60) else .error .multiply :=
    times_eq minutes (by decide)
  unfold ofSettings
  rw [secondsOfDays_eq, hinterval]
  by_cases hoff : days = 0 ∨ minutes = 0
  · rw [if_pos hoff, if_pos hoff]
  rw [if_neg hoff, if_neg hoff]
  by_cases hdays : days ≤ maxDays
  · by_cases hminutes : minutes ≤ maxMinutes
    · simp only [hdays, hminutes, and_self, if_true]
      rfl
    · simp only [hdays, hminutes, and_false, if_true, if_false]
      rfl
  · simp only [hdays, false_and, if_false]
    rfl

theorem ofSettings_eq_error_iff {days minutes : Nat} {e : Overflow} :
    ofSettings days minutes = .error e ↔
      days ≠ 0 ∧ minutes ≠ 0 ∧ (maxDays < days ∨ maxMinutes < minutes) := by
  cases e
  rw [ofSettings_eq]
  split
  next h => simp; omega
  next h =>
    split
    next => simp; omega
    next => simp; omega

end Files.Plan

namespace Program

open Files

/-- The cleanup is switched on, and its settings are too large for its clock. -/
def CannotCount (env : Environment) : Prop :=
  Settings.retentionDays env ≠ 0 ∧ Settings.cleanupMinutes env ≠ 0 ∧
    (Plan.maxDays < Settings.retentionDays env ∨ Plan.maxMinutes < Settings.cleanupMinutes env)

variable {s : Surroundings} {filter : Log.Filter}

theorem sink_firstSweep (s : Surroundings) (files : Tree) (sink : Sink) :
    (firstSweep s files sink).sink = some sink := by
  unfold firstSweep
  split
  next => rfl
  next => rfl
  next => rfl

theorem overflow_firstSweep_iff (files : Tree) (sink : Sink) :
    (firstSweep s files sink).overflow = true ↔ CannotCount s.environment := by
  unfold CannotCount
  rw [← Plan.ofSettings_eq_error_iff (e := .multiply), firstSweep]
  split
  next hplan => simp [hplan]
  next hplan => simp [hplan]
  next plan hplan => simp [hplan]

theorem isSome_sink_openLog (s : Surroundings) :
    (openLog s).sink.isSome =
      (Sink.start s.files (logRoot s.environment) service s.date s.now).2.isOk := by
  unfold openLog
  dsimp only
  split
  next hstart => rw [hstart]; rfl
  next hstart => rw [hstart, sink_firstSweep]; rfl

theorem overflow_openLog_iff :
    (openLog s).overflow = true ↔
      (openLog s).sink.isSome = true ∧ CannotCount s.environment := by
  unfold openLog
  dsimp only
  split
  next => simp
  next files sink _ => rw [overflow_firstSweep_iff, sink_firstSweep]; simp

theorem exit_runWith_eq_panic_iff (watch : Service.Stopwatch) (requests : List Http.Request) :
    (runWith filter s watch requests).exit = .panic ↔ (openLog s).overflow = true := by
  unfold runWith
  dsimp only
  split
  next hoverflow => simp [hoverflow]
  next hoverflow =>
    split
    next => simp [hoverflow]
    next => simp [hoverflow]

theorem exit_run_eq_panic_iff (s : Surroundings) (watch : Service.Stopwatch)
    (requests : List Http.Request) :
    (run s watch requests).exit = .panic ↔
      Log.Filter.ofSetting? (Settings.logFilter s.environment) = none ∨
        (openLog s).sink.isSome = true ∧ CannotCount s.environment := by
  unfold run
  split
  next filter hfilter => rw [exit_runWith_eq_panic_iff, overflow_openLog_iff]; simp [hfilter]
  next hfilter => simp [hfilter]

/-- Where nothing else is set and nothing is in the way of the log file, the program ends with a
panic for just those retentions and intervals of 64 bits that its clock cannot count. -/
theorem exit_run_cleanupEnvironment {days minutes : Nat} (hdays : days ≤ Settings.maxCount)
    (hminutes : minutes ≤ Settings.maxCount) (host : Server.Host) (picked : Nat) (network : Bool)
    (watch : Service.Stopwatch) (requests : List Http.Request) :
    (run { environment := Settings.cleanupEnvironment days minutes, files := .empty, host, picked,
           network, now := ⟨0⟩, date := "1970-01-01" } watch requests).exit = .panic ↔
      days ≠ 0 ∧ minutes ≠ 0 ∧ (Plan.maxDays < days ∨ Plan.maxMinutes < minutes) := by
  let env := Settings.cleanupEnvironment days minutes
  have hdirectory : Settings.logDirectory env = "/var/log/asteria" := rfl
  have hunset : Settings.logFilter env = none := rfl
  have hfilter : Log.Filter.ofSetting? none ≠ none := by decide
  have hopens : (Sink.start .empty (Path.join "/var/log/asteria" service) service "1970-01-01"
      ⟨0⟩).2.isOk = true := by decide +kernel
  rw [exit_run_eq_panic_iff, isSome_sink_openLog, logRoot, hdirectory, hopens, hunset,
    CannotCount, Settings.retentionDays_cleanupEnvironment hdays,
    Settings.cleanupMinutes_cleanupEnvironment hminutes]
  simp [hfilter]

/-- The settings of the cleanup are numbers of 64 bits.  Where both are on and one of them is too
large for the clock, there is no plan, and the program ends with a panic if it keeps a log file.
In all other cases the plan counts the seconds exactly, and the program does not panic if its log
filter can be read. -/
theorem exact_plan_or_panic (s : Surroundings) (watch : Service.Stopwatch)
    (requests : List Http.Request) :
    let days := Settings.retentionDays s.environment
    let minutes := Settings.cleanupMinutes s.environment
    days ≤ Settings.maxCount ∧ minutes ≤ Settings.maxCount ∧
      (CannotCount s.environment →
        Plan.ofSettings days minutes = .error .multiply ∧
          ((openLog s).sink.isSome = true → (run s watch requests).exit = .panic)) ∧
      (¬ CannotCount s.environment →
        Plan.ofSettings days minutes =
            .ok (if days = 0 ∨ minutes = 0 then none
              else some { retention := days * 86400, interval := minutes * 60 }) ∧
          (Log.Filter.ofSetting? (Settings.logFilter s.environment) ≠ none →
            (run s watch requests).exit ≠ .panic)) := by
  intro days minutes
  refine ⟨Settings.retentionDays_le _, Settings.cleanupMinutes_le _, fun hcannot => ?_,
    fun hcan => ?_⟩
  · refine ⟨Plan.ofSettings_eq_error_iff.2 hcannot, fun hsink => ?_⟩
    exact (exit_run_eq_panic_iff s watch requests).2 (.inr ⟨hsink, hcannot⟩)
  · constructor
    · have hfits :
          ¬ (days = 0 ∨ minutes = 0) → days ≤ Plan.maxDays ∧ minutes ≤ Plan.maxMinutes := by
        unfold CannotCount at hcan
        omega
      rw [Plan.ofSettings_eq]
      split
      next hoff => rfl
      next hon => rw [if_pos (hfits hon)]
    · intro hfilter hpanic
      rcases (exit_run_eq_panic_iff s watch requests).1 hpanic with hnone | ⟨-, hcannot⟩
      · exact hfilter hnone
      · exact hcan hcannot

/-- A month, with five minutes between two sweeps. -/
theorem exact_plan_or_panic_month :
    let environment := Settings.cleanupEnvironment 30 5
    ¬ CannotCount environment ∧
      Plan.ofSettings (Settings.retentionDays environment) (Settings.cleanupMinutes environment) =
        .ok (some { retention := 2592000, interval := 300 }) := by
  intro environment
  have hdays : Settings.retentionDays environment = 30 :=
    Settings.retentionDays_cleanupEnvironment (by decide)
  have hminutes : Settings.cleanupMinutes environment = 5 :=
    Settings.cleanupMinutes_cleanupEnvironment (by decide)
  have hcan : ¬ CannotCount environment := by
    rw [CannotCount, hdays, hminutes]
    decide
  obtain ⟨-, -, -, hcounts⟩ := exact_plan_or_panic
    { environment, files := .empty, host := {}, picked := 0, network := true, now := ⟨0⟩,
      date := "1970-01-01" } (fun _ => 0) []
  refine ⟨hcan, (hcounts hcan).1.trans ?_⟩
  show Except.ok (if Settings.retentionDays environment = 0 ∨ _ then none else _) = _
  rw [hdays, hminutes]
  rfl

/-- Whoever wants to keep logs for as long as possible gets no service at all. -/
theorem endless_retention_panics :
    let environment := Settings.cleanupEnvironment 18446744073709551615 1
    let s : Surroundings := { environment, files := .empty, host := {}, picked := 0,
                              network := true, now := ⟨0⟩, date := "1970-01-01" }
    Settings.retentionDays environment = 18446744073709551615 ∧
      Settings.cleanupMinutes environment = 1 ∧
      Plan.ofSettings 18446744073709551615 1 = .error .multiply ∧
      (run s (fun _ => 0) []).exit = .panic := by
  have hdays : 18446744073709551615 ≤ Settings.maxCount := by decide
  have hminutes : 1 ≤ Settings.maxCount := by decide
  refine ⟨Settings.retentionDays_cleanupEnvironment hdays,
    Settings.cleanupMinutes_cleanupEnvironment hminutes,
    Plan.ofSettings_eq_error_iff.2 (by decide), ?_⟩
  exact (exit_run_cleanupEnvironment hdays hminutes _ _ _ _ _).2 (by decide)

end Program

end ShipTelemetry
