import ShipTelemetry.Proofs.Files.Plain
import ShipTelemetry.Proofs.Program.StartUp

/-!
# How long logs are kept

A retention of so many days is a promise in two directions: no file is removed before it is that
old, and no older file survives a sweep.  `Swept.For` says what one sweep does for it.  What is
removed is old and lies in the log directory, what is left there is young, and where the clock
does not reach back that far nothing is removed.

Between the sweeps others do as they like, in a tree of directories and files.  A sweep does its
part whatever it finds (`for_sweep`), so by induction over the turns all of them do
(`for_of_mem_sweeps`).  And as the clock never goes back, a file that nobody touches is there as
long as the clock has not gone beyond its retention (`get?_sweeps`).  `cleanup_keeps` puts this
together for the settings.
-/

namespace ShipTelemetry.Files

/-! ## One sweep -/

/-- The moment so many seconds before a sweep can be told. -/
def Swept.CanTell (s : Swept) (seconds : Nat) : Prop :=
  Plan.firstSecond * 1000000000 ≤ s.now.nanos - seconds * 1000000000

/-- What a sweep below a path does for a retention of so many seconds. -/
structure Swept.For (s : Swept) (path : Path) (seconds : Nat) : Prop where
  /-- Whatever is not as before is gone, and was a file in the tree of the path, last written
  before the retention. -/
  old : ∀ place, s.after.get? place ≠ s.before.get? place →
    s.after.get? place = none ∧
      ∃ root content written, s.before.Located path root ∧ s.before.LiesIn root.place place ∧
        s.before.get? place = some (.file content (some written) true) ∧
        written.nanos < s.now.nanos - seconds * 1000000000
  /-- No file stays in the tree of the path that was last written before the retention and can
  be removed. -/
  young : s.CanTell seconds → ∀ root place content written,
    s.after.Located path root → s.after.LiesIn root.place place →
      s.after.get? place = some (.file content (some written) true) →
        s.now.nanos - seconds * 1000000000 ≤ written.nanos
  /-- Nothing is removed where the clock does not reach back that far. -/
  early : ¬ s.CanTell seconds → s.after = s.before

/-- In between, nobody puts a link into a tree without links. -/
def Turn.StaysPlain (turn : Turn) : Prop := ∀ t : Tree, t.Plain → (turn.change t).Plain

/-- In between, nobody touches what stands at a place. -/
def Turn.Leaves (turn : Turn) (place : Place) (entry : Entry) : Prop :=
  ∀ t : Tree, t.get? place = some entry → (turn.change t).get? place = some entry

/-- A sweep leaves a file alone that is not older than the retention. -/
theorem Swept.For.get?_after {s : Swept} {path : Path} {seconds : Nat} {place : Place}
    {content : String} {written : Moment} {removable : Bool} (h : s.For path seconds)
    (hfile : s.before.get? place = some (.file content (some written) removable))
    (hyoung : s.now.nanos ≤ written.nanos + seconds * 1000000000) :
    s.after.get? place = some (.file content (some written) removable) := by
  by_contra hgone
  obtain ⟨-, _, content', written', -, -, hfile', hold⟩ :=
    h.old place fun hsame => hgone (hsame.trans hfile)
  rw [hfile, Option.some.injEq, Entry.file.injEq, Option.some.injEq] at hfile'
  rw [← hfile'.2.1] at hold
  omega

namespace Plan

variable {t : Tree} {path : Path} {turns : List Turn} {place : Place} {content : String}
  {written : Moment} {removable : Bool}

theorem cutoff?_eq (p : Plan) (now : Moment) :
    p.cutoff? now =
      if firstSecond * 1000000000 ≤ now.nanos - p.retention * 1000000000 then
        some ⟨now.nanos - p.retention * 1000000000⟩
      else none := by
  have hseconds : firstSecond ≤ now.seconds - p.retention ↔
      firstSecond * 1000000000 ≤ now.nanos - p.retention * 1000000000 := by
    unfold Moment.seconds
    rw [Int.fdiv_eq_ediv_of_nonneg _ (by decide)]
    omega
  simp only [cutoff?, hseconds]

/-- A sweep of a tree without links does what the retention asks for. -/
theorem for_sweep (p : Plan) (path : Path) (now : Moment) (ht : t.Plain) :
    Swept.For ⟨now, t, (p.sweep t path now).1⟩ path p.retention := by
  by_cases htell : firstSecond * 1000000000 ≤ now.nanos - p.retention * 1000000000
  · have hsweep : p.sweep t path now = t.prune path ⟨now.nanos - p.retention * 1000000000⟩ := by
      simp only [sweep, cutoff?_eq, if_pos htell]
    rw [hsweep]
    refine ⟨fun place hchanged => ?_, fun _ root place content written hroot hlies hfile => ?_,
      fun hearly => absurd htell hearly⟩
    · obtain ⟨hgone, root, c, hroot, hmet, rfl, hremovable⟩ := Tree.removed_of_prune hchanged
      obtain ⟨content, written, hfile, hbefore⟩ := ht.exists_file hremovable
      have hlies := ((ht.staysInside root).met_iff.1 hmet).1
      exact ⟨hgone, root, content, written, hroot, hlies, hfile, of_decide_eq_true hbefore⟩
    · -- an older file would have been removed
      have hleft := Tree.leftOf_prune t path ⟨now.nanos - p.retention * 1000000000⟩
      by_contra hold
      have hbefore : written.isBefore ⟨now.nanos - p.retention * 1000000000⟩ :=
        decide_eq_true (Int.not_le.1 hold)
      have hthere := hleft _ _ hfile
      have hmet := ht.met_of_liesIn (hlies.of_leftOf hleft) hthere
      have hgone := (hroot.of_leftOf hleft).get?_prune_eq_none hmet hthere hbefore
      exact absurd (hgone.symm.trans hfile) (by simp)
  · have hsweep : p.sweep t path now = (t, 0) := by
      simp only [sweep, cutoff?_eq, if_neg htell]
    rw [hsweep]
    exact ⟨fun place hchanged => absurd rfl hchanged, fun hearly => absurd hearly htell,
      fun _ => rfl⟩

/-! ## All sweeps -/

theorem sweeps_cons (p : Plan) (path : Path) (t : Tree) (turn : Turn) (rest : List Turn) :
    p.sweeps path t (turn :: rest) =
      (⟨turn.now, turn.change t, (p.sweep (turn.change t) path turn.now).1⟩ ::
          (p.sweeps path (p.sweep (turn.change t) path turn.now).1 rest).1,
        (p.sweeps path (p.sweep (turn.change t) path turn.now).1 rest).2) := rfl

theorem leftOf_sweep (p : Plan) (t : Tree) (path : Path) (now : Moment) :
    (p.sweep t path now).1.LeftOf t := by
  unfold sweep
  split
  next => exact .refl t
  next cutoff _ => exact Tree.leftOf_prune t path cutoff

theorem map_now_sweeps (p : Plan) (path : Path) (t : Tree) (turns : List Turn) :
    (p.sweeps path t turns).1.map Swept.now = turns.map Turn.now := by
  induction turns generalizing t with
  | nil => rfl
  | cons turn rest ih => simp [sweeps_cons, ih]

theorem for_of_mem_sweeps (p : Plan) (path : Path) (ht : t.Plain)
    (hturns : ∀ turn ∈ turns, turn.StaysPlain) :
    ∀ s ∈ (p.sweeps path t turns).1, s.For path p.retention := by
  induction turns generalizing t with
  | nil => exact fun s hs => absurd hs List.not_mem_nil
  | cons turn rest ih =>
    obtain ⟨hturn, hrest⟩ := List.forall_mem_cons.1 hturns
    have hbefore : (turn.change t).Plain := hturn t ht
    have hafter := hbefore.of_leftOf (leftOf_sweep p _ path turn.now)
    rw [sweeps_cons]
    exact List.forall_mem_cons.2 ⟨for_sweep p path turn.now hbefore, ih hafter hrest⟩

/-- From some sweep on, the sweeps are those that begin with the tree that there is by then. -/
theorem drop_sweeps (p : Plan) (path : Path) (n : Nat) (ht : t.Plain)
    (hturns : ∀ turn ∈ turns, turn.StaysPlain) :
    ∃ now : Tree, now.Plain ∧
      (p.sweeps path t turns).1.drop n = (p.sweeps path now (turns.drop n)).1 := by
  induction n generalizing t turns with
  | zero => exact ⟨t, ht, rfl⟩
  | succ n ih =>
    cases turns with
    | nil => exact ⟨t, ht, rfl⟩
    | cons turn rest =>
      obtain ⟨hturn, hrest⟩ := List.forall_mem_cons.1 hturns
      exact ih ((hturn t ht).of_leftOf (leftOf_sweep p _ path turn.now)) hrest

/-- A file that is there at the first sweep, and that nobody touches, outlives every sweep until
the retention is over. -/
theorem get?_sweeps (p : Plan) (path : Path) (ht : t.Plain)
    (hturns : ∀ turn ∈ turns, turn.StaysPlain)
    (hclock : turns.Pairwise fun a b => a.now.nanos ≤ b.now.nanos)
    (hfile : ∀ turn ∈ turns.head?,
      (turn.change t).get? place = some (.file content (some written) removable))
    (hleaves : ∀ turn ∈ turns.tail, turn.Leaves place (.file content (some written) removable)) :
    ∀ s ∈ (p.sweeps path t turns).1,
      s.now.nanos ≤ written.nanos + p.retention * 1000000000 →
        s.after.get? place = some (.file content (some written) removable) := by
  induction turns generalizing t with
  | nil => exact fun s hs => absurd hs List.not_mem_nil
  | cons turn rest ih =>
    obtain ⟨hturn, hrest⟩ := List.forall_mem_cons.1 hturns
    obtain ⟨hfirst, hclock⟩ := List.pairwise_cons.1 hclock
    have hbefore : (turn.change t).Plain := hturn t ht
    have hafter := hbefore.of_leftOf (leftOf_sweep p _ path turn.now)
    have hsweep := (for_sweep p path turn.now hbefore).get?_after (hfile turn rfl)
    rw [sweeps_cons]
    intro s hs hyoung
    rcases List.mem_cons.1 hs with rfl | hs
    · exact hsweep hyoung
    · -- the clock was no further at the sweep before
      have hnow : turn.now.nanos ≤ s.now.nanos := by
        have htime : s.now ∈ rest.map Turn.now := by
          rw [← map_now_sweeps p path _ rest]
          exact List.mem_map_of_mem hs
        obtain ⟨later, hlater, heq⟩ := List.mem_map.1 htime
        rw [← heq]
        exact hfirst later hlater
      have hkept := hsweep (Int.le_trans hnow hyoung)
      exact ih hafter hrest hclock
        (fun next hnext => hleaves next (List.mem_of_mem_head? hnext) _ hkept)
        (fun later hlater => hleaves later (List.mem_of_mem_tail hlater)) s hs hyoung

/-! ## The promise -/

theorem cleanup_eq_nil {days minutes : Nat} (h : days = 0 ∨ minutes = 0) :
    cleanup days minutes path t turns = .ok ([], changed t turns) := by
  unfold cleanup
  rw [ofSettings_eq, if_pos h]

theorem cleanup_eq_sweeps {days minutes : Nat} (hdays : 0 < days) (hminutes : 0 < minutes)
    (hretention : days * 86400 ≤ maxSeconds) (hinterval : minutes * 60 ≤ maxSeconds) :
    cleanup days minutes path t turns =
      .ok (sweeps { retention := days * 86400, interval := minutes * 60 } path t turns) := by
  have hon : ¬ (days = 0 ∨ minutes = 0) := by omega
  have hfits : days ≤ maxDays ∧ minutes ≤ maxMinutes :=
    ⟨(Nat.le_div_iff_mul_le (by decide)).2 hretention,
      (Nat.le_div_iff_mul_le (by decide)).2 hinterval⟩
  unfold cleanup
  rw [ofSettings_eq, if_neg hon, if_pos hfits]

/-- How long the cleanup keeps files, whatever others do in a tree without links. -/
theorem cleanup_keeps (days minutes : Nat) (path : Path) (start : Tree) (turns : List Turn)
    (hstart : start.Plain) (hturns : ∀ turn ∈ turns, turn.StaysPlain)
    (hclock : turns.Pairwise fun a b => a.now.nanos ≤ b.now.nanos) :
    (days = 0 ∨ minutes = 0 →
      cleanup days minutes path start turns = .ok ([], changed start turns)) ∧
    (0 < days → 0 < minutes → days * 86400 ≤ maxSeconds → minutes * 60 ≤ maxSeconds →
      ∃ swept last, cleanup days minutes path start turns = .ok (swept, last) ∧
        swept.map Swept.now = turns.map Turn.now ∧
        (∀ s ∈ swept, s.For path (days * 86400)) ∧
        ∀ n first place content written removable, swept[n]? = some first →
          first.before.get? place = some (.file content (some written) removable) →
          (∀ turn ∈ turns.drop (n + 1),
            turn.Leaves place (.file content (some written) removable)) →
          ∀ s ∈ swept.drop n, s.now.nanos ≤ written.nanos + (days * 86400 : Nat) * 1000000000 →
            s.after.get? place = some (.file content (some written) removable)) := by
  refine ⟨cleanup_eq_nil, fun hdays hminutes hretention hinterval => ?_⟩
  let p : Plan := { retention := days * 86400, interval := minutes * 60 }
  refine ⟨(p.sweeps path start turns).1, (p.sweeps path start turns).2,
    cleanup_eq_sweeps hdays hminutes hretention hinterval, map_now_sweeps p path start turns,
    for_of_mem_sweeps p path hstart hturns, ?_⟩
  intro n first place content written removable hfirst hfile hleaves
  -- from that sweep on it is a run of its own
  obtain ⟨now, hnow, hdrop⟩ := drop_sweeps p path n hstart hturns
  have hhead : ((p.sweeps path now (turns.drop n)).1).head? = some first := by
    rw [← hdrop, List.head?_drop, hfirst]
  rw [hdrop]
  refine get?_sweeps p path hnow (fun turn hturn => hturns turn (List.mem_of_mem_drop hturn))
    (hclock.sublist (List.drop_sublist n turns)) ?_ ?_
  · intro turn hturn
    cases hrest : turns.drop n with
    | nil => simp [hrest] at hturn
    | cons next rest =>
      rw [hrest, List.head?_cons, Option.mem_some_iff] at hturn
      rw [hrest, sweeps_cons, List.head?_cons, Option.some.injEq] at hhead
      rw [← hhead, hturn] at hfile
      exact hfile
  · rwa [List.tail_drop]

/-- A log directory with one file, written when the clock began to count. -/
def oneLog : Tree where
  entries := [(["logs"], .directory true), (["logs", "first"], .file "" (some ⟨0⟩) true)]
  distinct := by decide

/-- One day later, and a nanosecond after that, when there is a second file. -/
def twoTurns : List Turn := [
  { now := ⟨86400000000000⟩, change := id },
  { now := ⟨86400000000001⟩,
    change := fun t => t.put ["logs", "second"] (.file "" (some ⟨86400000000000⟩) true) }]

theorem plain_oneLog : oneLog.Plain := Tree.plain_of_entries (by simp [oneLog])

theorem staysPlain_twoTurns : ∀ turn ∈ twoTurns, turn.StaysPlain := by
  refine List.forall_mem_cons.2 ⟨fun t ht => ht, List.forall_mem_cons.2 ⟨fun t ht => ?_, by simp⟩⟩
  exact ht.put (by decide) (by simp)

/-- A day old is not too old, but a nanosecond more is. -/
theorem cleanup_keeps_day :
    oneLog.Plain ∧ (∀ turn ∈ twoTurns, turn.StaysPlain) ∧
      (twoTurns.Pairwise fun a b => a.now.nanos ≤ b.now.nanos) ∧
      cleanup 0 1 ["logs"] oneLog twoTurns = .ok ([], changed oneLog twoTurns) ∧
      ∃ swept last, cleanup 1 1 ["logs"] oneLog twoTurns = .ok (swept, last) ∧
        (∀ s ∈ swept, s.For ["logs"] 86400) ∧
        swept.map (fun s => (s.after.get? ["logs", "first"]).isSome) = [true, false] ∧
        (last.get? ["logs", "second"]).isSome := by
  have hclock : twoTurns.Pairwise fun a b => a.now.nanos ≤ b.now.nanos := by decide
  obtain ⟨-, hon⟩ := cleanup_keeps 1 1 ["logs"] oneLog twoTurns plain_oneLog staysPlain_twoTurns
    hclock
  obtain ⟨hoff, -⟩ := cleanup_keeps 0 1 ["logs"] oneLog twoTurns plain_oneLog staysPlain_twoTurns
    hclock
  obtain ⟨swept, last, hrun, -, hfor, -⟩ := hon (by decide) (by decide) (by decide) (by decide)
  refine ⟨plain_oneLog, staysPlain_twoTurns, hclock, hoff (by decide), swept, last, hrun, hfor, ?_⟩
  have hfiles : (cleanup 1 1 ["logs"] oneLog twoTurns).map (fun run =>
      (run.1.map fun s => (s.after.get? ["logs", "first"]).isSome,
        (run.2.get? ["logs", "second"]).isSome)) = .ok ([true, false], true) := by decide +kernel
  rw [hrun] at hfiles
  simpa [Except.map] using hfiles

end Plan

end ShipTelemetry.Files
