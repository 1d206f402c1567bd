import Pdx215.Power.Demand
import Pdx215.Power.Pid
import Pdx215.Power.Telling

/-! What an accepted `reportActualWorkDuration` leaves in its session when the PID controller is on. -/
namespace Pdx215.Power

open Effect

def Session.Settled (min' : Int) (errors : Int × Int) (y : Session) : Prop :=
  y.currentMin = min' ∧ (y.integralError, y.previousError) = errors

/-- The session holds what the controller computed from it and from the report. -/
def Session.Controlled (cfg : AdpfConfig) (x : Session) (actual : List WorkDuration) : Session → Prop :=
  Session.Settled (x.nextMin cfg actual)
    (convertWorkDurationToBoostByPid cfg x.duration actual x.integralError x.previousError).2

section Report

variable {cfg : AdpfConfig} {s : Sid} {x : Session} {actual : List WorkDuration} {n : Nat} {sh : Shared}
  {q : Session → Prop}

theorem wp_look_holds {α : Type} {absent : α} {k : Session → Call α} {post : α → Nat → Shared → Prop}
    (holds : sh.Holds q s)
    (rest : ∀ y e, q y → (sh.wait e).Holds q s → wpCall cfg (fun _ => True) (k y) post (n + 1) (sh.wait e)) :
    wpCall cfg (fun _ => True) (load absent s k) post n sh := by
  obtain ⟨x, found, is⟩ := holds
  refine wp_look (fun e missing => ?_) fun y e found' => ?_
  · cases found.symm.trans missing
  · cases Option.some.inj (found.symm.trans found')
    exact rest x e is ⟨x, found, is⟩

/-! The steps after the new minimum is stored leave it and the two errors alone. -/

variable {min' : Int} {errors : Int × Int}

theorem settled_updateStaleTimerTo (t : Int) :
    (updateStaleTimerTo s t).All (Act.Retains (Session.Settled min' errors) s) :=
  ⟨fun _ _ is => is, fun _ => ⟨trivial, fun _ => all_act fun _ _ is => is⟩⟩

theorem settled_updateEarlyBoost :
    (updateEarlyBoost cfg s actual).All (Act.Retains (Session.Settled min' errors) s) := by
  have boosted (t : Int) : (updateEarlyBoostTimer s t).All (Act.Retains (Session.Settled min' errors) s) :=
    ⟨fun _ _ is => is, fun _ => ⟨trivial, fun _ => all_act fun _ _ is => is⟩⟩
  refine ⟨fun _ y is => ?_, fun _ => all_load trivial fun _ => boosted _⟩
  simp only [Store.apply, Session.updateWorkPeriod]
  split <;> exact is

theorem wp_setSessionUclampMin_settled (min' : Int)
    (holds : sh.Holds (fun y => (y.integralError, y.previousError) = errors) s) :
    wpCall cfg (fun _ => True) (setSessionUclampMin cfg s min')
      (fun _ _ v => v.Holds (Session.Settled min' errors) s) n sh := by
  have stored (o : Outcome) :
      (perform cfg (.store s (.currentMin min')) o sh).2.Holds (Session.Settled min' errors) s := by
    obtain ⟨y, found, is⟩ := holds
    refine ⟨{ y with currentMin := min' }, ?_, rfl, is⟩
    simp [perform, performNow, Shared.store, Shared.wait, Shared.lift, Store.apply, found]
  refine wp_seq (wp_step (q := fun v => v.Holds _ s) stored) fun _ m v _ holds => wp_retains ?_ holds
  have timed : (updateStaleTimer cfg s).All (Act.Retains (Session.Settled min' errors) s) :=
    ⟨trivial, fun _ => all_load trivial fun _ => settled_updateStaleTimerTo _⟩
  exact (all_perhaps timed).bind fun _ => all_act trivial

theorem wp_reportByPid_controlled (on : cfg.mPidOn = true)
    (holds : sh.Holds (fun y => y.pidInput = x.pidInput) s) :
    wpCall cfg (fun _ => True) (reportByPid cfg s actual)
      (fun _ _ v => v.Holds (x.Controlled cfg actual) s) n sh := by
  refine wp_look_holds holds fun y e same holds => ?_
  simp only [Session.pidInput, Prod.mk.injEq] at same
  obtain ⟨-, duration, integral, previous⟩ := same
  rw [duration, integral, previous]
  obtain ⟨r, computed⟩ : ∃ r, r = convertWorkDurationToBoostByPid cfg x.duration actual x.integralError
    x.previousError := ⟨_, rfl⟩
  rw [← computed]
  have stored (o : Outcome) : (perform cfg (.store s (.pidErrors r.2.1 r.2.2)) o (sh.wait e)).2.Holds
      (Session.Settled x.currentMin r.2) s := by
    obtain ⟨y, found, same⟩ := holds
    refine ⟨{ y with integralError := r.2.1, previousError := r.2.2 }, ?_, congrArg Prod.fst same, rfl⟩
    have found : sh.sessions s = some y := found
    simp [perform, performNow, Shared.store, Shared.wait, Shared.lift, Store.apply, found]
  refine wp_seq (wp_step (q := fun v => v.Holds _ s) stored) fun _ m v _ holds => ?_
  have value : x.nextMin cfg actual = max (fromUInt32 cfg.mUclampMinLow)
      (min (fromUInt32 cfg.mUclampMinHigh) (x.currentMin + toInt32 r.1)) := by
    rw [Session.nextMin, if_pos on, computed]
  have set : wpCall cfg (fun _ => True) (load () s fun y => setSessionUclampMin cfg s
      (max (fromUInt32 cfg.mUclampMinLow) (min (fromUInt32 cfg.mUclampMinHigh) (y.currentMin + toInt32 r.1))))
      (fun _ _ v => v.Holds (x.Controlled cfg actual) s) m v := by
    refine wp_look_holds holds fun y e same holds => ?_
    rw [same.1, ← value]
    obtain ⟨z, found, is⟩ := holds
    rw [Session.Controlled, ← computed]
    exact wp_setSessionUclampMin_settled _ ⟨z, found, is.2⟩
  refine wp_seq set fun _ m v _ holds => wp_retains ?_ holds
  exact (all_load trivial fun _ => settled_updateStaleTimerTo _).bind fun _ => all_perhaps settled_updateEarlyBoost

theorem wp_acceptReport_controlled (on : cfg.mPidOn = true)
    (holds : sh.Holds (fun y => y.pidInput = x.pidInput) s) :
    wpCall cfg (fun _ => True) (acceptReport cfg s actual)
      (fun _ _ v => v.Holds (x.Controlled cfg actual) s) n sh := by
  refine wp_seq (wp_retains (all_act fun _ _ same => same) holds) fun _ m v _ holds => ?_
  have waited (e : Nat) : (v.wait e).Holds (fun y => y.pidInput = x.pidInput) s := holds
  refine wp_readClock fun e => wp_look_holds (waited e) fun y e same holds => ?_
  have updated : (readClock fun updated => act (.store s (.lastUpdatedTime updated))).All
      (Act.Retains (fun y => y.pidInput = x.pidInput) s) := ⟨trivial, fun _ => all_act fun _ _ same => same⟩
  refine wp_seq (wp_retains updated holds) fun _ m v _ holds => ?_
  refine wp_seq (wp_retains (all_perhaps retains_updateUniveralBoostMode) holds) fun _ m v _ holds => ?_
  rw [if_pos on]
  exact wp_reportByPid_controlled on holds

theorem wp_report_controlled (on : cfg.mPidOn = true) (found : sh.sessions s = some x) :
    wpCall cfg (fun _ => True) (reportActualWorkDuration cfg s actual)
      (fun r _ v => r = .ok → actual ≠ [] ∧ v.Holds (x.Controlled cfg actual) s) n sh := by
  have holds : sh.Holds (fun y => y.pidInput = x.pidInput) s := ⟨x, found, rfl⟩
  refine wp_look_holds holds fun _ e _ holds => wp_ite (fun _ => ⟨trivial, fun ok => by cases ok⟩) fun _ => ?_
  refine wp_look_holds holds fun _ e _ holds => wp_ite (fun _ => ⟨trivial, fun ok => by cases ok⟩) fun _ => ?_
  refine wp_ite (fun _ => ⟨trivial, fun ok => by cases ok⟩) fun some => ?_
  refine wp_look_holds holds fun _ e _ holds => wp_ite (fun _ => ⟨trivial, fun ok => by cases ok⟩) fun _ => ?_
  refine wp_seq (wp_acceptReport_controlled on holds) fun _ m v _ holds => ⟨trivial, fun _ => ⟨?_, holds⟩⟩
  exact fun none => some (congrArg List.length none)

theorem report_controlled {io : Nat → Outcome} (on : cfg.mPidOn = true) (found : sh.sessions s = some x)
    (accepted : (exec (perform cfg) io (reportActualWorkDuration cfg s actual) n sh).1 = .ok) :
    actual ≠ [] ∧ (exec (perform cfg) io (reportActualWorkDuration cfg s actual) n sh).2.Holds
      (x.Controlled cfg actual) s := by
  have report : wpCall cfg (fun _ => True) (reportActualWorkDuration cfg s actual)
      (fun r _ v => r = .ok → actual ≠ [] ∧ v.Holds (x.Controlled cfg actual) s) n sh :=
    wp_report_controlled on found
  have fit : ∀ i, (fun _ => True) (io i).applied := fun _ => trivial
  obtain ⟨_, done⟩ := exec_post report fit
  exact done accepted

end Report

/-! ### The windows and the limits of the integral -/

theorem antiWindup_within {cfg : AdpfConfig} {es : List Int} (dt : Int)
    (limits : cfg.pidILowDivI ≤ cfg.pidIHighDivI) (some : es ≠ []) (integral : Int) :
    cfg.pidILowDivI ≤ es.foldl (antiWindup cfg dt) integral ∧
      es.foldl (antiWindup cfg dt) integral ≤ cfg.pidIHighDivI := by
  induction es generalizing integral with
  | nil => exact absurd rfl some
  | cons e es ih =>
    cases es with
    | nil =>
      simp only [List.foldl_cons, List.foldl_nil, antiWindup]
      omega
    | cons e' es => exact ih (List.cons_ne_nil _ _) _

theorem windowed_ne_nil {α : Type} {xs : List α} (window : Nat) (some : xs ≠ []) : windowed window xs ≠ [] := by
  rw [windowed_eq_drop, ne_eq, List.drop_eq_nil_iff]
  exact Nat.not_le_of_lt (windowStart_lt (List.length_pos_iff.mpr some))

/-- Every window starts at a sample, the proportional term sums the errors of its window, and what an
accepted report stores is an integral between the limits and the error of its last sample. -/
theorem sampling_windows_and_anti_windup (cfg : AdpfConfig) (windowP windowI windowD : UInt64)
    (actual : List WorkDuration) (reported : actual ≠ []) (counted : actual.length < 2 ^ 63) :
    (∀ window ∈ [windowP, windowI, windowD], 0 ≤ windowStart64 window actual.length ∧
        windowStart64 window actual.length ≤ actual.length - 1) ∧
      (∀ target integral previous,
        (pidSums (cfg.sampling windowP windowI windowD) target actual integral previous).errSum =
          (windowed windowP.toNat (pidErrors target actual)).sum) ∧
      ∀ s x sh n io, cfg.pidILowDivI ≤ cfg.pidIHighDivI → cfg.mPidOn = true → sh.sessions s = some x →
        let cfg := cfg.sampling windowP windowI windowD
        (exec (perform cfg) io (reportActualWorkDuration cfg s actual) n sh).1 = .ok →
        (exec (perform cfg) io (reportActualWorkDuration cfg s actual) n sh).2.Holds (fun y =>
          cfg.pidILowDivI ≤ y.integralError ∧ y.integralError ≤ cfg.pidIHighDivI ∧
            (pidErrors x.duration actual).getLast? = some y.previousError) s := by
  refine ⟨fun window _ => ?_, fun target integral previous => pidSums_errSum, ?_⟩
  · have start : windowStart window.toNat actual.length < actual.length :=
      windowStart_lt (List.length_pos_iff.mpr reported)
    rw [windowStart64_eq window counted]
    omega
  · intro s x sh n io limits on found cfg' accepted
    have on' : cfg'.mPidOn = true := on
    obtain ⟨-, y, found', -, errors⟩ := report_controlled on' found accepted
    rw [convertWorkDurationToBoostByPid_eq, Prod.mk.injEq, pidSums_integralError,
      pidSums_previousError reported] at errors
    have errors_ne : pidErrors x.duration actual ≠ [] := by simpa [pidErrors] using reported
    have limits' : cfg'.pidILowDivI ≤ cfg'.pidIHighDivI := limits
    have within := antiWindup_within (nsTo100us x.duration) limits'
      (windowed_ne_nil cfg'.mSamplingWindowI errors_ne) x.integralError
    rw [← errors.1] at within
    refine ⟨y, found', within.1, within.2, ?_⟩
    rw [errors.2, List.getLast?_eq_some_getLast errors_ne, List.getLastD_eq_getLast?,
      List.getLast?_eq_some_getLast errors_ne]
    rfl

/-- A frame that is late by more than the integral may hold. -/
theorem sampling_windows_and_anti_windup_late :
    let cfg := { Sample.cfg with mPidOn := true, pidIHighDivI := 512, pidILowDivI := -30 }
    let late : List WorkDuration := [⟨0, 32000000⟩]
    let created := run cfg .start (Sample.calmly [.createHintSession 0 1 10001 [7] 16000000])
    (late ≠ [] ∧ late.length < 2 ^ 63 ∧ cfg.pidILowDivI ≤ cfg.pidIHighDivI ∧
      (exec (perform (cfg.sampling 1 0 3)) Sample.calm (reportActualWorkDuration (cfg.sampling 1 0 3) 0 late) 0
        created).1 = .ok) ∧
      ∃ x, created.sessions 0 = some x ∧
        (exec (perform (cfg.sampling 1 0 3)) Sample.calm (reportActualWorkDuration (cfg.sampling 1 0 3) 0 late) 0
          created).2.Holds (fun y => -30 ≤ y.integralError ∧ y.integralError ≤ 512 ∧
            (pidErrors x.duration late).getLast? = some y.previousError) 0 := by
  intro cfg late created
  have accepted : (exec (perform (cfg.sampling 1 0 3)) Sample.calm
      (reportActualWorkDuration (cfg.sampling 1 0 3) 0 late) 0 created).1 = .ok := by decide +kernel
  have present : (created.sessions 0).isSome = true := by decide +kernel
  obtain ⟨x, found⟩ := Option.isSome_iff_exists.mp present
  have sound := sampling_windows_and_anti_windup cfg 1 0 3 late (List.cons_ne_nil _ _) (by decide)
  exact ⟨⟨List.cons_ne_nil _ _, by decide, by decide, accepted⟩, x, found,
    sound.2.2 0 x created 0 Sample.calm (by decide) rfl found accepted⟩

end Pdx215.Power
