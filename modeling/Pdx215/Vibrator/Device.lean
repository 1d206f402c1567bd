import Mathlib.Algebra.Order.Floor.Defs
import Mathlib.Data.Rat.Floor
import Mathlib.Logic.Function.Basic
import Pdx215.Lib.Effect

/-! What the vibrator service works on: its members, the driver behind `HwApi`, the haptic PCM and the
tasks that `std::async` has started. A step of the service is one access to any of these. Tasks may make
steps of their own before each of them. -/
namespace Pdx215.Vibrator

open Effect

inductive Status where
  | ok
  | illegalArgument
  | illegalState
  | unsupportedOperation
  deriving DecidableEq, Repr

/-- Minimum and maximum of a calibrated voltage level. -/
structure VolLevels where
  v0 : BitVec 32
  v1 : BitVec 32
  deriving DecidableEq, Repr

/-- `mEffectDurations` and `pwleMaxLevelLimitMap` are given at every index: what lies behind the vector
is read if the index is too large. -/
structure Members where
  mF0Offset : BitVec 32
  mTickEffectVol : VolLevels
  mClickEffectVol : VolLevels
  mLongEffectVol : VolLevels
  mEffectDurations : Nat → BitVec 32
  mCompositionSizeMax : Int
  mHapticPcm : Option Nat
  mHasHapticAlsaDevice : Bool
  mIsUnderExternalControl : Bool
  mResonantFrequency : Rat
  mActiveId : Int
  mIsChirpEnabled : Bool
  pwleMaxLevelLimitMap : Nat → Rat

/-- The writes of `HwApi` that the service makes after its construction. -/
inductive HwWrite where
  | setGlobalScale (value : BitVec 32)
  | setF0Offset (value : BitVec 32)
  | setActivate (value : Bool)
  | setDuration (value : BitVec 32)
  | setEffectIndex (value : BitVec 32)
  | setEffectQueue (value : String)
  | setEffectScale (value : BitVec 32)
  | setPwle (value : String)
  | setAspEnable (value : Bool)
  deriving DecidableEq, Repr

/-! ### Requests -/

/-- `Effect`, under a longer name here. -/
inductive HapticEffect where
  | textureTick
  | tick
  | click
  | heavyClick
  | thud
  | pop
  | doubleClick
  /-- An effect that the service does not support. -/
  | other (value : Int)
  deriving DecidableEq, Repr

inductive EffectStrength where
  | light
  | medium
  | strong
  | other (value : Int)
  deriving DecidableEq, Repr

inductive CompositePrimitive where
  | noop
  | click
  | thud
  | spin
  | quickRise
  | slowRise
  | quickFall
  | lightTick
  | lowTick
  | other (value : Int)
  deriving DecidableEq, Repr

structure CompositeEffect where
  delayMs : Int
  primitive : CompositePrimitive
  scale : Rat
  deriving DecidableEq, Repr

structure ActivePwle where
  startAmplitude : Rat
  startFrequency : Rat
  endAmplitude : Rat
  endFrequency : Rat
  duration : Int
  deriving DecidableEq, Repr

/-- `braking` is the enumerator's value: NONE is 0 and CLAB is 1. -/
structure BrakingPwle where
  braking : Int
  duration : Int
  deriving DecidableEq, Repr

inductive PrimitivePwle where
  | active (p : ActivePwle)
  | braking (p : BrakingPwle)
  deriving DecidableEq, Repr

inductive Request where
  | on (timeoutMs : BitVec 32)
  | perform (effect : HapticEffect) (strength : EffectStrength)
  | compose (composite : List CompositeEffect)
  | composePwle (composite : List PrimitivePwle)
  | setExternalControl (enabled : Bool)
  | off
  deriving DecidableEq, Repr

/-! ### The world -/

/-- Where a `waitForComplete` task stands: waiting in `pollVibeState`, before its `setActivate(false)`, before
its callback, at its end. -/
inductive Stage where
  | polling
  | polled
  | deactivated
  | done
  deriving DecidableEq, Repr

def Stage.past : Stage → Bool
  | .polling | .polled => false
  | .deactivated | .done => true

/-- A write to the driver: one that the service makes for a request, with what it finds then and the number
that the request's task will have, or the `setActivate(false)` of a task. -/
inductive Entry where
  | service (request : Request) (op : HwWrite) (ok underExternalControl : Bool) (pending : Stage) (task : Nat)
  | deactivate (task : Nat)
  deriving DecidableEq, Repr

def Entry.activated : Entry → Option Nat
  | .service _ (.setActivate true) _ _ _ task => some task
  | _ => none

structure World where
  members : Members
  /-- The request that is served, or was served last. -/
  request : Request
  /-- The PCM handles that have been opened and not closed. -/
  pcms : List Nat
  opened : Nat
  tasks : Nat → Stage
  launched : Nat
  /-- The task that `mAsyncHandle` stands for. -/
  mAsyncHandle : Nat
  /-- The newest write comes first. -/
  log : List Entry

/-- What the environment decides about a step: which tasks make a step before it, and what succeeds in it. -/
structure Outcome where
  tasks : List Nat
  write : HwWrite → Bool
  hasAspEnable : Bool
  pcm : Bool

namespace World

/-- After the constructor, whose own task has nothing to do. -/
def start (members : Members) : World where
  members := { members with mIsUnderExternalControl := false }
  request := .off
  pcms := []
  opened := 0
  tasks := fun i => if i = 0 then .deactivated else .done
  launched := 1
  mAsyncHandle := 0
  log := []

def modify (w : World) (f : Members → Members) : World := { w with members := f w.members }

def setStage (w : World) (i : Nat) (stage : Stage) : World := { w with tasks := Function.update w.tasks i stage }

/-- One step of `waitForComplete`. -/
def taskStep (w : World) (i : Nat) : World :=
  match w.tasks i with
  | .polling => w.setStage i .polled
  | .polled => { w.setStage i .deactivated with log := .deactivate i :: w.log }
  | .deactivated => w.setStage i .done
  | .done => w

def progress (w : World) (is : List Nat) : World := is.foldl taskStep w

def write (w : World) (op : HwWrite) (ok : Bool) : World :=
  { w with
    log := .service w.request op ok w.members.mIsUnderExternalControl (w.tasks w.mAsyncHandle) w.launched :: w.log }

def pcmOpen (w : World) : World :=
  { w with
    pcms := w.opened :: w.pcms
    opened := w.opened + 1
    members := { w.members with mHapticPcm := some w.opened } }

def pcmClose (w : World) : World :=
  { w with
    pcms := w.pcms.filter fun h => w.members.mHapticPcm ≠ some h
    members := { w.members with mHapticPcm := none } }

def launch (w : World) : World := { w.setStage w.launched .polling with launched := w.launched + 1 }

/-- The assignment gives up the old future, which waits for its task to end. -/
def assign (w : World) : World :=
  { w.progress [w.mAsyncHandle, w.mAsyncHandle, w.mAsyncHandle] with mAsyncHandle := w.launched - 1 }

end World

inductive Act where
  | look
  | write (op : HwWrite)
  | hasAspEnable
  | pcmOpen
  | pcmPrepare
  | pcmStart
  | pcmClose
  | setUnderExternalControl (enabled : Bool)
  | setActiveId (id : Int)
  | waitFor
  | launch
  | assign
  deriving DecidableEq, Repr

def Reply : Act → Type
  | .look => Members
  | .write _ | .hasAspEnable | .pcmOpen | .pcmPrepare | .pcmStart | .waitFor => Bool
  | _ => Unit

def performNow (o : Outcome) (w : World) : (a : Act) → Reply a × World
  | .look => (w.members, w)
  | .write op => (o.write op, w.write op (o.write op))
  | .hasAspEnable => (o.hasAspEnable, w)
  | .pcmOpen => (o.pcm, w.pcmOpen)
  | .pcmPrepare => (o.pcm, w)
  | .pcmStart => (o.pcm, w)
  | .pcmClose => ((), w.pcmClose)
  | .setUnderExternalControl enabled => ((), w.modify fun m => { m with mIsUnderExternalControl := enabled })
  | .setActiveId id => ((), w.modify fun m => { m with mActiveId := id })
  | .waitFor => (decide (w.tasks w.mAsyncHandle = .done), w)
  | .launch => ((), w.launch)
  | .assign => ((), w.assign)

def perform (a : Act) (o : Outcome) (w : World) : Reply a × World := performNow o (w.progress o.tasks) a

end Pdx215.Vibrator
