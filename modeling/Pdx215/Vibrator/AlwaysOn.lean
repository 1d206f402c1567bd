import Pdx215.Lib.History
import Pdx215.Vibrator.Capabilities

/-! The two effects that the driver plays by itself when a GPIO rises or falls. Each has an index and a scale of its
own in the driver, which `alwaysOnEnable` and `alwaysOnDisable` write. -/
namespace Pdx215.Vibrator

open Effect History

inductive AlwaysOnId where
  | gpioRise
  | gpioFall
  deriving DecidableEq, Repr

namespace AlwaysOnId

def value : AlwaysOnId → Int
  | gpioRise => 0
  | gpioFall => 1

def indexNode : AlwaysOnId → Node
  | gpioRise => .gpio1RiseIndex
  | gpioFall => .gpio1FallIndex

def scaleNode : AlwaysOnId → Node
  | gpioRise => .gpio1RiseDigScale
  | gpioFall => .gpio1FallDigScale

end AlwaysOnId

/-- What has been written to the two files of an id, if anything has. -/
structure Slot where
  index : Option String
  scale : Option String
  deriving DecidableEq, Repr

/-- What a call writes to them. A slot is disabled by the index alone. -/
def AlwaysOnId.sent (num : Numbers) (m : Members) (id : AlwaysOnId) : ApiCall → Slot
  | .query (.alwaysOnEnable target effect strength) =>
    if target = id.value then
      match m.getSimpleDetails effect strength with
      | .error _ => ⟨none, none⟩
      | .ok d =>
        ⟨some (toString d.effectIndex.toNat),
          some (toString ((num.amplitudeToScale d.volLevel.toNat voltageScaleMax.toNat).setWidth 32).toNat)⟩
    else ⟨none, none⟩
  | .query (.alwaysOnDisable target) => if target = id.value then ⟨some "0", none⟩ else ⟨none, none⟩
  | _ => ⟨none, none⟩

def Slot.then (slot sent : Slot) : Slot := ⟨sent.index.or slot.index, sent.scale.or slot.scale⟩

/-- The value that was written to a file last, whether or not the driver took it. -/
def HwApi.lastSet (h : HwApi) (n : Node) : Option String :=
  last? (fun a => if a.kind = .set ∧ a.node = n then some a.value else none) h.accesses

def HwApi.slot (h : HwApi) (id : AlwaysOnId) : Slot := ⟨h.lastSet id.indexNode, h.lastSet id.scaleNode⟩

section Accesses

variable {n : Node}

end Accesses

/-! ### Requests leave the slots alone -/

section Requests

variable {id : AlwaysOnId}

end Requests

/-! ### Queries -/

section Queries

variable {num : Numbers} {response : Response}

/-- The writes of the two calls, of which only one has a scale. -/
def AlwaysOnId.writes (index : BitVec 32) (scale : Option (BitVec 32)) : AlwaysOnId → List QueryWrite
  | gpioRise => .setGpioRiseIndex index :: (scale.map .setGpioRiseScale).toList
  | gpioFall => .setGpioFallIndex index :: (scale.map .setGpioFallScale).toList

end Queries

/-! ### Runs -/

section Runs

variable {num : Numbers} {response : Response} {mCalData : CalData}

end Runs

end Pdx215.Vibrator
