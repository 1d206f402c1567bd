import Pdx215.Gpt.Device

/-! Searching and exchanging partition entries in an entry array held in memory. -/
namespace Pdx215.Gpt
open Region

/-- `!strncmp(a, b, n)`; a string ends at its first zero or with its list. -/
def strncmpEq : Nat → Bytes → Bytes → Bool
  | 0, _, _ => true
  | n + 1, a, b =>
    if a.headD 0 ≠ b.headD 0 then false
    else if a.headD 0 = 0 then true
    else strncmpEq n a.tail b.tail

/-- `!strcmp(a, b)`. -/
def strcmpEq (a b : Bytes) : Bool := strncmpEq (max a.length b.length + 1) a b

def ptnXbl : Bytes := cstr "xbl"
def ptnMultiimgoem : Bytes := cstr "multiimgoem"
def ptnMultiimgqti : Bytes := cstr "multiimgqti"
def bakPtnNameExt : Bytes := cstr "bak"

def ptnSwapList : List Bytes :=
  ["xbl", "xbl_config", "multiimgoem", "multiimgqti", "sbl1", "rpm", "tz", "aboot", "abl", "hyp",
    "lksecapp", "keymaster", "cmnlib", "cmnlib32", "cmnlib64", "pmic", "apdp", "devcfg", "hosd",
    "keystore", "msadp", "mdtp", "mdtpsecapp", "dsp", "aop", "qupfw", "vbmeta", "dtbo", "imagefv",
    "ImageFv", "vm-bootsys", "shrm", "cpucp"].map cstr

def gptUtilsIsUfsDevice (env : Env) : Bool :=
  let suffix := cstr ".ufshc"
  decide (suffix.length + 1 ≤ env.bootdevice.length) &&
    env.bootdevice.drop (env.bootdevice.length - suffix.length) == suffix

/-- The name buffer after the copy loop: the low bytes of the 36 UTF-16 units, then zeros. -/
def name8 (env : Env) (pentries : Bytes) (entry : Nat) : Bytes :=
  (List.range (maxGptNameSize / 2)).map (fun i =>
      pentries[entry + partitionNameOffset + i * 2]?.getD
        (env.heap (entry + partitionNameOffset + i * 2))) ++
    List.replicate (maxGptNameSize / 2) 0

/-- `unsigned len = strlen(ptn_name)`. -/
def nameLen (ptnName : Bytes) : Nat := ptnName.length % 2 ^ 32

def pentryMatches (env : Env) (ptnName pentries : Bytes) (entry : Nat) : Bool :=
  let name := name8 env pentries entry
  let len := nameLen ptnName
  strncmpEq len ptnName name && (name[len]?.getD 0 == 0 || strcmpEq (name.drop len) bakPtnNameExt)

/- The loop moves on by `size` while the name starts inside the array. An entry size of zero,
for which it would not move, only comes with an empty array. -/
def pentrySeekLoop (env : Env) (ptnName pentries : Bytes) (size : Nat) : Nat → Nat → Option Nat
  | 0, _ => none
  | fuel + 1, entry =>
    if entry + partitionNameOffset < pentries.length then
      if pentryMatches env ptnName pentries entry then some entry
      else pentrySeekLoop env ptnName pentries size fuel (entry + size)
    else none

/-- The offset of the first entry from `start` on that has the name, or its backup's name. -/
def gptPentrySeek (env : Env) (ptnName pentries : Bytes) (start size : Nat) : Option Nat :=
  pentrySeekLoop env ptnName pentries size (pentries.length + 1) start

/- On UFS the boot LUN takes the place of the swap for these. -/
def swapSkipped (env : Env) (name : Bytes) : Bool :=
  gptUtilsIsUfsDevice env && (strncmpEq ptnXbl.length name ptnXbl ||
    strncmpEq ptnMultiimgoem.length name ptnMultiimgoem ||
    strncmpEq ptnMultiimgqti.length name ptnMultiimgqti)

def swapEntries (env : Env) (pentries : Bytes) (entry bakEntry : Nat) : Bytes :=
  splice (splice pentries entry (peek env pentries bakEntry ptnEntrySize)) bakEntry
    (peek env pentries entry ptnEntrySize)

/-- One turn of the loop over the names; the number is `backup_not_found`. -/
def swapName (env : Env) (size : Nat) (st : Bytes × Int) (name : Bytes) : Bytes × Int :=
  if swapSkipped env name then st
  else match gptPentrySeek env name st.1 0 size with
    | none => st
    | some entry =>
      match gptPentrySeek env name st.1 (entry + size) size with
      | none => st
      | some bakEntry => (swapEntries env st.1 entry bakEntry, 0)

/-- The array after the exchange, and 0, or 1 if no name has a backup. -/
def gptBootChainSwap (env : Env) (pentries : Bytes) (size : Nat) : Bytes × Int :=
  ptnSwapList.foldl (swapName env size) (pentries, 1)

theorem swapName_length (env : Env) (size : Nat) (st : Bytes × Int) (name : Bytes) :
    (swapName env size st name).1.length = st.1.length := by
  unfold swapName
  split
  · rfl
  · split
    · rfl
    · split
      · rfl
      · simp only [swapEntries, length_splice]

theorem gptBootChainSwap_length (env : Env) (pentries : Bytes) (size : Nat) :
    (gptBootChainSwap env pentries size).1.length = pentries.length := by
  have fold : ∀ (names : List Bytes) (st : Bytes × Int),
      (names.foldl (swapName env size) st).1.length = st.1.length := by
    intro names
    induction names with
    | nil => intro st; rfl
    | cons name names ih =>
      intro st
      rw [List.foldl_cons, ih, swapName_length]
  exact fold ptnSwapList (pentries, 1)

/- The loop over the names is nothing to unfold by accident. -/
attribute [irreducible] gptBootChainSwap

end Pdx215.Gpt
