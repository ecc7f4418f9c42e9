/-
TargetGuard.Types: the records of the target-drift guard
(`target_guard/types.py`) and the sentinel scopes of the classifier.

`ApprovedTarget` is what the user said yes to, `EffectiveTarget` is what
one tool call would act on, `GuardDecision` compares them. A scope is an
open set of strings in the source (a canonical Kubernetes kind, any other
kind as the command spells it, or one of three sentinels), so it stays a
`String` here; the verdict and the confidence are closed enumerations.
The `namespace` field is `ns` (the source's own local name for it), since
`namespace` is a Lean keyword.
-/
import ChaosBlade.Py.Dict
import ChaosBlade.Py.Json

namespace ChaosBlade.TargetGuard

open Py

/-- Labels, `dict[str, str]`. -/
abbrev Labels := Dict String

inductive GuardVerdict where
  | allow
  | readonly
  | rejectDrift
  | rejectBanned
  | rejectUnknown
  deriving DecidableEq

def GuardVerdict.value : GuardVerdict → String
  | .allow => "allow"
  | .readonly => "readonly"
  | .rejectDrift => "reject_drift"
  | .rejectBanned => "reject_banned"
  | .rejectUnknown => "reject_unknown"

inductive ConfidenceLevel where
  | high
  | low
  | unknown
  deriving DecidableEq

structure ApprovedTarget where
  scope : String
  ns : String
  names : List String := []
  labels : Labels := ∅
  isNamespaceWide : Bool := false
  bladeTarget : String := ""
  bladeAction : String := ""
  lockFaultType : Bool := true
  ownerNames : List String := []
  secondaryScopes : List String := []
  secondaryNamespace : String := ""
  deriving DecidableEq

structure EffectiveTarget where
  scope : String
  ns : String
  names : List String := []
  labels : Labels := ∅
  bladeTarget : String := ""
  bladeAction : String := ""
  confidence : ConfidenceLevel := .high
  rawCommand : String := ""
  isTier1Exec : Bool := false
  deriving DecidableEq

structure GuardDecision where
  verdict : GuardVerdict
  reason : String
  effective : Option EffectiveTarget := none
  suggestion : String := ""

/-! ## Sentinel scopes -/

def scopeReadonly : String := "__readonly__"
def scopeBanned : String := "__banned__"
def scopeUnknown : String := "__unknown__"

def sentinelScopes : List String := [scopeReadonly, scopeBanned, scopeUnknown]

namespace EffectiveTarget

def readonly (raw : String) : EffectiveTarget :=
  { scope := scopeReadonly, ns := "", rawCommand := raw, confidence := .high }

def banned (raw : String) : EffectiveTarget :=
  { scope := scopeBanned, ns := "", rawCommand := raw, confidence := .high }

def unknown (raw : String) : EffectiveTarget :=
  { scope := scopeUnknown, ns := "", rawCommand := raw, confidence := .unknown }

variable (raw : String)

@[simp] theorem readonly_scope : (readonly raw).scope = scopeReadonly := rfl
@[simp] theorem banned_scope : (banned raw).scope = scopeBanned := rfl
@[simp] theorem unknown_scope : (unknown raw).scope = scopeUnknown := rfl

end EffectiveTarget

/-! The sentinels are pairwise different. -/
@[simp] theorem scopeBanned_ne_readonly : scopeBanned ≠ scopeReadonly := by decide
@[simp] theorem scopeUnknown_ne_readonly : scopeUnknown ≠ scopeReadonly := by decide
@[simp] theorem scopeUnknown_ne_banned : scopeUnknown ≠ scopeBanned := by decide
@[simp] theorem scopeReadonly_ne_banned : scopeReadonly ≠ scopeBanned := by decide
@[simp] theorem scopeReadonly_ne_unknown : scopeReadonly ≠ scopeUnknown := by decide
@[simp] theorem scopeBanned_ne_unknown : scopeBanned ≠ scopeUnknown := by decide

end ChaosBlade.TargetGuard
