import CachePurge.Settings.Reading
import Mathlib.Tactic.SplitIfs

/-!
# The bounds of settings

Settings are checked when they are read, once, and nothing looks at their
numbers again.  What the check promises is said here, in any number type that
seconds are counted in, so that it can be assumed wherever times are computed
with: exactly, or as the program computes them.

## Main results

* `Settings.valid_of_read` — settings that are read are within their bounds.
-/

namespace CachePurge.Settings

/-- Settings with all numbers within their bounds. -/
structure Valid {α : Type} [Scalar α] (s : Settings α) : Prop where
  port : 1 ≤ s.port ∧ s.port ≤ 65535
  timeout : 0.1 ≤ s.timeout ∧ s.timeout ≤ 8.0
  connectTimeout : 0.1 ≤ s.connectTimeout ∧ s.connectTimeout ≤ 4.0
  totalTimeout : 0.4 ≤ s.totalTimeout ∧ s.totalTimeout ≤ 10.0
  cooldownTime : 0.0 ≤ s.cooldownTime ∧ s.cooldownTime ≤ 3.0
  maxRequests : 1 ≤ s.maxRequests ∧ s.maxRequests ≤ 500

/-! ## One field -/

theorem bind_eq_ok {ε β γ : Type} {x : Except ε β} {f : β → Except ε γ} {c : γ} :
    (x >>= f) = .ok c ↔ ∃ b, x = .ok b ∧ f b = .ok c := by
  cases x with
  | error e => simp [bind, Except.bind]
  | ok b => simp [bind, Except.bind]

/-- What is read and then held against two bounds is within them. -/
theorem within_of_bounded {ε β : Type} [LE β] [DecidableLE β] {low high v : β} {x : Except ε β}
    {tooLarge tooSmall : ε}
    (h : (x >>= fun u => if ¬ u ≤ high then .error tooLarge
      else if ¬ low ≤ u then .error tooSmall else .ok u) = .ok v) : low ≤ v ∧ v ≤ high := by
  obtain ⟨u, -, hbounds⟩ := bind_eq_ok.mp h
  split_ifs at hbounds with hhigh hlow
  obtain rfl := Except.ok.inj hbounds
  exact ⟨hlow, hhigh⟩

theorem bounds_of_readWholeIn {low high n : Int} {x : Json} (h : readWholeIn low high x = .ok n) :
    low ≤ n ∧ n ≤ high :=
  within_of_bounded h

theorem bounds_of_readFloatIn {low high v : Float} {x : Json}
    (h : readFloatIn low high x = .ok v) : low ≤ v ∧ v ≤ high :=
  within_of_bounded h

/-- A field has what its reader promises, if its usual value does. -/
theorem of_checkField {β : Type} {name : String} {reader : Json → Reading β} {usual v : β}
    {given : Option Json} {P : β → Prop} (h : checkField name reader usual given = .ok v)
    (husual : P usual) (hread : ∀ x, reader x = .ok v → P v) : P v := by
  cases given with
  | none =>
      obtain rfl := Except.ok.inj h
      exact husual
  | some x =>
      have hx : (reader x).mapError _ = .ok v := h
      cases hreader : reader x with
      | error c =>
          rw [hreader] at hx
          cases hx
      | ok u =>
          rw [hreader] at hx
          obtain rfl := Except.ok.inj hx
          exact hread x hreader

/-! ## All fields -/

/-- Settings have what their fields read, each by itself. -/
theorem Fields.settings_eq_ok {f : Fields} {s : Settings Float} (h : f.settings = .ok s) :
    f.port = .ok s.port ∧ f.timeout = .ok s.timeout ∧ f.connectTimeout = .ok s.connectTimeout ∧
      f.cooldownTime = .ok s.cooldownTime ∧ f.maxRequests = .ok s.maxRequests := by
  simp only [Fields.settings, bind_eq_ok] at h
  obtain ⟨_, -, _, -, _, -, _, -, port, hport, _, -, _, -, _, -, _, -, _, -, _, -, _, -, _, -, _, -,
    _, -, _, -, _, -, timeout, htimeout, connect, hconnect, _, -, _, -, cooldown, hcooldown,
    most, hmost, _, -, hs⟩ := h
  obtain rfl := Except.ok.inj hs
  exact ⟨hport, htimeout, hconnect, hcooldown, hmost⟩

/-- Settings that are read have passed the check of the fields and that of the total. -/
theorem read_eq_ok {src : Sources} {s : Settings Float} (h : read src = .ok s) :
    ∃ headers, (Fields.read src headers).settings = .ok s ∧
      leastTotal ≤ s.totalTimeout ∧ s.totalTimeout ≤ greatestTotal := by
  obtain ⟨headers, -, hread⟩ := bind_eq_ok.mp h
  dsimp only at hread
  cases hsettings : (Fields.read src headers).settings with
  | error findings =>
      rw [hsettings] at hread
      cases hread
  | ok t =>
      rw [hsettings] at hread
      change checkTotal t = .ok s at hread
      unfold checkTotal at hread
      split_ifs at hread with hhigh hlow
      obtain rfl := Except.ok.inj hread
      exact ⟨headers, hsettings, hlow, hhigh⟩

/-- Settings that are read are within their bounds. -/
theorem valid_of_read {src : Sources} {s : Settings Float} (h : read src = .ok s) : s.Valid := by
  obtain ⟨headers, hsettings, hlow, hhigh⟩ := read_eq_ok h
  obtain ⟨hport, htimeout, hconnect, hcooldown, hmost⟩ := Fields.settings_eq_ok hsettings
  exact {
    port := of_checkField (P := fun n => 1 ≤ n ∧ n ≤ 65535) hport (by decide)
      fun _ => bounds_of_readWholeIn
    timeout := of_checkField (P := fun t => 0.1 ≤ t ∧ t ≤ 8.0) htimeout (by decide)
      fun _ => bounds_of_readFloatIn
    connectTimeout := of_checkField (P := fun t => 0.1 ≤ t ∧ t ≤ 4.0) hconnect (by decide)
      fun _ => bounds_of_readFloatIn
    totalTimeout := ⟨hlow, hhigh⟩
    cooldownTime := of_checkField (P := fun t => 0.0 ≤ t ∧ t ≤ 3.0) hcooldown (by decide)
      fun _ => bounds_of_readFloatIn
    maxRequests := of_checkField (P := fun n => 1 ≤ n ∧ n ≤ 500) hmost (by decide)
      fun _ => bounds_of_readWholeIn }

end CachePurge.Settings
