import Mathlib.Data.List.Nodup
import SoapGateway.Settings.Key

/-!
# Keys stand apart

No two keys have the same path. What is put under a key is what stands there and nowhere else, and
settings with the same under all keys are the same.
-/
namespace SoapGateway.Settings.Key

theorem mem_all (k : Key) : k ∈ all := by cases k <;> decide

theorem path_injective : Function.Injective path := by
  have apart : (all.map path).Nodup := by decide +kernel
  exact fun k k' same => List.inj_on_of_nodup_map apart (mem_all k) (mem_all k') same

/-- A key is known by its section and its name there. -/
theorem eq_of_name {k k' : Key} (group : k.group = k'.group) (name : k.name = k'.name) : k = k' :=
  path_injective (by rw [path, path, group, name])

theorem get_put (k : Key) (v : k.kind.Carrier) (s : Settings) : k.get (k.put v s) = v := by
  cases k <;> rfl

theorem get_put_of_ne {k k' : Key} (other : k' ≠ k) (v : k.kind.Carrier) (s : Settings) :
    k'.get (k.put v s) = k'.get s := by
  cases k <;> cases k' <;> first | rfl | exact absurd rfl other

/-- Settings are what stands under the keys. -/
theorem ext_get {s s' : Settings} (same : ∀ k : Key, k.get s = k.get s') : s = s' := by
  have each : ∀ k ∈ all, k.get s = k.get s' := fun k _ => same k
  simp only [all, List.forall_mem_cons, get] at each
  obtain ⟨⟨_⟩, ⟨_, _, _, _⟩, ⟨_, _⟩, ⟨_, _⟩, ⟨_⟩, ⟨_⟩, ⟨_⟩, ⟨_, _, _, _⟩, ⟨_, _⟩⟩ := s
  obtain ⟨⟨_⟩, ⟨_, _, _, _⟩, ⟨_, _⟩, ⟨_, _⟩, ⟨_⟩, ⟨_⟩, ⟨_⟩, ⟨_, _, _, _⟩, ⟨_, _⟩⟩ := s'
  obtain ⟨rfl, rfl, rfl, rfl, rfl, rfl, rfl, rfl, rfl, rfl, rfl, rfl, rfl, rfl, rfl, rfl, rfl, rfl,
    -⟩ := each
  rfl

end SoapGateway.Settings.Key
