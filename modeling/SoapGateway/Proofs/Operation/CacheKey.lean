import SoapGateway.Dispatcher
import SoapGateway.Proofs.Request

/-!
# Keys of the cache

A key is made of the name of the operation and the tolerantly read body, so bodies of different
octets may share one. Bodies that share a key and are both accepted ask for the same thing.
-/
namespace SoapGateway.Operation

open Json (Alike Steady)
open Utf8 (lossy)

theorem find?_name (o : Operation) : find? o.name = some o := by
  cases o <;> decide

theorem name_injective {o o' : Operation} (same : o.name = o'.name) : o = o' := by
  have found := find?_name o
  rw [same, find?_name o', Option.some.injEq] at found
  exact found.symm

theorem cacheKey_operation (o : Operation) (body : List UInt8) :
    (o.cacheKey body).operation = o.name := by
  unfold cacheKey
  split <;> rfl

theorem cacheKey_ttl {o : Operation} (policy : o.descriptor.policy = .ttl) (body : List UInt8) :
    o.cacheKey body = ⟨o.name, String.ofList (lossy body)⟩ := by
  rw [cacheKey, policy]
  rfl

theorem cacheKey_snapshot {o : Operation} (policy : o.descriptor.policy = .snapshot)
    (body : List UInt8) : o.cacheKey body = ⟨o.name, ""⟩ := by
  rw [cacheKey, policy]

theorem eq_of_cacheKey {o o' : Operation} {a b : List UInt8} (same : o.cacheKey a = o'.cacheKey b) :
    o = o' := by
  apply name_injective
  rw [← cacheKey_operation o a, same, cacheKey_operation]

/-- An operation that has one key for all bodies takes no members. -/
theorem request_snapshot {o : Operation} (policy : o.descriptor.policy = .snapshot) :
    o.descriptor.request = .empty := by
  cases o <;> first | rfl | cases policy

theorem alike_of_cacheKey {o : Operation} {a b : List UInt8} (policy : o.descriptor.policy = .ttl)
    (same : o.cacheKey a = o.cacheKey b) : Alike a b := by
  unfold cacheKey at same
  rw [policy] at same
  exact String.ofList_injective (CacheKey.mk.inj same).2

end SoapGateway.Operation

namespace SoapGateway.RequestShape

open Json (Reader Steady)

theorem reader_steady (shape : RequestShape) : Steady shape.reader := by
  cases shape with
  | empty => exact Reader.record_steady Reader.text_steady _ _ fun _ => .ok Request.empty
  | onDate => exact Reader.record_steady Reader.text_steady _ _ _
  | dateRange => exact Reader.record_steady Reader.text_steady _ _ _
  | currencyRange => exact Reader.record_steady Reader.text_steady _ _ _
  | directory =>
    exact Reader.record_steady Reader.flag_steady _ _ fun m =>
      .ok (Request.directory ((m.get? "Seld").getD false))

end SoapGateway.RequestShape

namespace SoapGateway

open Json (Alike)

/-- A body of blanks has only octets of ASCII, so no other body is alike. -/
theorem Request.orEmptyObject_alike {a b : List UInt8} (alike : Alike a b) :
    Alike (orEmptyObject a) (orEmptyObject b) := by
  have ascii : ∀ x : UInt8, Text.isAsciiBlank x = true → x.toNat < 0x80 := by
    intro x blank
    simp only [Text.isAsciiBlank, Bool.or_eq_true, beq_iff_eq] at blank
    rcases blank with (((rfl | rfl) | rfl) | rfl) | rfl <;> decide
  have same : ∀ {a b : List UInt8}, Alike a b → a.all Text.isAsciiBlank = true → a = b := by
    intro a b alike blank
    rw [List.all_eq_true] at blank
    obtain ⟨t, rfl, rest⟩ := Alike.append_ascii (s := []) (by rwa [List.append_nil])
      fun x member => ascii x (blank x member)
    rw [rest.nil, List.append_nil]
  by_cases blank : a.all Text.isAsciiBlank = true
  · rw [same alike blank]
    exact rfl
  · have blank' : ¬ b.all Text.isAsciiBlank = true := fun h => by
      rw [same alike.symm h] at h
      exact blank h
    unfold orEmptyObject
    rw [if_neg blank, if_neg blank']
    exact alike

/-- Alike bodies that are both accepted are the same request. -/
theorem Request.parse_agree {shape : RequestShape} {l : Layouts} {a b : List UInt8} {r r' : Request}
    (alike : Alike a b) (ha : parse shape l a = .ok r) (hb : parse shape l b = .ok r') : r = r' :=
  Json.Reader.document_agree shape.reader_steady (orEmptyObject_alike alike) (parse_ok ha).1
    (parse_ok hb).1

/-- The only request without members. -/
theorem Request.eq_empty_of_parse {l : Layouts} {body : List UInt8} {r : Request}
    (h : parse .empty l body = .ok r) : r = .empty := by
  have shape := shape_of_parse h
  cases r with
  | empty => rfl
  | _ => cases shape

/-- Bodies with one key that are both accepted are the same request. -/
theorem Operation.parse_agree {o : Operation} {l : Layouts} {a b : List UInt8} {r r' : Request}
    (same : o.cacheKey a = o.cacheKey b) (ha : o.parse l a = .ok r) (hb : o.parse l b = .ok r') :
    r = r' := by
  unfold Operation.parse at ha hb
  cases policy : o.descriptor.policy with
  | ttl => exact Request.parse_agree (alike_of_cacheKey policy same) ha hb
  | snapshot =>
    rw [request_snapshot policy] at ha hb
    rw [Request.eq_empty_of_parse ha, Request.eq_empty_of_parse hb]

end SoapGateway
