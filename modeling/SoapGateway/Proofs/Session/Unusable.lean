import SoapGateway.Proofs.Envelope
import SoapGateway.Proofs.Session.Runs

/-!
# Entries that are of no use

An entry may be under the key of a run and yet not answer it: because it claims to be of the future,
has reached the age at which results are fetched again, or is no response of the operation. Such a
run is the run that finds nothing under its key, down to what it leaves in a full cache.
-/
namespace SoapGateway

open Calendar (Instant)

/-- Whether an entry under the key of an operation cannot answer it. -/
def Operation.CannotUse (o : Operation) (now : Instant) (ttl : Nat) (e : CacheEntry Stored) :
    Prop :=
  now < e.createdAt ∨ (o.descriptor.policy = .ttl ∧ (ttl : Int) ≤ now - e.createdAt) ∨
    ∀ r, e.payload ≠ .response o r

namespace Cache

variable {α : Type} {c : Cache α} {k : CacheKey}

theorem erase_erase (c : Cache α) (k : CacheKey) : (c.erase k).erase k = c.erase k :=
  erase_absent (by rw [get?_erase, if_pos rfl])

/-- To replace an entry comes to the same as to drop it and store the new one: where it was, there
is room. -/
theorem put_erase {e : CacheEntry α} (bounded : c.Bounded) (entry : c.get? k = some e)
    (e' : CacheEntry α) :
    ∃ c', c.put k e' = .ok (true, c') ∧ (c.erase k).put k e' = .ok (false, c') := by
  have room : ¬ c.Refuses k := by
    rintro ⟨absent, _⟩
    rw [entry] at absent
    cases absent
  have made : ¬ (c.erase k).Refuses k := by
    rintro ⟨_, full⟩
    exact room ((bounded.full_erase_iff k).mp full)
  refine ⟨{ c with entries := (k, e') :: (c.erase k).entries }, ?_, ?_⟩
  · rw [put_ok room, contains, entry]
    rfl
  · rw [put_ok made, erase_erase, contains, get?_erase, if_pos rfl]
    rfl

end Cache

theorem Shelf.store_invalidate {s : Shelf} {o : Operation} {body : List UInt8}
    {e : CacheEntry Stored} (bounded : s.cache.Bounded)
    (entry : s.cache.get? (o.cacheKey body) = some e) (r : Response o.descriptor.response)
    (now : Instant) :
    (s.invalidate o body).2.store o body r now = s.store o body r now := by
  obtain ⟨cache, replaced, stored⟩ := Cache.put_erase bounded entry ⟨.response o r, now⟩
  rw [store, store, invalidate_cache, replaced, stored]
  rfl

namespace Dispatcher

variable {d : Dispatcher} {s : Shelf} {now : Instant} {o : Operation} {body : List UInt8}
  {e : CacheEntry Stored}

theorem lookup_of_cannotUse (entry : s.cache.get? (o.cacheKey body) = some e)
    (useless : o.CannotUse now d.ttl e) : d.lookup s now o body = none := by
  cases found : d.lookup s now o body with
  | none => rfl
  | some f =>
    obtain ⟨used, _, current⟩ := lookup_eq_some found
    obtain ⟨past, young⟩ := current_of_isOutdated current
    rw [entry] at used
    cases used
    rcases useless with future | ⟨policy, old⟩ | alien
    · exact absurd past (Int.not_le.mpr future)
    · exact absurd (young policy) (Int.not_lt.mpr old)
    · exact absurd rfl (alien f.payload)

/-- An ordinary run that finds nothing to use begins as it does without the entry, and ends before
its call only by failing. -/
theorem Beginning.of_missed {expired : Bool} {s' : Shelf} {b : Begun o}
    (begun : Beginning d s now o body expired .cached s' b)
    (missed : d.lookup s now o body = none) :
    s' = s ∧ (∀ f, b ≠ .finished (.ok f)) ∧
      Beginning d (s.invalidate o body).2 now o body expired .cached (s.invalidate o body).2 b := by
  have missing : (.cached : Mode) = .cached → d.lookup (s.invalidate o body).2 now o body = none :=
    fun _ => lookup_swept d s now o body
  cases begun with
  | expired => exact ⟨rfl, nofun, .expired .cached⟩
  | prohibited _ denied => exact ⟨rfl, nofun, .prohibited .cached denied⟩
  | refused allowed parsed => exact ⟨rfl, nofun, .refused allowed parsed⟩
  | hit _ _ found =>
    rw [missed] at found
    cases found
  | unwritten allowed parsed _ encoded =>
    exact ⟨rfl, nofun, .unwritten allowed parsed missing encoded⟩
  | calling allowed parsed _ encoded =>
    exact ⟨rfl, nofun, .calling allowed parsed missing encoded⟩

/-- Each way for the second half of a run to come out is the only one under its conditions. -/
theorem Finish.finish_eq {s' : Shelf} {expired : Bool} {outcome : CallOutcome} {result : Result o}
    (finished : Finish s now o body expired outcome s' result) :
    finish s now expired o body outcome = (s', result) := by
  unfold finish
  cases finished with
  | failed _ received => rw [received]
  | late received => rw [received]; rfl
  | done received => rw [received]; rfl

/-- A run ends with an entry under its key as it does without: a response replaces the entry or
takes its place, and a failure leaves it. -/
theorem Finish.of_entry {s' : Shelf} {expired : Bool} {outcome : CallOutcome} {result : Result o}
    (finished : Finish s now o body expired outcome s' result) (bounded : s.cache.Bounded)
    (entry : s.cache.get? (o.cacheKey body) = some e) :
    ∃ s'', Finish (s.invalidate o body).2 now o body expired outcome s'' result ∧
      (∀ f, result = .ok f → f.fromCache = false ∧ s' = s'') ∧
      (∀ f, result = .error f → s' = s) := by
  cases finished with
  | failed _ received => exact ⟨_, .failed _ received, nofun, fun _ _ => rfl⟩
  | late received => exact ⟨_, .late received, nofun, fun _ _ => rfl⟩
  | @done _ r received =>
    refine ⟨_, .done received, ?_, nofun⟩
    rintro f fetched
    cases fetched
    exact ⟨rfl, (Shelf.store_invalidate bounded entry r now).symm⟩

end Dispatcher

/-- The session without the entry of an operation and body. -/
def Session.without (w : Session) (o : Operation) (body : List UInt8) : Session :=
  { w with shelf := (w.shelf.invalidate o body).2 }

namespace Dispatcher

variable {d : Dispatcher} {w : Session} {o : Operation} {body : List UInt8} {e : CacheEntry Stored}

/-- In a cache within its capacity, an entry that is of the future, or has reached the age at which
the operation fetches again, or is no response of the operation, is as good as none: an ordinary run
makes the same call and comes to the same result as without it. A run that succeeds has fetched its
response and leaves the same session behind, even where the cache is full; one that fails leaves the
entry and everything else as it was. -/
theorem run_without_unusable (bounded : w.shelf.cache.Bounded)
    (entry : w.shelf.cache.get? (o.cacheKey body) = some e)
    (useless : o.CannotUse w.clock d.ttl e) (expired : Bool) (wait : SoapRequest → Awaited) :
    let ran := d.run w expired o body .cached wait
    let bare := d.run (w.without o body) expired o body .cached wait
    ran.result = bare.result ∧ ran.calls = bare.calls ∧
      (∀ f, ran.result = .ok f → f.fromCache = false ∧ ran.after = bare.after) ∧
      (∀ f, ran.result = .error f → ran.after.shelf = w.shelf) := by
  intro ran bare
  have missed := lookup_of_cannotUse entry useless
  have course := run_cases d w expired o body .cached wait
  generalize whole : d.run w expired o body .cached wait = served at course
  have same : ran = served := whole
  rw [same]
  cases course with
  | short begun =>
    obtain ⟨rfl, failing, begun'⟩ := begun.of_missed missed
    have other : bare = _ := run_of_beginning begun'
    rw [other]
    exact ⟨rfl, rfl, fun f done => absurd (congrArg Begun.finished done) (failing f),
      fun _ _ => rfl⟩
  | long begun finished =>
    obtain ⟨rfl, _, begun'⟩ := begun.of_missed missed
    obtain ⟨shelf, finished', stored, left⟩ := finished.of_entry bounded entry
    have other : bare = _ := run_of_calling begun'
    rw [finished'.finish_eq] at other
    rw [other]
    refine ⟨rfl, rfl, fun f done => ?_, left⟩
    obtain ⟨fetched, rfl⟩ := stored f done
    exact ⟨fetched, rfl⟩

/-- A basket of the future in the only place of a cache gives way to the one that is fetched. -/
theorem run_without_unusable_biCurBacket :
    let d : Dispatcher := { ttl := 60 }
    let key : CacheKey := ⟨"BiCurBacketXML", ""⟩
    let ahead : CacheEntry Stored := ⟨.response .biCurBacket (.rows []), 9⟩
    let payload : Response Operation.biCurBacket.descriptor.response :=
      .rows [⟨["2023", "0.45", ""], rfl⟩]
    let answer := Utf8.bytesOf
      "<BiCurBacket><BC><USD> 0.45 </USD><D0>2023</D0></BC></BiCurBacket>"
    let wait : SoapRequest → Awaited := fun _ => ⟨.answered answer, 7, false⟩
    let w : Session := ⟨⟨⟨1, [(key, ahead)]⟩, {}⟩, 5⟩
    let ran := d.run w false .biCurBacket [] .cached wait
    let bare := d.run (w.without .biCurBacket []) false .biCurBacket [] .cached wait
    ran.result = .ok ⟨payload, 7, false⟩ ∧ bare.result = ran.result ∧ bare.after = ran.after ∧
      bare.after.shelf.cache.entries = [(key, ⟨.response .biCurBacket payload, 7⟩)] := by
  intro d key ahead payload answer wait w ran bare
  have bounded : w.shelf.cache.Bounded := fun _ => Nat.le_refl 1
  have entry : w.shelf.cache.get? (Operation.biCurBacket.cacheKey []) = some ahead := by
    decide +kernel
  have useless : Operation.biCurBacket.CannotUse w.clock d.ttl ahead := .inl (by decide)
  have free : Text.occursIn Envelope.slotToken.toList
      (Xml.FlatElement.render ⟨Operation.biCurBacket.name, d.codec.xmlns, []⟩) = false := by
    decide +kernel
  have allowed : w.shelf.prohibits .biCurBacket = false := by decide
  have begun : Beginning d w.shelf w.clock .biCurBacket [] false .cached w.shelf (.calling _) :=
    .calling allowed rfl (fun _ => lookup_of_cannotUse entry useless) (Codec.encode_bare free)
  have whole : ran = _ := run_of_calling begun
  have fetched : ran.result = .ok ⟨payload, 7, false⟩ := by
    rw [whole]
    decide +kernel
  have all := run_without_unusable bounded entry useless false wait
  dsimp only at all
  -- The other run by its name: the kernel would evaluate both spellings to compare their results.
  have reaches : bare = d.run (w.without .biCurBacket []) false .biCurBacket [] .cached wait := rfl
  rw [← reaches] at all
  obtain ⟨results, _, stored, _⟩ := all
  have same : ran.after = bare.after := (stored _ fetched).2
  have left : ran.after.shelf.cache.entries = [(key, ⟨.response .biCurBacket payload, 7⟩)] := by
    rw [whole]
    decide +kernel
  exact ⟨fetched, results.symm, same.symm, same ▸ left⟩

end Dispatcher

end SoapGateway
