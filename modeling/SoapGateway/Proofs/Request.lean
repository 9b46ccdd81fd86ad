import SoapGateway.Proofs.Json.Agreement
import SoapGateway.Request
import SoapGateway.Xml.Forest

/-!
# Accepted requests

What is known of a request that was read from a body: it has the shape that was asked for, and it
writes the text elements that belong to that shape.
-/
namespace SoapGateway

open Json (Reader)

theorem Json.Reader.document_ok {α : Type} {r : Reader α} {input : List UInt8} {x : α}
    (success : document r input = .ok x) : ∃ rest, r input = .ok (x, rest) := by
  unfold document at success
  split at success
  · cases success
  · next y rest read =>
    split at success
    · cases success
      exact ⟨rest, read⟩
    · cases success

namespace Request

/-- The shape of the bodies that a request is read from. -/
def shape : Request → RequestShape
  | empty => .empty
  | onDate _ => .onDate
  | dateRange _ _ => .dateRange
  | currencyRange _ _ _ => .currencyRange
  | directory _ => .directory

theorem shape_of_reader {s : RequestShape} {input rest : List UInt8} {r : Request}
    (success : s.reader input = .ok (r, rest)) : r.shape = s := by
  unfold RequestShape.reader at success
  cases s with
  | empty =>
    obtain ⟨_, built⟩ := Reader.record_ok success
    cases built
    rfl
  | onDate =>
    obtain ⟨members, built⟩ := Reader.record_ok success
    cases date : members.need "OnDate" with
    | error e => rw [date] at built; cases built
    | ok d => rw [date] at built; cases built; rfl
  | dateRange =>
    obtain ⟨members, built⟩ := Reader.record_ok success
    split at built
    · cases built; rfl
    · cases built
    · cases built
  | currencyRange =>
    obtain ⟨members, built⟩ := Reader.record_ok success
    split at built
    · cases built; rfl
    · cases built
    · cases built
    · cases built
  | directory =>
    obtain ⟨_, built⟩ := Reader.record_ok success
    cases built
    rfl

theorem parse_ok {s : RequestShape} {l : Layouts} {body : List UInt8} {r : Request}
    (success : parse s l body = .ok r) :
    Reader.document s.reader (orEmptyObject body) = .ok r ∧ r.check l = .ok () := by
  unfold parse at success
  dsimp only at success
  split at success
  · cases success
  · next read =>
    split at success
    · cases success
    · next checked =>
      cases success
      exact ⟨read, checked⟩

theorem shape_of_parse {s : RequestShape} {l : Layouts} {body : List UInt8} {r : Request}
    (success : parse s l body = .ok r) : r.shape = s := by
  obtain ⟨rest, read⟩ := Reader.document_ok (parse_ok success).1
  exact shape_of_reader read

/-- The text elements that belong to a request: its dates in the layout of the remote service, its
currency code without the blanks around it, and its choice of a directory in words. -/
inductive Children (l : Layouts) : Request → List (String × String) → Prop
  | empty : Children l .empty []
  | onDate {date s : String} {day : Calendar.Date} (read : l.readDate "OnDate" date = .ok day)
      (written : l.writeDate day = .ok s) : Children l (.onDate date) [("On_date", s)]
  | dateRange {start stop s t : String} {first last : Calendar.Date}
      (readFirst : l.readDate "FromDate" start = .ok first)
      (readLast : l.readDate "ToDate" stop = .ok last)
      (writtenFirst : l.writeDate first = .ok s) (writtenLast : l.writeDate last = .ok t) :
      Children l (.dateRange start stop) [("fromDate", s), ("ToDate", t)]
  | currencyRange {start stop code s t : String} {first last : Calendar.Date}
      (readFirst : l.readDate "FromDate" start = .ok first)
      (readLast : l.readDate "ToDate" stop = .ok last)
      (writtenFirst : l.writeDate first = .ok s) (writtenLast : l.writeDate last = .ok t) :
      Children l (.currencyRange start stop code)
        [("FromDate", s), ("ToDate", t), ("ValutaCode", Text.trim code)]
  | monthly : Children l (.directory true) [("Seld", "true")]
  | daily : Children l (.directory false) [("Seld", "false")]

theorem readRange_ok {l : Layouts} {start stop : String} {a b : Calendar.Date}
    (success : readRange l start stop = .ok (a, b)) :
    l.readDate "FromDate" start = .ok a ∧ l.readDate "ToDate" stop = .ok b := by
  unfold readRange at success
  split at success
  · cases success
  · next first =>
    split at success
    · cases success
    · next last =>
      split at success
      · cases success
      · cases success
        exact ⟨first, last⟩

/-- The text elements that are written belong to the request. -/
theorem children_of_fields {l : Layouts} {r : Request} {children : List (String × String)}
    (success : r.fields l = .ok children) : r.Children l children := by
  unfold fields at success
  cases r with
  | empty =>
    cases success
    exact .empty
  | onDate date =>
    dsimp only at success
    split at success
    · cases success
    · next day read =>
      cases written : l.writeDate day with
      | error f => rw [written] at success; cases success
      | ok s =>
        rw [written] at success
        cases success
        exact .onDate read written
  | dateRange start stop =>
    dsimp only at success
    split at success
    · cases success
    · next first last range =>
      obtain ⟨readFirst, readLast⟩ := readRange_ok range
      split at success
      · next writtenFirst writtenLast =>
        cases success
        exact .dateRange readFirst readLast writtenFirst writtenLast
      · cases success
      · cases success
  | currencyRange start stop code =>
    dsimp only at success
    split at success
    · cases success
    · next first last range =>
      obtain ⟨readFirst, readLast⟩ := readRange_ok range
      split at success
      · next writtenFirst writtenLast =>
        cases success
        exact .currencyRange readFirst readLast writtenFirst writtenLast
      · cases success
      · cases success
  | directory monthly =>
    cases success
    cases monthly with
    | true => exact .monthly
    | false => exact .daily

/-- The names of text elements can be written. -/
theorem Children.names {l : Layouts} {r : Request} {children : List (String × String)}
    (belong : r.Children l children) : ∀ f ∈ children, Xml.isName f.1.toList = true := by
  have date : Xml.isName "On_date".toList = true := by decide
  have fromDate : Xml.isName "fromDate".toList = true := by decide
  have first : Xml.isName "FromDate".toList = true := by decide
  have last : Xml.isName "ToDate".toList = true := by decide
  have code : Xml.isName "ValutaCode".toList = true := by decide
  have directory : Xml.isName "Seld".toList = true := by decide
  cases belong with
  | empty => simp
  | onDate _ _ => simpa using date
  | dateRange _ _ _ _ => simpa using ⟨fromDate, last⟩
  | currencyRange _ _ _ _ => simpa using ⟨first, last, code⟩
  | monthly => simpa using directory
  | daily => simpa using directory

theorem write_eq {name : String} {l : Layouts} {r : Request} {children : List (String × String)}
    (given : r.fields l = .ok children) (named : Xml.checkName name = .ok ()) (xmlns : String) :
    r.write name xmlns l =
      .ok (String.ofList (Xml.FlatElement.render ⟨name, xmlns, children⟩)) := by
  rw [write, element, given]
  dsimp only
  rw [named]
  rfl

/-- A request is written as one flat element with the text elements that belong to it. -/
theorem write_ok {name xmlns fragment : String} {l : Layouts} {r : Request}
    (success : r.write name xmlns l = .ok fragment) :
    ∃ children, r.Children l children ∧ Xml.checkName name = .ok () ∧
      fragment = String.ofList (Xml.FlatElement.render ⟨name, xmlns, children⟩) := by
  unfold write element at success
  cases given : r.fields l with
  | error f => rw [given] at success; cases success
  | ok children =>
    rw [given] at success
    dsimp only at success
    cases named : Xml.checkName name with
    | error f => rw [named] at success; cases success
    | ok _ =>
      rw [named] at success
      cases success
      exact ⟨children, children_of_fields given, rfl, rfl⟩

end Request

end SoapGateway
