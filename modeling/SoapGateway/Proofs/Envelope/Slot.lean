import SoapGateway.Envelope
import SoapGateway.Proofs.Text.Pieces
import SoapGateway.Xml.Element

/-!
# The reserved token

A request is refused where its element holds the token of the slot. The token is made of capital
letters and underscores, so it can be there only if it was in a name or in a text before that was
escaped: neither markup nor an escape makes it, and none hides it.
-/
namespace SoapGateway.Envelope

open Xml (escapeText escapeAttribute FlatElement)

/-- A text without the token of the slot. -/
def IsFree (s : List Char) : Prop := ¬ slotToken.toList <:+: s

theorem isFree_iff {s : List Char} :
    IsFree s ↔ Text.occursIn slotToken.toList s = false := by
  rw [IsFree, ← Text.occursIn_iff, Bool.not_eq_true]

/-- A capital letter or an underscore. -/
def isTokenLetter (c : Char) : Bool := c == '_' || c.isUpper

theorem slotToken_letters : ∀ c ∈ slotToken.toList, isTokenLetter c = true := by
  rw [← List.all_eq_true]
  decide +kernel

theorem length_slotToken : slotToken.toList.length = 24 := by decide +kernel

theorem IsFree.join {u v : List Char} (left : IsFree u) {c : Char}
    (foreign : isTokenLetter c = false) (right : IsFree v) : IsFree (u ++ c :: v) := by
  intro found
  have absent : c ∉ slotToken.toList := by
    intro member
    rw [slotToken_letters c member] at foreign
    cases foreign
  exact (Text.infix_of_separated absent found).elim left right

theorem isFree_of_short {s : List Char} (short : s.length < 24) : IsFree s := by
  intro found
  have long := found.length_le
  rw [length_slotToken] at long
  omega

theorem keepsOrHides_text : Text.KeepsOrHides isTokenLetter Xml.escapeTextChar := by
  intro c
  unfold Xml.escapeTextChar
  split
  · exact .inr (by decide)
  · split
    · exact .inr (by decide)
    · split
      · exact .inr (by decide)
      · exact .inl rfl

theorem keepsOrHides_attribute : Text.KeepsOrHides isTokenLetter Xml.escapeAttributeChar := by
  intro c
  unfold Xml.escapeAttributeChar
  split
  · exact .inr (by decide)
  · exact keepsOrHides_text c

theorem IsFree.escapeText {s : List Char} (free : IsFree s) : IsFree (escapeText s) :=
  fun found => free (Text.infix_of_flatMap keepsOrHides_text slotToken_letters found)

theorem IsFree.escapeAttribute {s : List Char} (free : IsFree s) : IsFree (escapeAttribute s) :=
  fun found => free (Text.infix_of_flatMap keepsOrHides_attribute slotToken_letters found)

/-- A text element in front of others. -/
theorem isFree_renderField {field : String × String} {rest : List Char}
    (name : IsFree field.1.toList) (text : IsFree field.2.toList) (after : IsFree rest) :
    IsFree (FlatElement.renderField field ++ rest) := by
  unfold FlatElement.renderField
  have nothing : IsFree [] := isFree_of_short (by decide)
  split
  · have source : '<' :: field.1.toList ++ "/>".toList ++ rest =
        [] ++ '<' :: (field.1.toList ++ '/' :: ([] ++ '>' :: rest)) := by simp
    rw [source]
    exact nothing.join rfl (name.join rfl (nothing.join rfl after))
  · have source : '<' :: field.1.toList ++ '>' :: Xml.escapeText field.2.toList ++ "</".toList ++
        field.1.toList ++ ['>'] ++ rest =
        [] ++ '<' :: (field.1.toList ++ '>' :: (Xml.escapeText field.2.toList ++
          '<' :: ([] ++ '/' :: (field.1.toList ++ '>' :: rest)))) := by simp
    rw [source]
    exact nothing.join rfl (name.join rfl (text.escapeText.join rfl
      (nothing.join rfl (name.join rfl after))))

theorem isFree_fields {fields : List (String × String)} {rest : List Char}
    (free : ∀ f ∈ fields, IsFree f.1.toList ∧ IsFree f.2.toList) (after : IsFree rest) :
    IsFree (fields.flatMap FlatElement.renderField ++ rest) := by
  induction fields with
  | nil => exact after
  | cons field fields ih =>
    obtain ⟨name, text⟩ := free field List.mem_cons_self
    rw [List.flatMap_cons, List.append_assoc]
    exact isFree_renderField name text (ih fun f member => free f (List.mem_cons_of_mem _ member))

/-- An element whose names and texts do not have the token does not have it either. -/
theorem isFree_render {e : FlatElement} (name : IsFree e.name.toList)
    (xmlns : IsFree e.xmlns.toList) (free : ∀ f ∈ e.fields, IsFree f.1.toList ∧ IsFree f.2.toList) :
    IsFree e.render := by
  have nothing : IsFree [] := isFree_of_short (by decide)
  have declared : IsFree "xmlns=".toList := isFree_of_short (by decide)
  have value := xmlns.escapeAttribute
  unfold FlatElement.render
  dsimp only
  split
  · have source : '<' :: e.name.toList ++ " xmlns=\"".toList ++
        Xml.escapeAttribute e.xmlns.toList ++ ['"'] ++ "/>".toList =
        [] ++ '<' :: (e.name.toList ++ ' ' :: ("xmlns=".toList ++
          '"' :: (Xml.escapeAttribute e.xmlns.toList ++ '"' :: ([] ++ '/' :: ([] ++ '>' :: [])))))
        := by simp
    rw [source]
    exact nothing.join rfl (name.join rfl (declared.join rfl (value.join rfl
      (nothing.join rfl (nothing.join rfl nothing)))))
  · have ending : IsFree ('<' :: '/' :: (e.name.toList ++ ['>'])) :=
      nothing.join rfl (nothing.join rfl (name.join rfl nothing))
    have source : '<' :: e.name.toList ++ " xmlns=\"".toList ++
        Xml.escapeAttribute e.xmlns.toList ++ ['"'] ++
          '>' :: e.fields.flatMap FlatElement.renderField ++ "</".toList ++ e.name.toList ++ ['>'] =
        [] ++ '<' :: (e.name.toList ++ ' ' :: ("xmlns=".toList ++
          '"' :: (Xml.escapeAttribute e.xmlns.toList ++ '"' :: ([] ++
            '>' :: (e.fields.flatMap FlatElement.renderField ++
              '<' :: '/' :: (e.name.toList ++ ['>'])))))) := by simp
    rw [source]
    exact nothing.join rfl (name.join rfl (declared.join rfl (value.join rfl
      (nothing.join rfl (isFree_fields free ending)))))

end SoapGateway.Envelope
