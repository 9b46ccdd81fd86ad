import SoapGateway.Response
import SoapGateway.Xml.Escape
import SoapGateway.Xml.Forest

/-!
# Responses in documents

How a service writes a response: a child element for every row, in it a child element for every
field, and the text of the field with whatever characters of it replaced by references. A headline
indicator has its title and its date as attributes and its value as text. Elements without text may
be written as one tag, and the tags of rows and fields may carry attributes of their own.
-/
namespace SoapGateway.Response

open Xml (Forest Tag unescape)

/-- Content that stands for a text. -/
inductive Holds (s : String) : Forest → Prop
  | nothing (empty : s = "") : Holds s .nil
  | text {w : List Char} (reads : unescape w = .ok s.toList) : Holds s (.text w .nil)

inductive HasFields : List (String × String) → Forest → Prop
  | nil : HasFields [] .nil
  | single {key s : String} {tag : Tag} {more : List (String × String)} {rest : Forest}
    (named : tag.name = key.toList) (empty : s = "") (after : HasFields more rest) :
    HasFields ((key, s) :: more) (.single tag rest)
  | element {key s : String} {tag : Tag} {inner rest : Forest} {space : List Char}
    {more : List (String × String)} (named : tag.name = key.toList) (inside : Holds s inner)
    (after : HasFields more rest) : HasFields ((key, s) :: more) (.element tag inner space rest)

/-- Rows as elements of one name, one after the other. -/
inductive HasRows {fields : List String} (key : String) : List (Row fields) → Forest → Prop
  | nil : HasRows key [] .nil
  | cons {row : Row fields} {tag : Tag} {inner rest : Forest} {space : List Char}
    {more : List (Row fields)} (named : tag.name = key.toList)
    (inside : HasFields row.named inner) (after : HasRows key more rest) :
    HasRows key (row :: more) (.element tag inner space rest)

/-- A start tag with the title and the date of an indicator. -/
def HasIndicator (key : String) (i : Indicator) (tag : Tag) : Prop :=
  tag.name = key.toList ∧ ∃ title date, tag.attributes = [title, date] ∧
    title.name = "Title".toList ∧ unescape title.value = .ok i.title.toList ∧
    date.name = "Date".toList ∧ unescape date.value = .ok i.date.toList

inductive HasIndicators : List (String × Indicator) → Forest → Prop
  | nil : HasIndicators [] .nil
  | single {key : String} {i : Indicator} {tag : Tag} {more : List (String × Indicator)}
    {rest : Forest} (tagged : HasIndicator key i tag) (empty : i.value = "")
    (after : HasIndicators more rest) : HasIndicators ((key, i) :: more) (.single tag rest)
  | element {key : String} {i : Indicator} {tag : Tag} {inner rest : Forest} {space : List Char}
    {more : List (String × Indicator)} (tagged : HasIndicator key i tag)
    (inside : Holds i.value inner) (after : HasIndicators more rest) :
    HasIndicators ((key, i) :: more) (.element tag inner space rest)

def indicators (h : Headline) : List (String × Indicator) :=
  [("keyRate", h.keyRate), ("Inflation", h.inflation), ("stavka_ref", h.refinancingRate),
    ("GoldBaks", h.reserves)]

/-- The content of an element that stands for a response. -/
def HasContent : {s : Schema} → Response s → Forest → Prop
  | .listing _ _ tag _, rows rs, inner => HasRows tag rs inner
  | .headline, headline h, inner => HasIndicators (indicators h) inner

/-- An element that stands for a response, whatever its tag. -/
inductive Carries {s : Schema} (r : Response s) : Forest → Prop
  | single {tag : Tag} (content : HasContent r .nil) : Carries r (.single tag .nil)
  | element {tag : Tag} {inner : Forest} {space : List Char} (content : HasContent r inner) :
    Carries r (.element tag inner space .nil)

end SoapGateway.Response
