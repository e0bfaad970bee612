import PathHeader.Decimal.Shortest

/-! What a TOML document holds: values with the stretch of the document that wrote them, in tables
that keep the order in which their keys first appear. -/
namespace PathHeader.Toml

/-- A stretch of a document, by the number of characters left where it begins and where it ends. -/
structure Span where
  fromEnd : Nat
  toEnd : Nat
  deriving Repr, DecidableEq

/-- A key with the place where it was written; keys are the same when their texts are. -/
structure Key where
  text : Text
  span : Span
  deriving Repr, DecidableEq

/-- How a table came to be, which decides what may still be added to it. -/
inductive TableForm
  | inline
  | header
  | implied
  | dotted
  deriving Repr, DecidableEq

inductive Item
  | string (span : Span) (text : Text)
  | integer (span : Span) (value : Int)
  | float (span : Span) (value : Decimal.Binary64)
  | boolean (span : Span) (value : Bool)
  | moment (span : Span)
  | array (span : Span) (items : List Item)
  | table (form : TableForm) (span : Option Span) (entries : List (Key × Item))
  /-- An array of tables, each with its span, which begins with its header. -/
  | tables (elements : List (Span × List (Key × Item)))

abbrev Entries := List (Key × Item)

namespace Entries

def get? (entries : Entries) (key : Key) : Option Item :=
  (List.find? (fun entry => entry.1.text == key.text) entries).map Prod.snd

/-- The entries with another item under a key that they have. -/
def replace (entries : Entries) (key : Key) (item : Item) : Entries :=
  entries.map fun entry => if entry.1.text = key.text then (entry.1, item) else entry

def erase (entries : Entries) (key : Key) : Entries :=
  entries.filter fun entry => entry.1.text ≠ key.text

/-- The entries with a new key at the end, if they do not have it yet. -/
def insert? (entries : Entries) (key : Key) (item : Item) : Option Entries :=
  match entries.get? key with
  | some _ => none
  | none => some (entries ++ [(key, item)])

/-- Puts an item under a dotted key: `parents`, then `key`. Tables that are missing on the way are
made. Those made by dotted keys can be added to; those that a header implied can only be passed. -/
def insertDotted (entries : Entries) (parents : List Key) (key : Key) (item : Item) :
    Option Entries :=
  match parents with
  | [] => entries.insert? key item
  | parent :: parents =>
    match entries.get? parent with
    | none =>
      (insertDotted [] parents key item).map fun inner =>
        entries ++ [(parent, .table .dotted none inner)]
    | some (.table form span inner) =>
      if form = .inline ∨ form = .header then none
      else if form = .implied ∧ parents = [] then none
      else (insertDotted inner parents key item).map fun inner =>
        entries.replace parent (.table form span inner)
    | some (.tables elements) =>
      match parents, elements.getLast? with
      | [], _ => none
      | _, none => none
      | _, some (span, inner) =>
        (insertDotted inner parents key item).map fun inner =>
          entries.replace parent (.tables (elements.dropLast ++ [(span, inner)]))
    | some _ => none

/-- Acts on the table that the keys of a header lead to. Missing tables are implied by it, and an
array of tables stands for its last element. -/
def within {Answer : Type} (act : Entries → Option (Answer × Entries)) :
    List Key → Entries → Option (Answer × Entries)
  | [], entries => act entries
  | key :: keys, entries =>
    match entries.get? key with
    | none =>
      (within act keys []).map fun (answer, inner) =>
        (answer, entries ++ [(key, .table .implied none inner)])
    | some (.table form span inner) =>
      if form = .inline then none
      else (within act keys inner).map fun (answer, inner) =>
        (answer, entries.replace key (.table form span inner))
    | some (.tables elements) =>
      match elements.getLast? with
      | none => none
      | some (span, inner) =>
        (within act keys inner).map fun (answer, inner) =>
          (answer, entries.replace key (.tables (elements.dropLast ++ [(span, inner)])))
    | some _ => none

end Entries

end PathHeader.Toml
