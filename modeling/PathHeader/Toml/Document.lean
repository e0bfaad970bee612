import PathHeader.Toml.Value

/-! A document as a whole: lines that put values into a table, and headers that say which table.
The table of a header is kept aside while it is filled, and takes its place among the others, at
the end of the table that holds it, when the next header begins. -/
namespace PathHeader.Toml

/-- A table that is being filled: its header's keys, whether it is an element of an array of
tables, the stretch from its header to its last value so far, and what it holds. -/
structure Section where
  parents : List Key
  key : Key
  isElement : Bool
  span : Span
  entries : Entries

namespace Section

/-- What a new table starts with, and the rest of the table that is to hold it. A table that headers
have so far only implied goes on with what it has; any other may not be named again. -/
def openTable (key : Key) (holder : Entries) : Option (Entries × Entries) :=
  match holder.get? key with
  | none => some ([], holder)
  | some (.table .implied _ entries) => some (entries, holder.erase key)
  | some _ => none

/-- The same for a new element of an array of tables, which keeps the array's place. -/
def openElement (key : Key) (holder : Entries) : Option (Entries × Entries) :=
  match holder.get? key with
  | none => some ([], holder ++ [(key, .tables [])])
  | some (.tables _) => some ([], holder)
  | some _ => none

def close (s : Section) (holder : Entries) : Option (Unit × Entries) :=
  if s.isElement then
    match holder.get? s.key with
    | some (.tables elements) =>
      some ((), holder.replace s.key (.tables (elements ++ [(s.span, s.entries)])))
    | _ => none
  else some ((), holder ++ [(s.key, .table .header (some s.span) s.entries)])

end Section

/-- The tables that are finished, and the one that is being filled unless it is the outermost. -/
structure Assembly where
  root : Entries
  current : Option Section

namespace Assembly

def finish (a : Assembly) : Option Entries :=
  match a.current with
  | none => some a.root
  | some s => (a.root.within s.close s.parents).map Prod.snd

/-- Ends the current table and begins the one that the keys name. -/
def begin (a : Assembly) (isElement : Bool) (keys : List Key × Key) (span : Span) :
    Option Assembly := do
  let root ← a.finish
  let start := if isElement then Section.openElement keys.2 else Section.openTable keys.2
  let (entries, root) ← root.within start keys.1
  some ⟨root, some ⟨keys.1, keys.2, isElement, span, entries⟩⟩

/-- A header of a table, or in double brackets of an element of an array of tables. -/
def header? (a : Assembly) (t : Text) : Option (Assembly × Text) :=
  match t with
  | '[' :: '[' :: rest => do
    let (keys, rest) ← key? rest
    let rest ← expect? ']' rest
    let rest ← expect? ']' rest
    let a ← a.begin true keys ⟨t.length, rest.length⟩
    some (a, rest)
  | '[' :: rest => do
    let (keys, rest) ← key? rest
    let rest ← expect? ']' rest
    let a ← a.begin false keys ⟨t.length, rest.length⟩
    some (a, rest)
  | _ => none

/-- A value for the current table, which from now on reaches to the value's end. -/
def assign? (a : Assembly) (t : Text) : Option (Assembly × Text) :=
  match a.current with
  | none => (member? value? a.root t).map fun (root, rest) => (⟨root, none⟩, rest)
  | some s =>
    (member? value? s.entries t).map fun (entries, rest) =>
      (⟨a.root, some { s with entries, span := ⟨s.span.fromEnd, rest.length⟩ }⟩, rest)

/-- Reads the lines that are left. Every line takes a character, so `fuel` of the text's length is
enough. -/
def lines? : (fuel : Nat) → Assembly → Text → Option Assembly
  | 0, _, _ => none
  | fuel + 1, a, t =>
    if t = [] then some a
    else match lineEnd? t with
    | some rest => lines? fuel a rest
    | none => do
      let ahead := skipWs t
      let (a, rest) ← if ['['].isPrefixOf ahead then a.header? ahead else a.assign? ahead
      let rest ← lineEnd? rest
      lines? fuel a rest

end Assembly

/-- What a document holds, or nothing if it is malformed. A byte order mark may come first. -/
def parse? (document : Text) : Option Entries := do
  let body := match document with
    | '\ufeff' :: rest => rest
    | t => t
  let a ← Assembly.lines? (body.length + 1) ⟨[], none⟩ body
  a.finish

end PathHeader.Toml
