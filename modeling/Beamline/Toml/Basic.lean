/-!
TOML documents as trees. Each table remembers how it came to be, since that decides whether more
may be added to it: by a header, by naming a table inside of it, by a dotted key, or between
braces. A list of tables grows by headers, any other list is closed.
-/

namespace Beamline

inductive Origin where
  | header
  | implied
  | dotted
  | braces
  deriving DecidableEq, Repr

inductive Toml where
  | text (s : String)
  | integer (n : Int)
  | float (x : Float)
  | boolean (b : Bool)
  | moment (s : String)
  | list (isOpen : Bool) (items : List Toml)
  | table (origin : Origin) (entries : List (String × Toml))

namespace Toml

/-- The entries of a table, in the order in which they were first named. -/
abbrev Entries := List (String × Toml)

/-- Put `v` in the place of what `key` has. -/
def Entries.replace (key : String) (v : Toml) (es : Entries) : Entries :=
  es.map fun e => if e.1 == key then (key, v) else e

/-- Change the entries at the end of a path of headers. Tables on the way that do not exist are
implied; of an open list of tables the last one is meant. -/
def Entries.modifyAt : List String → (Entries → Option Entries) → Entries → Option Entries
  | [], f, es => f es
  | k :: ks, f, es =>
    match es.lookup k with
    | none => do
      let sub ← Entries.modifyAt ks f []
      return es ++ [(k, .table .implied sub)]
    | some (.table origin sub) =>
      if origin = .braces then none
      else do
        let sub ← Entries.modifyAt ks f sub
        return es.replace k (.table origin sub)
    | some (.list true items) =>
      match items.getLast? with
      | some (.table origin sub) => do
        let sub ← Entries.modifyAt ks f sub
        return es.replace k (.list true (items.dropLast ++ [.table origin sub]))
      | _ => none
    | some _ => none

/-- Whether dotted keys may go through a table, or end in it. -/
def Origin.isExtensible (origin : Origin) (isLast : Bool) : Bool :=
  match origin with
  | .dotted => true
  | .implied => !isLast
  | _ => false

/-- Give a value to a key that has none, at the end of a path of dotted keys. -/
def Entries.insert : List String → String → Toml → Entries → Option Entries
  | [], key, v, es => if (es.lookup key).isSome then none else some (es ++ [(key, v)])
  | k :: ks, key, v, es =>
    match es.lookup k with
    | none => do
      let sub ← Entries.insert ks key v []
      return es ++ [(k, .table .dotted sub)]
    | some (.table origin sub) =>
      if Origin.isExtensible origin ks.isEmpty then do
        let sub ← Entries.insert ks key v sub
        return es.replace k (.table origin sub)
      else none
    | some (.list true items) =>
      match items.getLast?, ks with
      | some (.table origin sub), _ :: _ => do
        let sub ← Entries.insert ks key v sub
        return es.replace k (.list true (items.dropLast ++ [.table origin sub]))
      | _, _ => none
    | some _ => none

/-- Open a table under a header. One that was only implied may be opened, once, and then counts as
named last. -/
def Entries.openTable (key : String) (es : Entries) : Option Entries :=
  match es.lookup key with
  | none => some (es ++ [(key, .table .header [])])
  | some (.table .implied sub) =>
    some (es.filter (fun e => e.1 != key) ++ [(key, .table .header sub)])
  | some _ => none

/-- Open one more table of a list. -/
def Entries.openItem (key : String) (es : Entries) : Option Entries :=
  match es.lookup key with
  | none => some (es ++ [(key, .list true [.table .header []])])
  | some (.list true items) => some (es.replace key (.list true (items ++ [.table .header []])))
  | some _ => none

end Toml
end Beamline
