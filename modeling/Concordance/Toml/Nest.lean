import Concordance.Keyed
import Concordance.Toml.Basic
import Concordance.Toml.Marks

/-! Writing into nested tables along a path of names. Tables on the way that are missing are made;
with `throughLists` the last table of a list stands for the list. -/

namespace Concordance.Toml

/-- Changes the table at a path. There is none if another value stands in the way. -/
def within? (throughLists : Bool) (change : Entries → Option Entries) :
    Path → Entries → Option Entries
  | [], entries => change entries
  | key :: path, entries =>
    match lookup? key entries with
    | none => (within? throughLists change path []).map fun t => entries ++ [(key, .table t)]
    | some (.table t) =>
      (within? throughLists change path t).map fun t => Keyed.put key (.table t) entries
    | some (.arr items) =>
      match throughLists, items.getLast? with
      | true, some (.table t) =>
        (within? throughLists change path t).map fun t =>
          Keyed.put key (.arr (items.dropLast ++ [.table t])) entries
      | _, _ => none
    | some _ => none

def define? (key : String) (value : Toml) (entries : Entries) : Option Entries :=
  if (lookup? key entries).isSome then none else some (entries ++ [(key, value)])

def extend? (key : String) (entries : Entries) : Option Entries :=
  match lookup? key entries with
  | none => some (entries ++ [(key, .arr [.table []])])
  | some (.arr items) => some (Keyed.put key (.arr (items ++ [.table []])) entries)
  | some _ => none

end Concordance.Toml
