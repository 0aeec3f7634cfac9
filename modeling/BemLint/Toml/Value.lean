import BemLint.Decimal.Binary64
import BemLint.Text.Quoted

/-!
# TOML values

The values of TOML, and how a document grows: statements add to a table that is reached by a key
of several parts. On the way missing tables are made, and a list of tables stands for its last one.
-/
namespace BemLint

/-- A TOML value. Dates and times are kept as they are written. -/
inductive Toml where
  | str (value : Text)
  | int (value : Int)
  | float (value : Decimal.Binary64)
  | bool (value : Bool)
  | moment (written : Text)
  | arr (items : List Toml)
  | table (fields : List (Text × Toml))
deriving Repr, Inhabited

namespace Toml

abbrev Key := List Text

/-- A key as messages show it, as a list of its parts. -/
def keyText : Key → Text
  | [part] => '(' :: Text.quoted part ++ [',', ')']
  | parts => '(' :: Text.join [',', ' '] (parts.map Text.quoted) ++ [')']

def isBelow (key other : Key) : Bool :=
  match key, other with
  | _, [] => true
  | [], _ :: _ => false
  | k :: ks, o :: os => k = o && isBelow ks os

abbrev Fields := List (Text × Toml)

def field? (name : Text) : Fields → Option Toml
  | [] => none
  | (key, value) :: rest => if key = name then some value else field? name rest

/-- Give a field a value: in the place of the field of that name, else at the end. -/
def setField (name : Text) (value : Toml) : Fields → Fields
  | [] => [(name, value)]
  | (key, old) :: rest =>
    if key = name then (key, value) :: rest else (key, old) :: setField name value rest

/-- Change the table that a key leads to; tables that are missing on the way are made. Only where
`lists` allows it does a list stand for the table at its end. -/
def editAt (lists : Bool) (edit : Fields → Option Fields) : Key → Fields → Option Fields
  | [], fields => edit fields
  | name :: key, fields =>
    match field? name fields with
    | none => (editAt lists edit key []).map fun inner => setField name (.table inner) fields
    | some (.table inner) =>
      (editAt lists edit key inner).map fun inner => setField name (.table inner) fields
    | some (.arr items) =>
      match lists, items.getLast? with
      | true, some (.table inner) =>
        (editAt lists edit key inner).map fun inner =>
          setField name (.arr (items.dropLast ++ [.table inner])) fields
      | _, _ => none
    | some _ => none

/-- The table that a key leads to, empty when nothing is there. -/
def tableAt? (lists : Bool) : Key → Fields → Option Fields
  | [], fields => some fields
  | name :: key, fields =>
    match field? name fields with
    | none => some []
    | some (.table inner) => tableAt? lists key inner
    | some (.arr items) =>
      match lists, items.getLast? with
      | true, some (.table inner) => tableAt? lists key inner
      | _, _ => none
    | some _ => none

/-- Add an empty table to the end of a list, which is made if it is missing. -/
def addTable (name : Text) (fields : Fields) : Option Fields :=
  match field? name fields with
  | none => some (setField name (.arr [.table []]) fields)
  | some (.arr items) => some (setField name (.arr (items ++ [.table []])) fields)
  | some _ => none

def isContainer : Toml → Bool
  | .arr _ | .table _ => true
  | _ => false

end Toml
end BemLint
