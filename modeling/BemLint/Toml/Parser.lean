import BemLint.Toml.Scalar

/-!
# Reading TOML

A document is read statement by statement. Beside the tables read so far the reader keeps which
keys may not be used again: what is written inside brackets or braces is sealed with all below it,
and a table that has been opened by a header or by a dotted key is not opened again.
-/
namespace BemLint.Toml
open Text (Cursor)

/-- How deep values may be nested: an array takes two units and an inline table three. A unit is a
call on the stack, so the number depends on the callers; this one leaves room for a command. -/
def nestingLimit : Nat := 970

def isBareKeyChar (c : Char) : Bool :=
  Text.isAsciiDigit c || ('a' ≤ c && c ≤ 'z') || ('A' ≤ c && c ≤ 'Z') || c = '-' || c = '_'

def skipComment (c : Cursor) : Except Refusal Cursor :=
  match c.rest with
  | '#' :: rest => do
    let comment := rest.takeWhile (· ≠ '\n')
    demandLegal false (c.skip 1) comment
    return c.skip (comment.length + 1)
  | _ => .ok c

/-- Move past white space, line feeds and comments, which may stand anywhere in an array. -/
def skipFillerFrom (inComment : Bool) (offset : Nat) : Text → Except Refusal Cursor
  | [] => .ok ⟨offset, []⟩
  | c :: rest =>
    if c = '\n' then skipFillerFrom false (offset + 1) rest
    else if inComment then
      if isControl c then .error (.malformed (.invalidChar c) offset)
      else skipFillerFrom true (offset + 1) rest
    else if isSpace c then skipFillerFrom false (offset + 1) rest
    else if c = '#' then skipFillerFrom true (offset + 1) rest
    else .ok ⟨offset, c :: rest⟩

def skipFiller (c : Cursor) : Except Refusal Cursor := skipFillerFrom false c.offset c.rest

def readKeyPart (c : Cursor) : Except Refusal (Text × Cursor) :=
  match c.rest with
  | [] => refuse c .badKeyStart
  | first :: _ =>
    if isBareKeyChar first then .ok (c.rest.takeWhile isBareKeyChar, c.skipWhile isBareKeyChar)
    else if first = '"' ∨ first = '\'' then lineString first c
    else refuse c .badKeyStart

/-- A key with dots between its parts, and the white space after it. The fuel is greater than the
number of characters left. -/
def readKeyFrom : (fuel : Nat) → Cursor → Except Refusal (Key × Cursor)
  | 0, c => refuse c .badKeyStart
  | fuel + 1, c => do
    let (part, afterPart) ← readKeyPart c
    let here := afterPart.skipWhile isSpace
    match here.rest with
    | '.' :: _ =>
      let (parts, stop) ← readKeyFrom fuel ((here.skip 1).skipWhile isSpace)
      return (part :: parts, stop)
    | _ => return ([part], here)

def readKey (c : Cursor) : Except Refusal (Key × Cursor) := readKeyFrom (c.rest.length + 1) c

/-- A key up to where its value begins. -/
def readKeyEquals (c : Cursor) : Except Refusal (Key × Cursor) := do
  let (key, here) ← readKey c
  match here.rest with
  | '=' :: _ => return (key, (here.skip 1).skipWhile isSpace)
  | _ => refuse here .noEquals

/-- Whether a key or a part of the way to it is among the sealed ones. -/
def isSealed (sealedKeys : List Key) (key : Key) : Bool := sealedKeys.any fun s => isBelow key s

/-- The fields of an inline table with one more; the cursor stands after the value. -/
def addInline (fields : Fields) (sealedKeys : List Key) (key : Key) (value : Toml) (c : Cursor) :
    Except Refusal Fields :=
  let name := key.getLastD []
  if isSealed sealedKeys key then refuse c (.sealed key)
  else match tableAt? false key.dropLast fields with
    | none => refuse c .overwritten
    | some nest =>
      if (field? name nest).isSome then refuse c (.repeatedField name)
      else
        let put (fields : Fields) : Option Fields := some (setField name value fields)
        match editAt false put key.dropLast fields with
        | some fields => .ok fields
        | none => refuse c .overwritten

mutual

/-- A value at a cursor, with `depth` units of nesting around it. -/
def readValue : (fuel depth : Nat) → Cursor → Except Refusal (Toml × Cursor)
  | 0, _, c => refuse c .badValue
  | fuel + 1, depth, c =>
    match c.rest with
    | '"' :: _ => do
      let (s, stop) ← readString '"' c
      return (.str s, stop)
    | '\'' :: _ => do
      let (s, stop) ← readString '\'' c
      return (.str s, stop)
    | '[' :: _ => do
      if nestingLimit < depth + 2 then throw .tooDeep
      let inside ← skipFiller (c.skip 1)
      match inside.rest with
      | ']' :: _ => return (.arr [], inside.skip 1)
      | _ =>
        let (items, stop) ← readItems fuel (depth + 2) inside
        return (.arr items, stop)
    | '{' :: _ => do
      if nestingLimit < depth + 3 then throw .tooDeep
      let inside := (c.skip 1).skipWhile isSpace
      match inside.rest with
      | '}' :: _ => return (.table [], inside.skip 1)
      | _ =>
        let (fields, stop) ← readFields fuel (depth + 3) [] [] inside
        return (.table fields, stop)
    | _ => readPlain c

def readItems : (fuel depth : Nat) → Cursor → Except Refusal (List Toml × Cursor)
  | 0, _, c => refuse c .badValue
  | fuel + 1, depth, c => do
    let (item, afterItem) ← readValue fuel depth c
    let here ← skipFiller afterItem
    match here.rest with
    | ']' :: _ => return ([item], here.skip 1)
    | ',' :: _ =>
      let next ← skipFiller (here.skip 1)
      match next.rest with
      | ']' :: _ => return ([item], next.skip 1)
      | _ =>
        let (items, stop) ← readItems fuel depth next
        return (item :: items, stop)
    | _ => refuse here .openArray

/-- The fields of an inline table from the first on, up to its closing brace, added to those read;
what is written inside brackets or braces is sealed. -/
def readFields : (fuel depth : Nat) → Fields → (sealedKeys : List Key) → Cursor →
    Except Refusal (Fields × Cursor)
  | 0, _, _, _, c => refuse c .badValue
  | fuel + 1, depth, fields, sealedKeys, c => do
    let (key, valueStart) ← readKeyEquals c
    let (value, afterValue) ← readValue fuel depth valueStart
    let fields ← addInline fields sealedKeys key value afterValue
    let here := afterValue.skipWhile isSpace
    match here.rest with
    | '}' :: _ => return (fields, here.skip 1)
    | ',' :: _ =>
      let sealedKeys := if value.isContainer then key :: sealedKeys else sealedKeys
      readFields fuel depth fields sealedKeys ((here.skip 1).skipWhile isSpace)
    | _ => refuse here .openInlineTable

end

/-- A document as far as it has been read: its tables, the key of the latest header, and the keys
that may not be used again. Keys opened by dots count from the next header on. -/
structure Draft where
  fields : Fields
  header : Key
  sealedKeys : List Key
  openedKeys : List Key
  pendingKeys : List Key
deriving Repr

namespace Draft

def empty : Draft := ⟨[], [], [], [], []⟩

/-- Let the keys opened by dots count. -/
def settle (d : Draft) : Draft :=
  { d with openedKeys := d.pendingKeys ++ d.openedKeys, pendingKeys := [] }

def openTable (d : Draft) (key : Key) (c : Cursor) : Except Refusal Draft :=
  if d.openedKeys.contains key || isSealed d.sealedKeys key then refuse c (.declaredTwice key)
  else match editAt true some key d.fields with
    | none => refuse c .overwritten
    | some fields =>
      .ok { d with fields := fields, header := key, openedKeys := key :: d.openedKeys }

/-- Open the next table of a list of tables; what was said of keys below the list holds no more. -/
def openListTable (d : Draft) (key : Key) (c : Cursor) : Except Refusal Draft :=
  if isSealed d.sealedKeys key then refuse c (.sealed key)
  else match editAt true (addTable (key.getLastD [])) key.dropLast d.fields with
    | none => refuse c .overwritten
    | some fields =>
      .ok
        { d with
          fields := fields
          header := key
          sealedKeys := d.sealedKeys.filter fun k => !isBelow k key
          openedKeys := key :: d.openedKeys.filter fun k => !isBelow k key }

/-- The proper beginnings of a key, shortest first. -/
def beginnings (key : Key) : List Key :=
  (List.range (key.length - 1)).map fun i => key.take (i + 1)

/-- Give a field of the current table a value; the cursor stands after the value. -/
def assign (d : Draft) (key : Key) (value : Toml) (c : Cursor) : Except Refusal Draft :=
  let dotted := (beginnings key).map (d.header ++ ·)
  let whole := d.header ++ key
  let name := key.getLastD []
  match dotted.find? d.openedKeys.contains with
  | some reopened => refuse c (.reopened reopened)
  | none =>
    if isSealed d.sealedKeys whole.dropLast then refuse c (.sealed whole.dropLast)
    else match tableAt? true whole.dropLast d.fields with
      | none => refuse c .overwritten
      | some nest =>
        if (field? name nest).isSome then refuse c .overwritten
        else match editAt true (fun fields => some (setField name value fields)) whole.dropLast
            d.fields with
          | none => refuse c .overwritten
          | some fields =>
            .ok
              { d with
                fields := fields
                sealedKeys := if value.isContainer then whole :: d.sealedKeys else d.sealedKeys
                pendingKeys := dotted ++ d.pendingKeys }

end Draft

/-- A header whose key begins at a cursor, up to and past its closing brackets. -/
def readHeader (closing : String) (fault : Fault) (openIt : Key → Cursor → Except Refusal Draft)
    (c : Cursor) : Except Refusal (Draft × Cursor) := do
  let (key, here) ← readKey (c.skipWhile isSpace)
  let d ← openIt key here
  if here.at_ closing then return (d, here.skip closing.length) else refuse here fault

/-- The statement at a cursor, which is at no line end. -/
def readStatement (fuel : Nat) (d : Draft) (c : Cursor) : Except Refusal (Draft × Cursor) :=
  match c.rest with
  | '[' :: '[' :: _ => readHeader "]]" .openListHeader d.settle.openListTable (c.skip 2)
  | '[' :: _ => readHeader "]" .openTableHeader d.settle.openTable (c.skip 1)
  | '#' :: _ => .ok (d, c)
  | first :: _ =>
    if isBareKeyChar first || first = '"' || first = '\'' then do
      let (key, valueStart) ← readKeyEquals c
      let (value, afterValue) ← readValue fuel 0 valueStart
      let d ← d.assign key value afterValue
      return (d, afterValue)
    else refuse c .badStatement
  | [] => refuse c .badStatement

/-- The statements of a document from a cursor on. Each line takes a unit of fuel and at least one
character; values have fuel of their own. -/
def readStatements (valueFuel : Nat) : (fuel : Nat) → Draft → Cursor → Except Refusal Draft
  | 0, d, _ => .ok d
  | fuel + 1, d, c => do
    let here := c.skipWhile isSpace
    match here.rest with
    | [] => return d
    | '\n' :: _ => readStatements valueFuel fuel d (here.skip 1)
    | _ =>
      let (d, afterStatement) ← readStatement valueFuel d here
      let stop ← skipComment (afterStatement.skipWhile isSpace)
      match stop.rest with
      | [] => return d
      | '\n' :: _ => readStatements valueFuel fuel d (stop.skip 1)
      | _ => refuse stop .noLineEnd

def parse (source : Text) : Except Refusal Fields := do
  let d ← readStatements (2 * source.length + 2) (source.length + 1) .empty (Cursor.ofText source)
  return d.fields

end BemLint.Toml
