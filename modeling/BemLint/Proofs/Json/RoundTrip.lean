import BemLint.Proofs.Json.Numbers

/-!
# Values of JSON, written and read

A printed value is read back from any place, also with more text after it. The reader needs fuel in
proportion to the printed text, which is less than what `parse` gives it, and levels of nesting up
to its limit. Double-precision numbers are left out, and an object must not name a field twice.
-/
namespace BemLint.Json
open Text (Cursor)

mutual

/-- The values that are read back as they are written. -/
def Plain : Json → Prop
  | .null | .bool _ | .str _ => True
  | .int n => n.natAbs < 10 ^ Decimal.digitLimit
  | .float _ => False
  | .arr items => PlainItems items
  | .obj fields => (fields.map Prod.fst).Nodup ∧ PlainFields fields

def PlainItems : List Json → Prop
  | [] => True
  | item :: items => Plain item ∧ PlainItems items

def PlainFields : List (Text × Json) → Prop
  | [] => True
  | (_, value) :: fields => Plain value ∧ PlainFields fields

end

mutual

/-- How many values lie around the innermost one. -/
def height : Json → Nat
  | .arr items => 1 + heightItems items
  | .obj fields => 1 + heightFields fields
  | _ => 0

def heightItems : List Json → Nat
  | [] => 0
  | item :: items => max (height item) (heightItems items)

def heightFields : List (Text × Json) → Nat
  | [] => 0
  | (_, value) :: fields => max (height value) (heightFields fields)

end

def itemsText (level : Nat) : List Json → Text
  | [] => []
  | item :: items => write .unicode level item ++ writeItems .unicode level items

theorem plainItems_iff (items : List Json) : PlainItems items ↔ ∀ item ∈ items, Plain item := by
  induction items with
  | nil => simp [PlainItems]
  | cons item items ih => simp [PlainItems, ih]

theorem heightItems_le {items : List Json} {bound : Nat}
    (each : ∀ item ∈ items, height item ≤ bound) : heightItems items ≤ bound := by
  induction items with
  | nil => exact Nat.zero_le bound
  | cons item items ih =>
    rw [heightItems]
    exact Nat.max_le.mpr ⟨each item (by simp), ih fun other member => each other (by simp [member])⟩

def fieldText (level : Nat) (name : Text) (value : Json) : Text :=
  '"' :: (name.flatMap (writeChar .unicode) ++ '"' :: ':' :: ' ' :: write .unicode level value)

def fieldsText (level : Nat) : List (Text × Json) → Text
  | [] => []
  | (name, value) :: fields => fieldText level name value ++ writeFields .unicode level fields

theorem skip_one (offset : Nat) (c : Char) (rest : Text) :
    (Cursor.mk offset (c :: rest)).skip 1 = ⟨offset + 1, rest⟩ := rfl

theorem skipSpace_gap (gap s : Text) (offset : Nat) (spaces : ∀ c ∈ gap, isSpace c = true)
    (front : ∀ c ∈ s.head?, isSpace c = false) :
    ∃ next, skipSpace ⟨offset, gap ++ s⟩ = ⟨next, s⟩ := by
  have dropped : (gap ++ s).dropWhile isSpace = s := by
    rw [List.dropWhile_append_of_pos spaces]
    cases s with
    | nil => rfl
    | cons c s => simp [front c (by simp)]
  exact ⟨_, by rw [skipSpace, Cursor.skipWhile, dropped]⟩

theorem skipSpace_front (s : Text) (offset : Nat) (front : ∀ c ∈ s.head?, isSpace c = false) :
    ∃ next, skipSpace ⟨offset, s⟩ = ⟨next, s⟩ :=
  skipSpace_gap [] s offset (by simp) front

theorem newline_spaces (level : Nat) : ∀ c ∈ newline level, isSpace c = true := by
  intro c member
  rcases List.mem_cons.mp member with rfl | member
  · rfl
  · rw [(List.mem_replicate.mp member).2]
    rfl

/-- No printed value begins with a space, a closing bracket or a byte order mark. -/
theorem write_head (j : Json) (level : Nat) (plain : Plain j) :
    ∃ c rest, write .unicode level j = c :: rest ∧ isSpace c = false ∧ c ≠ ']' ∧
      c ≠ '\uFEFF' := by
  match j with
  | .null => exact ⟨'n', _, rfl, rfl, by decide, by decide⟩
  | .bool true => exact ⟨'t', _, rfl, rfl, by decide, by decide⟩
  | .bool false => exact ⟨'f', _, rfl, rfl, by decide, by decide⟩
  | .str s => exact ⟨'"', _, rfl, rfl, by decide, by decide⟩
  | .arr [] => exact ⟨'[', _, rfl, rfl, by decide, by decide⟩
  | .arr (_ :: _) => exact ⟨'[', _, rfl, rfl, by decide, by decide⟩
  | .obj [] => exact ⟨'\x7b', _, rfl, rfl, by decide, by decide⟩
  | .obj ((_, _) :: _) => exact ⟨'\x7b', _, rfl, rfl, by decide, by decide⟩
  | .float _ => exact absurd plain (by simp [Plain])
  | .int n =>
    obtain ⟨c, rest, e, head⟩ := ofInt_head n
    refine ⟨c, rest, e, ?_⟩
    rcases head with isDigit | ⟨rfl, _⟩
    · constructor
      · rw [Bool.eq_false_iff]
        intro space
        simp only [isSpace, Bool.or_eq_true, decide_eq_true_eq] at space
        rcases space with ((rfl | rfl) | rfl) | rfl <;> exact absurd isDigit (by decide)
      · constructor <;> rintro rfl <;> exact absurd isDigit (by decide)
    · exact ⟨rfl, by decide, by decide⟩

/-- A value that is no string, object or array. -/
theorem readValue_scalar (fuel depth offset : Nat) (c : Char) (rest : Text) (notString : c ≠ '"')
    (notObject : c ≠ '\x7b') (notArray : c ≠ '[') :
    readValue (fuel + 1) depth ⟨offset, c :: rest⟩ = readScalar ⟨offset, c :: rest⟩ := by
  rw [readValue.eq_2]
  split <;> simp_all


theorem skipSpace_newline (level offset : Nat) (s : Text)
    (front : ∀ c ∈ s.head?, isSpace c = false) :
    ∃ next, skipSpace ⟨offset, newline level ++ s⟩ = ⟨next, s⟩ :=
  skipSpace_gap (newline level) s offset (newline_spaces level) front

/-! ## Lists of values -/

theorem itemsText_head (level : Nat) (items : List Json) (some : items ≠ [])
    (plain : PlainItems items) (rest : Text) :
    ∃ c text, itemsText level items ++ rest = c :: text ∧ isSpace c = false ∧ c ≠ ']' := by
  match items with
  | item :: items =>
    obtain ⟨c, text, e, head⟩ := write_head item level plain.1
    exact ⟨c, _, by rw [itemsText, e, List.cons_append, List.cons_append], head.1, head.2.1⟩

theorem write_arr (level : Nat) (items : List Json) (some : items ≠ []) (tail : Text) :
    write .unicode level (.arr items) ++ tail = '[' :: (newline (level + 1) ++
      (itemsText (level + 1) items ++ (newline level ++ ']' :: tail))) := by
  match items with
  | item :: items => simp [write, itemsText]

theorem itemsText_cons (level : Nat) (item : Json) (items : List Json) (some : items ≠ [])
    (rest : Text) :
    itemsText level (item :: items) ++ rest = write .unicode level item ++
      (',' :: (newline level ++ (itemsText level items ++ rest))) := by
  match items with
  | next :: items => simp [itemsText, writeItems]

section Array

variable {fuel depth level offset : Nat} {items : List Json} {item : Json} {tail rest : Text}

/-- An array is read when its items are. -/
theorem reads_array (some : items ≠ []) (plain : PlainItems items) (room : depth < nestingLimit)
    (inside : ∀ next, Reads (readItems fuel (depth + 1)
      ⟨next, itemsText (level + 1) items ++ (newline level ++ ']' :: tail)⟩) items tail) :
    Reads (readValue (fuel + 1) depth ⟨offset, write .unicode level (.arr items) ++ tail⟩)
      (.arr items) tail := by
  obtain ⟨c, text, e, notSpace, notClosed⟩ :=
    itemsText_head (level + 1) items some plain (newline level ++ ']' :: tail)
  rw [e] at inside
  obtain ⟨next, skipped⟩ :=
    skipSpace_newline (level + 1) (offset + 1) (c :: text) (by simpa using notSpace)
  obtain ⟨stop, read⟩ := inside next
  rw [write_arr level items some, e, readValue.eq_2]
  simp only [skip_one, if_neg (Nat.not_le.mpr room), skipped]
  split
  next same => exact absurd (List.cons.inj same).1 notClosed
  next => exact ⟨stop, by simp [read, bind, Except.bind]⟩

/-- The last item, before the closing bracket. -/
theorem reads_lastItem {close : Nat}
    (read : ∀ after, Stops after →
      Reads (readValue fuel depth ⟨offset, write .unicode level item ++ after⟩) item after) :
    Reads (readItems (fuel + 1) depth
      ⟨offset, itemsText level [item] ++ (newline close ++ ']' :: tail)⟩) [item] tail := by
  obtain ⟨stop, read⟩ := read (newline close ++ ']' :: tail) (by simp [Stops, newline])
  obtain ⟨next, skipped⟩ := skipSpace_newline close stop (']' :: tail) (by simp [isSpace])
  rw [itemsText, writeItems, List.append_nil]
  exact ⟨next + 1, by simp [readItems.eq_2, read, skipped, bind, Except.bind, skip_one]⟩

/-- An item with others after it. -/
theorem reads_nextItem (some : items ≠ []) (plain : PlainItems items)
    (read : ∀ after, Stops after →
      Reads (readValue fuel depth ⟨offset, write .unicode level item ++ after⟩) item after)
    (more : ∀ next, Reads (readItems fuel depth ⟨next, itemsText level items ++ rest⟩) items tail) :
    Reads (readItems (fuel + 1) depth ⟨offset, itemsText level (item :: items) ++ rest⟩)
      (item :: items) tail := by
  have read := read (',' :: (newline level ++ (itemsText level items ++ rest))) (by simp [Stops])
  rw [← itemsText_cons level item items some] at read
  obtain ⟨stop, read⟩ := read
  obtain ⟨d, text, e, notSpace, -⟩ := itemsText_head level items some plain rest
  rw [e] at read more
  obtain ⟨here, atComma⟩ :=
    skipSpace_front (',' :: (newline level ++ d :: text)) stop (by simp [isSpace])
  obtain ⟨next, skipped⟩ := skipSpace_newline level (here + 1) (d :: text) (by simpa using notSpace)
  obtain ⟨last, readMore⟩ := more next
  exact ⟨last, by
    simp [readItems.eq_2, read, atComma, skipped, readMore, bind, Except.bind, skip_one]⟩

end Array

/-! ## Lists of fields -/

theorem fieldsText_head (level : Nat) (fields : List (Text × Json)) (some : fields ≠ [])
    (rest : Text) : ∃ text, fieldsText level fields ++ rest = '"' :: text := by
  match fields with
  | (name, value) :: fields => exact ⟨_, rfl⟩

theorem write_obj (level : Nat) (fields : List (Text × Json)) (some : fields ≠ []) (tail : Text) :
    write .unicode level (.obj fields) ++ tail = '\x7b' :: (newline (level + 1) ++
      (fieldsText (level + 1) fields ++ (newline level ++ '\x7d' :: tail))) := by
  match fields with
  | (name, value) :: fields => simp [write, writeString, fieldsText, fieldText]

theorem fieldsText_cons (level : Nat) (name : Text) (value : Json) (fields : List (Text × Json))
    (some : fields ≠ []) (rest : Text) :
    fieldsText level ((name, value) :: fields) ++ rest = fieldText level name value ++
      (',' :: (newline level ++ (fieldsText level fields ++ rest))) := by
  match fields with
  | (next, other) :: fields => simp [fieldsText, fieldText, writeFields, writeString]

/-- A field of a new name goes to the end. -/
theorem setField_append (name : Text) (value : Json) (fields : List (Text × Json))
    (new : name ∉ fields.map Prod.fst) :
    setField name value fields = fields ++ [(name, value)] := by
  induction fields with
  | nil => rfl
  | cons field fields ih =>
    obtain ⟨key, old⟩ := field
    rw [List.map_cons, List.mem_cons, not_or] at new
    rw [setField, if_neg (Ne.symm new.1), ih new.2, List.cons_append]

section Object

variable {fuel depth level offset : Nat} {fields all : List (Text × Json)} {name : Text}
  {value : Json} {tail rest : Text}

/-- An object is read when its fields are. -/
theorem reads_object (some : fields ≠ []) (room : depth < nestingLimit)
    (inside : ∀ next, Reads (readFields fuel (depth + 1) []
      ⟨next, fieldsText (level + 1) fields ++ (newline level ++ '\x7d' :: tail)⟩) fields tail) :
    Reads (readValue (fuel + 1) depth ⟨offset, write .unicode level (.obj fields) ++ tail⟩)
      (.obj fields) tail := by
  obtain ⟨text, e⟩ := fieldsText_head (level + 1) fields some (newline level ++ '\x7d' :: tail)
  rw [e] at inside
  obtain ⟨next, skipped⟩ :=
    skipSpace_newline (level + 1) (offset + 1) ('"' :: text) (by simp [isSpace])
  obtain ⟨stop, read⟩ := inside next
  rw [write_obj level fields some, e, readValue.eq_2]
  simp only [skip_one, if_neg (Nat.not_le.mpr room), skipped]
  exact ⟨stop, by simp [read, bind, Except.bind]⟩

/-- What is read after a field: others, or the closing brace. -/
def readAfterField (fuel depth : Nat) (fields : List (Text × Json)) (here : Cursor) :
    Except Refusal (List (Text × Json) × Cursor) :=
  match here.rest with
  | '\x7d' :: _ => .ok (fields, here.skip 1)
  | ',' :: _ => readFields fuel depth fields (skipSpace (here.skip 1))
  | _ => refuse here .noComma

/-- The name and the value of a field are read up to the text after them. -/
theorem readFields_field (offset : Nat) (fields : List (Text × Json)) (name : Text)
    (plain : Plain value) (read : ∀ next,
      Reads (readValue fuel depth ⟨next, write .unicode level value ++ rest⟩) value rest) :
    ∃ stop, readFields (fuel + 1) depth fields ⟨offset, fieldText level name value ++ rest⟩ =
      readAfterField fuel depth (setField name value fields) (skipSpace ⟨stop, rest⟩) := by
  obtain ⟨c, text, e, notSpace, -⟩ := write_head value level plain
  have e : write .unicode level value ++ rest = c :: (text ++ rest) := by rw [e, List.cons_append]
  obtain ⟨afterName, readName⟩ :=
    reads_string name (':' :: ' ' :: (write .unicode level value ++ rest)) (offset + 1)
  obtain ⟨colon, atColon⟩ := skipSpace_front (':' :: ' ' :: (write .unicode level value ++ rest))
    afterName (by simp [isSpace])
  obtain ⟨next, atValue⟩ := skipSpace_gap [' '] (write .unicode level value ++ rest) (colon + 1)
    (by simp [isSpace]) (by simpa [e] using notSpace)
  obtain ⟨stop, readValue⟩ := read next
  refine ⟨stop, ?_⟩
  have written : fieldText level name value ++ rest = '"' :: (name.flatMap (writeChar .unicode) ++
      '"' :: ':' :: ' ' :: (write .unicode level value ++ rest)) := by simp [fieldText]
  rw [List.singleton_append] at atValue
  rw [written, readFields.eq_2]
  simp only [skip_one, readName, bind, Except.bind, atColon, atValue, readValue]
  rfl

/-- The last field, before the closing brace. -/
theorem reads_lastField {close : Nat} (plain : Plain value) (new : name ∉ fields.map Prod.fst)
    (read : ∀ next after, Stops after →
      Reads (readValue fuel depth ⟨next, write .unicode level value ++ after⟩) value after) :
    Reads (readFields (fuel + 1) depth fields
        ⟨offset, fieldsText level [(name, value)] ++ (newline close ++ '\x7d' :: tail)⟩)
      (fields ++ [(name, value)]) tail := by
  have read := fun next => read next (newline close ++ '\x7d' :: tail) (by simp [Stops, newline])
  obtain ⟨stop, step⟩ := readFields_field offset fields name plain read
  obtain ⟨here, atBrace⟩ := skipSpace_newline close stop ('\x7d' :: tail) (by simp [isSpace])
  rw [setField_append name value fields new] at step
  rw [fieldsText, writeFields, List.append_nil]
  exact ⟨here + 1, by simp [step, readAfterField, atBrace, skip_one]⟩

/-- A field with others after it. -/
theorem reads_nextField {later : List (Text × Json)} (some : later ≠ []) (plain : Plain value)
    (new : name ∉ fields.map Prod.fst)
    (read : ∀ next after, Stops after →
      Reads (readValue fuel depth ⟨next, write .unicode level value ++ after⟩) value after)
    (more : ∀ next, Reads (readFields fuel depth (fields ++ [(name, value)])
      ⟨next, fieldsText level later ++ rest⟩) all tail) :
    Reads (readFields (fuel + 1) depth fields
      ⟨offset, fieldsText level ((name, value) :: later) ++ rest⟩) all tail := by
  have read := fun next => read next (',' :: (newline level ++ (fieldsText level later ++ rest)))
    (by simp [Stops])
  obtain ⟨text, e⟩ := fieldsText_head level later some rest
  obtain ⟨stop, step⟩ := readFields_field offset fields name plain read
  obtain ⟨here, atComma⟩ := skipSpace_front
    (',' :: (newline level ++ (fieldsText level later ++ rest))) stop (by simp [isSpace])
  obtain ⟨next, skipped⟩ := skipSpace_newline level (here + 1) (fieldsText level later ++ rest)
    (by simp [e, isSpace])
  obtain ⟨last, readMore⟩ := more next
  rw [setField_append name value fields new] at step
  rw [fieldsText_cons level name value later some]
  exact ⟨last, by simp [step, readAfterField, atComma, skipped, readMore, skip_one]⟩

end Object

/-! ## Values -/

theorem fieldText_length (level : Nat) (name : Text) (value : Json) :
    (write .unicode level value).length < (fieldText level name value).length := by
  simp only [fieldText, List.length_cons, List.length_append]
  omega

theorem name_new {before fields : List (Text × Json)} {name : Text} {value : Json}
    (distinct : ((before ++ (name, value) :: fields).map Prod.fst).Nodup) :
    name ∉ before.map Prod.fst := by
  rw [List.map_append, List.nodup_append] at distinct
  exact fun member => distinct.2.2 name member name (by simp) rfl

-- The three recursions are those of the printer. Fuel is paid for by printed characters, two units
-- each: a list adds a bracket or a comma to what its first value costs, and an array or an object
-- two brackets more. Nesting is paid for by `height`.
mutual

/-- A written value is read back, and what comes after it is left. -/
theorem reads_value (j : Json) (fuel depth level offset : Nat) (tail : Text) (plain : Plain j)
    (shallow : depth + height j ≤ nestingLimit)
    (enough : 2 * (write .unicode level j).length + 1 ≤ fuel) (stops : Stops tail) :
    Reads (readValue fuel depth ⟨offset, write .unicode level j ++ tail⟩) j tail := by
  obtain ⟨fuel, rfl⟩ : ∃ n, fuel = n + 1 := ⟨fuel - 1, by omega⟩
  match j with
  | .null | .bool true =>
    exact ⟨offset + 4, by
      simp [write, readValue.eq_2, readScalar, words, Text.startsWith, Cursor.skip]⟩
  | .bool false =>
    exact ⟨offset + 5, by
      simp [write, readValue.eq_2, readScalar, words, Text.startsWith, Cursor.skip]⟩
  | .float _ => exact absurd plain (by simp [Plain])
  | .int n =>
    obtain ⟨c, rest, e, head⟩ := ofInt_head n
    have read := reads_int n offset tail plain stops
    rw [e] at read
    rw [write, e, List.cons_append, readValue_scalar]
    · exact read
    all_goals
      rcases head with isDigit | ⟨rfl, -⟩
      · rintro rfl
        exact absurd isDigit (by decide)
      · decide
  | .str s =>
    obtain ⟨stop, read⟩ := reads_string s tail (offset + 1)
    refine ⟨stop, ?_⟩
    simp [write, writeString, readValue.eq_2, skip_one, read, bind, Except.bind]
  | .arr [] =>
    obtain ⟨next, closed⟩ := skipSpace_front (']' :: tail) (offset + 1) (by simp [isSpace])
    refine ⟨next + 1, ?_⟩
    have room : depth < nestingLimit := by
      simp only [height, heightItems] at shallow
      omega
    simp [write, readValue.eq_2, closed, skip_one, room]
  | .arr (item :: items) =>
    have size := congrArg List.length (write_arr level (item :: items) (by simp) [])
    simp only [List.append_nil, List.length_append, List.length_cons] at size
    simp only [height] at shallow
    exact reads_array (by simp) plain (by omega) fun next =>
      reads_items (item :: items) (by simp) fuel (depth + 1) (level + 1) level next tail plain
        (by omega) (by omega)
  | .obj [] =>
    obtain ⟨next, closed⟩ := skipSpace_front ('\x7d' :: tail) (offset + 1) (by simp [isSpace])
    refine ⟨next + 1, ?_⟩
    have room : depth < nestingLimit := by
      simp only [height, heightFields] at shallow
      omega
    simp [write, readValue.eq_2, closed, skip_one, room]
  | .obj (field :: fields) =>
    have size := congrArg List.length (write_obj level (field :: fields) (by simp) [])
    simp only [List.append_nil, List.length_append, List.length_cons] at size
    simp only [height] at shallow
    exact reads_object (by simp) (by omega) fun next =>
      reads_fields (field :: fields) (by simp) [] fuel (depth + 1) (level + 1) level next tail
        plain.2 plain.1 (by omega) (by omega)

theorem reads_items (items : List Json) (some : items ≠ [])
    (fuel depth level close offset : Nat) (tail : Text) (plain : PlainItems items)
    (shallow : depth + heightItems items ≤ nestingLimit)
    (enough : 2 * (itemsText level items).length + 2 ≤ fuel) :
    Reads (readItems fuel depth
      ⟨offset, itemsText level items ++ (newline close ++ ']' :: tail)⟩) items tail := by
  obtain ⟨fuel, rfl⟩ : ∃ n, fuel = n + 1 := ⟨fuel - 1, by omega⟩
  match items with
  | [item] =>
    simp only [heightItems] at shallow
    simp only [itemsText, writeItems, List.append_nil] at enough
    refine reads_lastItem fun after stops => ?_
    exact reads_value item fuel depth level offset after plain.1 (by omega) (by omega) stops
  | item :: next :: items =>
    have size := congrArg List.length (itemsText_cons level item (next :: items) (by simp) [])
    simp only [List.append_nil, List.length_append, List.length_cons] at size
    rw [heightItems] at shallow
    refine reads_nextItem (by simp) plain.2 (fun after stops => ?_) fun place => ?_
    · exact reads_value item fuel depth level offset after plain.1 (by omega) (by omega) stops
    · exact reads_items (next :: items) (by simp) fuel depth level close place tail plain.2
        (by omega) (by omega)

theorem reads_fields (fields : List (Text × Json)) (some : fields ≠ [])
    (before : List (Text × Json)) (fuel depth level close offset : Nat) (tail : Text)
    (plain : PlainFields fields) (distinct : ((before ++ fields).map Prod.fst).Nodup)
    (shallow : depth + heightFields fields ≤ nestingLimit)
    (enough : 2 * (fieldsText level fields).length + 2 ≤ fuel) :
    Reads (readFields fuel depth before
      ⟨offset, fieldsText level fields ++ (newline close ++ '\x7d' :: tail)⟩) (before ++ fields)
        tail := by
  obtain ⟨fuel, rfl⟩ : ∃ n, fuel = n + 1 := ⟨fuel - 1, by omega⟩
  match fields with
  | [(name, value)] =>
    simp only [heightFields] at shallow
    simp only [fieldsText, writeFields, List.append_nil] at enough
    have new : name ∉ before.map Prod.fst := name_new distinct
    have size := fieldText_length level name value
    refine reads_lastField plain.1 new fun place after stops => ?_
    exact reads_value value fuel depth level place after plain.1 (by omega) (by omega) stops
  | (name, value) :: next :: fields =>
    have new : name ∉ before.map Prod.fst := name_new distinct
    have split := fieldText_length level name value
    have size := congrArg List.length
      (fieldsText_cons level name value (next :: fields) (by simp) [])
    simp only [List.append_nil, List.length_append, List.length_cons] at size
    rw [heightFields] at shallow
    refine reads_nextField (by simp) plain.1 new (fun place after stops => ?_) fun place => ?_
    · exact reads_value value fuel depth level place after plain.1 (by omega) (by omega) stops
    · have read := reads_fields (next :: fields) (by simp) (before ++ [(name, value)]) fuel depth
        level close place tail plain.2 (by simpa using distinct) (by omega) (by omega)
      rwa [List.append_assoc] at read

end

/-- A whole printed text is read as the value that it was printed from, also with a line feed at
its end. -/
theorem parse_pretty (j : Json) (tail : Text) (plain : Plain j) (shallow : height j ≤ nestingLimit)
    (blank : ∀ c ∈ tail, c = '\n') : parse (pretty .unicode j ++ tail) = .ok j := by
  rw [pretty]
  obtain ⟨c, rest, e, notSpace, -, notMark⟩ := write_head j 0 plain
  obtain ⟨start, atStart⟩ := skipSpace_front (write .unicode 0 j ++ tail) 0
    (by simpa [e] using notSpace)
  obtain ⟨stop, read⟩ := reads_value j (2 * (write .unicode 0 j ++ tail).length + 2) 0 0 start tail
    plain (by omega) (by simp only [List.length_append]; omega)
    fun c member => .inr (blank c (List.mem_of_mem_head? member))
  obtain ⟨last, atEnd⟩ := skipSpace_gap tail [] stop
    (fun c member => by rw [blank c member]; rfl) (by simp)
  rw [List.append_nil] at atEnd
  have noMark : ∀ rest, write .unicode 0 j ++ tail ≠ '\uFEFF' :: rest := by
    intro rest same
    rw [e] at same
    exact notMark (List.cons.inj same).1
  rw [parse.eq_2 _ noMark]
  simp only [Cursor.ofText, atStart, read, atEnd, bind, Except.bind, List.isEmpty_nil, if_true]

/-- A numeral beyond the limit is a text of JSON that is not read. -/
theorem parse_ofNat_long (n : Nat) (large : 10 ^ Decimal.digitLimit ≤ n) :
    parse (Text.ofNat n) = .error (.longInteger (Text.ofNat n).length) := by
  obtain ⟨c, digits, e⟩ := List.exists_cons_of_ne_nil (Text.ofNat_ne_nil n)
  have isDigit := Text.ofNat_digits n c (by simp [e])
  have other : ∀ d, Text.isAsciiDigit d = false → c ≠ d := by
    rintro d notDigit rfl
    simp [isDigit] at notDigit
  have notSpace : isSpace c = false := by
    simp [isSpace, other ' ' rfl, other '\t' rfl, other '\n' rfl, other '\r' rfl]
  have noMark : ∀ rest, Text.ofNat n ≠ '\uFEFF' :: rest := by
    intro rest same
    rw [e] at same
    exact other '\uFEFF' rfl (List.cons.inj same).1
  obtain ⟨start, atStart⟩ := skipSpace_front (Text.ofNat n) 0 (by simpa [e] using notSpace)
  have scalar : readValue (2 * (Text.ofNat n).length + 2) 0 ⟨start, Text.ofNat n⟩ =
      readScalar ⟨start, Text.ofNat n⟩ := by
    rw [e]
    exact readValue_scalar _ 0 start c digits (other '"' rfl) (other '\x7b' rfl) (other '[' rfl)
  have number : readScalar ⟨start, Text.ofNat n⟩ = readNumber ⟨start, Text.ofNat n⟩ := by
    simpa [Text.ofInt] using readScalar_number start n []
  obtain ⟨next, refused⟩ := readNumber_digits n start false [] (by simp [Stops])
  rw [if_pos (Text.lt_length_ofNat n large), List.append_nil] at refused
  have refused : readNumber ⟨start, Text.ofNat n⟩ = .error (.longInteger _) := refused
  rw [parse.eq_2 _ noMark, Cursor.ofText, atStart, scalar, number, refused]
  rfl

end BemLint.Json
