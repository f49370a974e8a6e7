import FlowPlan.Mismatch

/-!
Readers for the fields of mappings. A schema knows its fields in the order of declaration. Fields
are checked in the order of the document, then missing ones are reported in the order of
declaration.
-/

namespace FlowPlan

abbrev Reader (α : Type) :=
  Document → Except Mismatch α

namespace Reader

def text : Reader String
  | .text s => .ok s
  | found => .error (.wrongType found .text)

def path : Reader String
  | .text s => .ok s
  | found => .error (.wrongType found .path)

def number : Reader Float
  | .number n => .ok n.toFloat
  | found => .error (.wrongType found .number)

def count : Reader UInt32
  | .number (.integer n) =>
    if 0 ≤ n ∧ n < 0x100000000 then .ok (UInt32.ofNat n.toNat) else .error (.outOfRange n)
  | found => .error (.wrongType found .count)

def date : Reader Date
  | .text s => (Date.read s).mapError .badDate
  | found => .error (.wrongType found .date)

/-- A sequence of any length; the first wrong item is reported. -/
def listOf {α : Type} (item : Reader α) : Reader (List α)
  | .sequence items => items.mapM item
  | found => .error (.wrongType found .sequence)

def pairOf {α β : Type} (wanted : Wanted) (first : Reader α) (second : Reader β) :
    Reader (α × β)
  | .sequence [] => .error (.tooShort 0 wanted)
  | .sequence [a] => do
    let _ ← first a
    .error (.tooShort 1 wanted)
  | .sequence (a :: b :: rest) => do
    let x ← first a
    let y ← second b
    if rest.isEmpty then return (x, y) else .error (.tooLong (rest.length + 2))
  | found => .error (.wrongType found wanted)

def orNull {α : Type} (read : Reader α) : Reader (Option α)
  | .null => .ok none
  | found => some <$> read found

/-- One of several words, written as a text or as the only key of a mapping to null. -/
def choice {α : Type} (options : List (String × α)) : Reader α
  | .text word => chosen word
  | .mapping [(word, payload)] => do
    let a ← chosen word
    match payload with
    | .null => return a
    | found => .error (.wrongType found .nothing)
  | .mapping _ => .error .severalChoices
  | found => .error (.wrongType found .choice)
where
  /-- The option that a word stands for. -/
  chosen (word : String) : Except Mismatch α :=
    match options.lookup word with
    | some a => .ok a
    | none => .error (.unknownChoice word (options.map (·.1)))

end Reader

/-- The fields of a kind of mapping: how each is checked, and what all of them together build. -/
structure Schema (α : Type) where
  checks : List (String × (Document → Except Mismatch Unit))
  build : Fields → Except Mismatch α

namespace Schema

def keys {α : Type} (schema : Schema α) : List String :=
  schema.checks.map (·.1)

/-- Checks the known fields of a mapping in its own order; others are passed over. -/
def check {α : Type} (schema : Schema α) (fields : Fields) : Except Mismatch Unit :=
  fields.forM fun (key, value) =>
    match schema.checks.lookup key with
    | some check => check value
    | none => .ok ()

def read {α : Type} (schema : Schema α) (fields : Fields) : Except Mismatch α := do
  schema.check fields
  schema.build fields

/-- A single field; `absent` is its value when the mapping lacks it. -/
def field {α : Type} (name : String) (read : Reader α) (absent : Except Mismatch α) : Schema α where
  checks := [(name, fun value => (read value).map fun _ => ())]
  build fields :=
    match fields.value? name with
    | some value => read value
    | none => absent

def required {α : Type} (name : String) (read : Reader α) : Schema α :=
  field name read (.error (.missing name))

def optional {α : Type} (name : String) (read : Reader α) : Schema (Option α) :=
  field name (Reader.orNull read) (.ok none)

def defaulted {α : Type} (name : String) (default : α) (read : Reader α) : Schema α :=
  field name read (.ok default)

instance : Functor Schema where
  map f schema := { checks := schema.checks, build := fun fields => f <$> schema.build fields }

instance : Applicative Schema where
  pure a := { checks := [], build := fun _ => .ok a }
  seq f x :=
    { checks := f.checks ++ (x ()).checks
      build := fun fields => do
        let g ← f.build fields
        let a ← (x ()).build fields
        return g a }

end Schema

end FlowPlan
