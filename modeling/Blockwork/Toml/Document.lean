import Blockwork.Toml.Statement

/-!
# TOML documents

The statements of a text build a tree of tables. A table that is only implied by the key of
something inside it may still be given a header once, and what a list was written about may be
replaced; anything else that is there already may not be defined again. The document also keeps its
keys in the order in which they were written.
-/

namespace Blockwork
namespace Toml

/-- A value. -/
inductive Value where
  /-- A text. -/
  | text (value : Bytes)
  /-- An integer. -/
  | integer (value : Int)
  /-- A number with a fraction. -/
  | float
  /-- A truth value. -/
  | boolean (value : Bool)
  /-- A moment in time. -/
  | moment
  /-- A list. -/
  | array (items : List Value)
  /-- A table. -/
  | table (entries : List (Bytes × Value))
  /-- A list of tables that were given headers. -/
  | elements (tables : List (List (Bytes × Value)))

/-- The names in a table with their values, in the order in which they were written. -/
abbrev Entries := List (Bytes × Value)

namespace Entries

/-- Sets the value of a name. -/
def assign (name : Bytes) (value : Value) : Entries → Entries
  | [] => [(name, value)]
  | (other, old) :: rest =>
    if other = name then (name, value) :: rest else (other, old) :: assign name value rest

/-- The table that a path leads to; of a list of tables the last counts. -/
def reach? : Key → Entries → Option Entries
  | [], entries => some entries
  | name :: rest, entries =>
    match entries.lookup name with
    | some (.table inner) => reach? rest inner
    | some (.elements tables) => tables.getLast?.bind (reach? rest)
    | _ => none

/-- Changes the table that a path leads to. -/
def change (edit : Entries → Option Entries) : Key → Entries → Option Entries
  | [], entries => edit entries
  | name :: rest, entries =>
    match entries.lookup name with
    | some (.table inner) => do
      let inner ← change edit rest inner
      some (assign name (.table inner) entries)
    | some (.elements tables) => do
      let last ← tables.getLast?
      let last ← change edit rest last
      some (assign name (.elements (tables.dropLast ++ [last])) entries)
    | _ => none

/-- The value that a path leads to through tables. -/
def get? : Key → Entries → Option Value
  | [], entries => some (.table entries)
  | [name], entries => entries.lookup name
  | name :: rest, entries =>
    match entries.lookup name with
    | some (.table inner) => get? rest inner
    | _ => none

end Entries

/-- A document under construction. -/
structure Assembly where
  /-- What has been defined. -/
  root : Entries := []
  /-- The tables that are there only because of something inside them. -/
  implied : List Key := []
  /-- The keys about which a list was written last. -/
  listed : List Key := []
  /-- The keys in the order in which they were written. -/
  keys : List Key := []

/-- A step of the construction of a document. -/
abbrev Assembling := StateT Assembly Option

namespace Assembling

/-- Notes that a table is implied. -/
def imply (path : Key) : Assembling Unit :=
  modify fun state => { state with implied := path :: state.implied }

/-- Notes whether what was written about a key is a list. -/
def setListed (path : Key) (listed : Bool) : Assembling Unit :=
  modify fun state =>
    let others := state.listed.filter (· ≠ path)
    { state with listed := if listed then path :: others else others }

/-- The key that a value written under a key tells about: an empty name inside a table tells about
the table. -/
def subject (path : Key) : Key :=
  if path.getLast? = some [] ∧ 1 < path.length then path.dropLast else path

/-- Notes a key. -/
def record (path : Key) : Assembling Unit :=
  modify fun state => { state with keys := state.keys ++ [path] }

/-- Changes the table that a path leads to. -/
def changeAt (path : Key) (edit : Entries → Option Entries) : Assembling Unit := do
  let state ← get
  let root ← (state.root.change edit path : Option Entries)
  set { state with root }

/-- Defines a name in a table. If it is there, it has to be a list, which is replaced, or a table
that was only implied, which stays and is implied no longer. -/
def define (context : Key) (name : Bytes) (value : Value) : Assembling Unit := do
  let state ← get
  let path := context ++ [name]
  let entries ← (state.root.reach? context : Option Entries)
  if (entries.lookup name).isNone then
    changeAt context fun entries => some (entries.assign name value)
  else if state.listed.contains path then
    changeAt context fun entries => some (entries.assign name value)
  else if !state.implied.contains path then failure
  modify fun state =>
    if (entries.lookup name).isSome then
      { state with implied := state.implied.filter (· ≠ path) }
    else state

/-- Implies the tables on the way to a path, as far as they are missing. `before` is the way so
far. -/
def prepare (before : Key) : Key → Assembling Unit
  | [] => pure ()
  | name :: rest => do
    let state ← get
    let entries ← (state.root.reach? before : Option Entries)
    if (entries.lookup name).isNone then
      imply (before ++ [name])
      changeAt before fun entries => some (entries.assign name (.table []))
    prepare (before ++ [name]) rest

/-- Opens a table. -/
def openTable (path : Key) : Assembling Unit := do
  prepare [] path.dropLast
  define path.dropLast (path.getLast?.getD []) (.table [])

/-- Opens a new element of a list of tables. -/
def openElement (path : Key) : Assembling Unit := do
  prepare [] path.dropLast
  let name := path.getLast?.getD []
  changeAt path.dropLast fun entries =>
    match entries.lookup name with
    | none => some (entries.assign name (.elements [[]]))
    | some (.elements tables) => some (entries.assign name (.elements (tables ++ [[]])))
    | some _ => none

/-- Implies the tables that the key of a pair names. -/
def openImplied (context : Key) : Key → Assembling Key
  | [] => pure context
  | name :: rest => do
    let path := context ++ [name]
    imply path
    openTable path
    openImplied path rest

mutual

/-- The value of an expression at a path. What is defined inside it is defined in the document as
well. -/
def evaluate (path : Key) (inArray : Bool) : Expression → Assembling Value
  | .text value => pure (.text value)
  | .integer value => pure (.integer value)
  | .float => pure .float
  | .boolean value => pure (.boolean value)
  | .moment => pure .moment
  | .array items => do
    setListed (subject path) true
    let values ← evaluateItems path items
    pure (.array values)
  | .table pairs => do
    imply path
    if inArray then openElement path else openTable path
    let entries ← evaluatePairs path [] pairs
    pure (.table entries)

/-- The values of the items of a list. -/
def evaluateItems (path : Key) : List Expression → Assembling (List Value)
  | [] => pure []
  | first :: rest => do
    let value ← evaluate path true first
    let values ← evaluateItems path rest
    pure (value :: values)

/-- The values of pairs by the last names of their keys; of pairs with the same last name the last
counts. `entries` are those of the pairs before. -/
def evaluatePairs (context : Key) (entries : Entries) :
    List (Key × Expression) → Assembling Entries
  | [] => pure entries
  | first :: rest => do
    let (name, value) ← evaluatePair context first
    evaluatePairs context (entries.assign name value) rest

/-- Defines a pair: its last name and its value. -/
def evaluatePair (context : Key) : Key × Expression → Assembling (Bytes × Value)
  | (path, expression) => do
    let context ← openImplied context path.dropLast
    let name := path.getLast?.getD []
    let place := context ++ [name]
    record place
    let value ← evaluate place false expression
    define context name value
    setListed (subject place) (match expression with
      | .array _ => true
      | _ => false)
    pure (name, value)

end

/-- Adds statements to a document. `context` is the table of the last header. -/
def addStatements (context : Key) : List Statement → Assembling Unit
  | [] => pure ()
  | .table path :: rest => do
    openTable path
    setListed path false
    record path
    addStatements path rest
  | .element path :: rest => do
    openElement path
    setListed path false
    record path
    addStatements path rest
  | .pair path value :: rest => do
    let _ ← evaluatePair context (path, value)
    addStatements context rest

end Assembling

/-- A document. -/
structure Document where
  /-- The outermost table. -/
  root : Entries
  /-- The keys in the order in which they were written. -/
  keys : List Key

namespace Document

/-- The document that a text describes, if it is well formed. -/
def parse? (text : Bytes) : Option Document := do
  let statements ← statements? text
  let ((), state) ← (Assembling.addStatements [] statements).run {}
  some ⟨state.root, state.keys⟩

/-- The value of a key. -/
def get? (document : Document) (path : Key) : Option Value := document.root.get? path

/-- Whether a key has a value. -/
def defines (document : Document) (path : List String) : Bool :=
  (document.get? (path.map utf8)).isSome

end Document

namespace Key

/-- A character of a name between double marks. -/
def escapeByte (byte : UInt8) : Bytes :=
  if byte = 34 then utf8 "\\\""
  else if byte = 92 then utf8 "\\\\"
  else if byte = 8 then utf8 "\\b"
  else if byte = 9 then utf8 "\\t"
  else if byte = 10 then utf8 "\\n"
  else if byte = 12 then utf8 "\\f"
  else if byte = 13 then utf8 "\\r"
  else if byte < 32 ∨ byte = 127 then utf8 "\\u" ++ Bytes.lowerHex 4 byte.toNat
  else [byte]

/-- A name as it stands in a key: in double marks unless it needs none. -/
def nameText (name : Bytes) : Bytes :=
  let isPlain (byte : UInt8) : Bool := byte < 128 && isNameChar (Char.ofNat byte.toNat)
  if name ≠ [] ∧ name.all isPlain then name
  else utf8 "\"" ++ name.flatMap escapeByte ++ utf8 "\""

/-- The text of a key. -/
def text (path : Key) : Bytes := Bytes.join (utf8 ".") (path.map nameText)

end Key
end Toml
end Blockwork
