import Registry.CoreYaml.Reader
import Registry.Disk
import Registry.Ini.Reader
import Registry.Json.Reader
import Registry.Json5.Reader
import Registry.Ron.Reader
import Registry.Toml.Reader

/-!
# Formats of settings files

The formats that settings files may have, told apart by the endings of their names, and where a
settings file is looked for.
-/

namespace Registry.Settings

inductive Format where
  | toml
  | json
  | yaml
  | ini
  | ron
  | json5
  deriving DecidableEq, Repr

def endings : List (String × Format) :=
  [("toml", .toml), ("json", .json), ("yaml", .yaml), ("yml", .yaml), ("ini", .ini), ("ron", .ron),
    ("json5", .json5)]

def format? (path : String) : Option Format := do
  let name := (Text.pieces '/' path).getLast?.getD path
  let (stem, ending) ← Text.cutAtLast? '.' name
  if stem.isEmpty then none else endings.lookup ending

mutual

/-- A value whose integers have 64 bits and a sign; larger ones become binary64 numbers. -/
def narrowed : Value → Value
  | .number (.integer z) =>
    if Decimal.fitsSigned z then .number (.integer z)
    else .number (.real (Decimal.mk z.toNat 0).toFloat)
  | .sequence items => .sequence (narrowedItems items)
  | .mapping fields => .mapping (narrowedFields fields)
  | v => v

def narrowedItems : List Value → List Value
  | [] => []
  | v :: vs => narrowed v :: narrowedItems vs

def narrowedFields : List (String × Value) → Fields
  | [] => []
  | (key, v) :: rest => (key, narrowed v) :: narrowedFields rest

end

def fieldsOf? (format : Format) (text : String) : Option Fields :=
  match format with
  | .toml => Toml.read? text
  | .json => (Json.read? text).bind fun v => (narrowed v).fields?
  | .yaml => (CoreYaml.read? text).bind Value.fields?
  | .ini => Ini.read? text
  | .ron => (Ron.read? text).bind Value.fields?
  | .json5 => (Json5.read? text).bind Value.fields?

/-- The paths at which a settings file may be, besides its own. -/
def variants (path : String) : List String :=
  let names := (Text.pieces '/' path).reverse.dropWhile fun name => name == "" || name == "."
  if names.head?.all (· == "..") then []
  else
    let stem := String.intercalate "/" names.reverse
    endings.map fun (ending, _) => stem ++ "." ++ ending

/-- Where a settings file is: at its path if there is a file, else at the first of the variants that
is a file. -/
def filePath? (d : Disk) (path : String) : Option String :=
  (path :: variants path).find? fun path => (d.readBytes path).isSome

/-- The format and text of a settings file; the text has to be well formed. -/
def find? (d : Disk) (path : String) : Option (Format × String) := do
  let path ← filePath? d path
  let format ← format? path
  let text ← d.readText path
  some (format, text)

end Registry.Settings
