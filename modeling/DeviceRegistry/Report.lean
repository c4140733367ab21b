import DeviceRegistry.Credential.Codec
import DeviceRegistry.Device.Codec
import DeviceRegistry.Json.Printer
import DeviceRegistry.Yaml.Printer

/-!
# `DeviceRegistry.Report`: what a command reports

What a command reports is a document, or something for people to read: credentials as a table, a
device as a list of lines. A `Format` is one of these forms; all but `table` write the document.

A `Grid` is a table with borders. It has a row of headings and rows of cells below a line. Every
column is as wide as its widest cell, with a blank on both sides. Without rows, the line below the
headings is the last.
-/

set_option autoImplicit false

namespace DeviceRegistry

/-! ### Formats -/

/-- A form of output. -/
inductive Format where
  | table
  | json
  | compactJson
  | yaml
  deriving DecidableEq, Repr

namespace Format

/-- All formats. -/
def all : List Format := [.table, .json, .compactJson, .yaml]

/-- The name of a format. -/
def name : Format → String
  | table => "table"
  | json => "json"
  | compactJson => "json-compact"
  | yaml => "yaml"

/-- The format with a name. -/
def ofName? (name : String) : Option Format := all.find? fun f => f.name = name

/-- The format with a name in letters of any case. -/
def ofAnyCase? (name : String) : Option Format := ofName? (name.map Char.toLower)

/-- Writes a document in a format. -/
def render : Format → Json.Value → String
  | table, v => v.renderPretty
  | json, v => v.renderPretty
  | compactJson, v => v.render
  | yaml, v => Yaml.render v

end Format

/-! ### Tables -/

/-- A table. Every row has a cell for each heading. -/
structure Grid where
  headings : List String
  rows : List (List String)
  deriving DecidableEq, Repr

namespace Grid

/-- The widths of the columns. -/
def widths (g : Grid) : List Nat :=
  g.rows.foldl (fun ws row => List.zipWith (fun w cell => max w cell.length) ws row)
    (g.headings.map String.length)

/-- A line of cells. -/
def rowText (widths : List Nat) (row : List String) : String :=
  let cell (w : Nat) (text : String) : String :=
    " " ++ text ++ String.ofList (List.replicate (w - text.length) ' ') ++ " "
  "│" ++ String.intercalate "│" (List.zipWith cell widths row) ++ "│"

/-- A line between rows, with its left end, its crossings and its right end. -/
def ruleText (left crossing right : String) (widths : List Nat) : String :=
  let dash (w : Nat) : String := String.ofList (List.replicate (w + 2) '─')
  left ++ String.intercalate crossing (widths.map dash) ++ right

/-- The text of a table. -/
def text (g : Grid) : String :=
  let ws := g.widths
  let above := [ruleText "╭" "┬" "╮" ws, rowText ws g.headings, ruleText "├" "┼" "┤" ws]
  let below := if g.rows.isEmpty then [] else g.rows.map (rowText ws) ++ [ruleText "╰" "┴" "╯" ws]
  String.intercalate "\n" (above ++ below)

end Grid

/-! ### What people read -/

/-- How the flag of what may be used is shown. -/
def flagText : Option Bool → String
  | some true => "yes"
  | some false => "no"
  | none => "yes (default)"

/-- Credentials as a table. -/
def Credential.grid (cs : List Credential) : Grid where
  headings := ["Type", "Auth ID", "Enabled", "Secrets"]
  rows := cs.map fun c =>
    [c.typeName, c.info.authId, flagText c.info.enabled, Nat.repr c.secrets.count]

/-- Writes credentials in a format. -/
def Credential.report (format : Format) (cs : List Credential) : String :=
  match format with
  | .table => (grid cs).text
  | f => f.render (.array (cs.map Credential.document))

/-- Names in a line, or a dash when nothing would show. -/
def namesText (names : List String) : String :=
  let joined := String.intercalate ", " names
  if joined = "" then "-" else joined

/-- A device as a list of lines. -/
def Device.detail (d : Device) : String :=
  String.intercalate "\n"
    ["Enabled:     " ++ flagText d.enabled,
      "Via:         " ++ namesText d.via,
      "Via Groups:  " ++ namesText d.viaGroups,
      "Member Of:   " ++ namesText d.memberOf,
      "Mapper:      " ++ d.mapper.getD "-",
      "Authorities: " ++ namesText d.authorities,
      "Extensions:  " ++ namesText (Json.Members.names d.extensions)]

/-- Writes a device in a format. -/
def Device.report (format : Format) (d : Device) : String :=
  match format with
  | .table => d.detail
  | f => f.render d.document

end DeviceRegistry
