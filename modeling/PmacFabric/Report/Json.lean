import PmacFabric.Report.Basic
import PmacFabric.Text.Hex

/-!
# Reports as JSON

A report is stored as a JSON object with one member per line, two blanks of indentation per level,
and the members in the order of the fields.
-/

namespace PmacFabric

/-- The JSON values that a report is made of. -/
inductive JsonValue where
  | null
  | number (n : Nat)
  | string (text : String)
  | array (items : List JsonValue)
  | object (members : List (String × JsonValue))

namespace JsonValue

private def escapedChar (c : Char) : List Char :=
  match c with
  | '"' => ['\\', '"']
  | '\\' => ['\\', '\\']
  | '\n' => ['\\', 'n']
  | '\r' => ['\\', 'r']
  | '\t' => ['\\', 't']
  | '\x08' => ['\\', 'b']
  | '\x0c' => ['\\', 'f']
  | c => if c.toNat < 32 then ['\\', 'u', '0', '0'] ++ Hex.octet (UInt8.ofNat c.toNat) else [c]

/-- A text between double quotes. -/
def quote (text : String) : String :=
  String.ofList (['"'] ++ text.toList.flatMap escapedChar ++ ['"'])

/-- Items between brackets, one per line; nothing between them if there are no items. -/
private def block (opening closing indent : String) (items : List String) : String :=
  if items.isEmpty then opening ++ closing
  else
    opening ++ "\n" ++ ",\n".intercalate (items.map fun item => indent ++ "  " ++ item) ++
      "\n" ++ indent ++ closing

mutual

/-- Writes a value that starts behind `indent`. -/
def pretty (indent : String) : JsonValue → String
  | .null => "null"
  | .number n => toString n
  | .string text => quote text
  | .array items => block "[" "]" indent (prettyItems (indent ++ "  ") items)
  | .object members => block "\x7b" "\x7d" indent (prettyMembers (indent ++ "  ") members)

def prettyItems (indent : String) : List JsonValue → List String
  | [] => []
  | item :: rest => item.pretty indent :: prettyItems indent rest

def prettyMembers (indent : String) : List (String × JsonValue) → List String
  | [] => []
  | (name, value) :: rest =>
    (quote name ++ ": " ++ value.pretty indent) :: prettyMembers indent rest

end

end JsonValue

def ManagerReport.toJson (report : ManagerReport) : JsonValue :=
  .object
    [("directory_size", .number report.directorySize),
      ("registrations", .number report.registrations),
      ("queries", .number report.queries),
      ("hits", .number report.hits),
      ("misses", .number report.misses),
      ("floods", .number report.floods),
      ("rejected", .number report.rejected)]

def SwitchReport.toJson (report : SwitchReport) : JsonValue :=
  .object
    [("name", .string report.name),
      ("identity", .string report.identity),
      ("received", .number report.received),
      ("transmitted", .number report.transmitted),
      ("dropped", .object (report.dropped.map fun (reason, count) => (reason, .number count))),
      ("pmac_entries", .number report.pmacEntries)]

def Report.toJson (report : Report) : JsonValue :=
  .object
    [("k", .number report.k),
      ("seed", report.seed.elim .null .number),
      ("sent", .number report.sent),
      ("delivered", .number report.delivered),
      ("pending", .number report.pending),
      ("num_events", .number report.numEvents),
      ("fabric_manager", report.manager.toJson),
      ("switches", .array (report.switches.map SwitchReport.toJson))]

end PmacFabric
