import DynamicDns.Json.Choice
import DynamicDns.Json.Printer
import DynamicDns.Registry

/-! # Settings

The list of the records to keep up to date. Of the keys of a record four are common to all
providers; the other keys are kept as they are and handed to the provider. Settings are accepted
if they list at least one record and every record has a domain and a host that are not blank.
-/

namespace DynamicDns

open Json (Choice Decoded Members Tree)
open Text

structure RecordSettings where
  provider : Provider
  domain : String
  host : String
  version : IpVersion
  /-- The keys for the provider. -/
  params : Members
  deriving Repr

structure Settings where
  records : List RecordSettings
  deriving Repr

/-! ## Names -/

def Provider.choice : Choice Provider := Provider.all.map fun p => (p.name, p)

def IpVersion.choice : Choice IpVersion := [IpVersion.ipv4, IpVersion.ipv6].map fun v => (v.name, v)

/-! ## Reading -/

namespace RecordSettings

/-- What was read of a record so far. -/
structure Draft where
  provider : Option Provider := none
  domain : Option String := none
  host : Option String := none
  version : Option IpVersion := none
  params : Members := []

def providerKey : String := "provider"

def domainKey : String := "domain"

def hostKey : String := "host"

def versionKey : String := "ip_version"

/-- A common key may stand in a record once. -/
def once {α : Type} (key : String) (old : Option α) (decode : Tree → Decoded α) (t : Tree) :
    Decoded (Option α) :=
  if old.isSome then .error (.mismatch (.duplicateField key)) else (decode t).map some

/-- The values for the provider are inside the document, the list of records and the record. -/
def paramDepth : Nat := Json.maxDepth - 3

def Draft.add (d : Draft) (key : String) (t : Tree) : Decoded Draft :=
  if key = providerKey then
    (once key d.provider (Tree.asChoice Provider.choice) t).map fun provider => { d with provider }
  else if key = domainKey then
    (once key d.domain Tree.asString t).map fun domain => { d with domain }
  else if key = hostKey then
    (once key d.host Tree.asString t).map fun host => { d with host }
  else if key = versionKey then
    (once key d.version (Tree.asChoice IpVersion.choice) t).map fun version => { d with version }
  else
    (Tree.value paramDepth t).map fun v => { d with params := Json.insert key v d.params }

/-- Only the family may be absent; it is IPv4 then. -/
def Draft.finish (d : Draft) : Decoded RecordSettings :=
  match d.provider, d.domain, d.host with
  | none, _, _ => .error (.mismatch (.missingField providerKey))
  | _, none, _ => .error (.mismatch (.missingField domainKey))
  | _, _, none => .error (.mismatch (.missingField hostKey))
  | some provider, some domain, some host =>
    .ok ⟨provider, domain, host, d.version.getD .ipv4, d.params⟩

def decode (t : Tree) : Decoded RecordSettings :=
  match t with
  | .object members ending => do
    let draft ← Tree.foldMembers Draft.add {} members
    Tree.checkClosed ending
    draft.finish
  | _ => .error (t.unexpected (Json.structureName "RecordSettings"))

/-- Which of the two names is blank, if one is. -/
def fault? (r : RecordSettings) : Option String :=
  if Blank.isBlankText r.domain then some "domain cannot be empty"
  else if Blank.isBlankText r.host then some "host cannot be empty"
  else none

end RecordSettings

namespace Settings

def decode (t : Tree) : Decoded Settings :=
  (t.onlyFieldOr "Settings" "settings" [] (Tree.asArray RecordSettings.decode)).map Settings.mk

/-- The first record with a fault, counted from a number on. -/
def firstFault? (number : Nat) : List RecordSettings → Option (Nat × String)
  | [] => none
  | r :: rest =>
    match r.fault? with
    | some fault => some (number, fault)
    | none => firstFault? (number + 1) rest

def validate (s : Settings) : Except Error Unit :=
  if s.records.isEmpty then .error (.settings "no records configured")
  else
    match firstFault? 1 s.records with
    | some (number, fault) =>
      .error (.settings ("record " ++ Numeral.decimal number ++ ": "
        ++ (Error.settings fault).message))
    | none => .ok ()

def ofText (text : String) : Except Error Settings := do
  let settings ← (Json.decodeText decode text).mapError fun p => Error.settings p.message
  settings.validate
  .ok settings

/-- The settings in a file, of which the content or the reason why it cannot be read is given. -/
def ofFile (path : String) : Except String String → Except Error Settings
  | .ok text => ofText text
  | .error reason => .error (.settings ("reading " ++ path ++ ": " ++ reason))

end Settings

/-! ## Writing -/

def RecordSettings.toJson (r : RecordSettings) : Json :=
  .object (Json.ofMembers
    ([(providerKey, .string r.provider.name), (domainKey, .string r.domain),
      (hostKey, .string r.host), (versionKey, .string r.version.name)] ++ r.params))

def Settings.toJson (s : Settings) : Json :=
  .object [("settings", .array (s.records.map RecordSettings.toJson))]

/-! ## Making updaters -/

def RecordSettings.build (registry : Registry) (r : RecordSettings) : Except Error Updater :=
  registry.create r.provider (.object r.params) r.domain r.host r.version

/-- The updaters of all records in order, or the error of the first record that has none. -/
def Settings.build (registry : Registry) (s : Settings) : Except Error (List Updater) :=
  s.records.mapM (RecordSettings.build registry)

end DynamicDns
