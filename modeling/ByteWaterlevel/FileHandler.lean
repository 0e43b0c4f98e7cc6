import ByteWaterlevel.Support.Json
import Mathlib.Logic.Function.Basic

/-!
# File handler

The configuration exists twice: as a file on the flash file system and as the
document `config` in memory.  `FileHandler` reads and writes both.

The file system carries its own faults.  A file that exists may still refuse
to be opened, an open for writing may fail, and a write may store only the
first part of its text; an open for writing that succeeds truncates the file
before anything is written.
-/

namespace ByteWaterlevel

/-- The flash file system.  A path without content does not exist. -/
structure LittleFS where
  content : String → Option String
  readable : String → Bool
  writable : String → Bool
  /-- How many characters a write to the path stores at most. -/
  room : String → ℕ

namespace LittleFS

def fileExists (fs : LittleFS) (path : String) : Bool :=
  (fs.content path).isSome

/-- `open(path, "r")`, with the text that the opened file holds. -/
def openRead (fs : LittleFS) (path : String) : Option String :=
  if fs.readable path then fs.content path else none

/-- `open(path, "w")` followed by writing `text` and closing.  Writing to a
file that did not open has no effect. -/
def writeText (fs : LittleFS) (path text : String) : LittleFS :=
  if fs.writable path then
    { fs with
      content := Function.update fs.content path
        (some (String.ofList (text.toList.take (fs.room path)))) }
  else fs

end LittleFS

namespace FileHandler

def configPath : String := "/config.json"

def backupPath : String := "/config.json.bak"

/-- The flash and the configuration in memory. -/
structure State where
  flash : LittleFS
  config : Json

/-- An empty flash without faults, and no configuration. -/
def emptyState : State where
  flash :=
    { content := fun _ => none
      readable := fun _ => true
      writable := fun _ => true
      room := fun _ => 4096 }
  config := .null

/-- A flash without faults that holds only a configuration file. -/
def flashWith (text : String) : LittleFS :=
  { emptyState.flash with
    content := fun path => if path = configPath then some text else none }

/-- The text of a file, empty if the file does not open. -/
def readFile (fs : LittleFS) (path : String) : String :=
  (fs.openRead path).getD ""

/-- Writes the text and, as `println` does, a line break after it. -/
def saveFile (path text : String) (fs : LittleFS) : LittleFS :=
  fs.writeText path (text ++ "\r\n")

def copyFile (source destination : String) (fs : LittleFS) :
    Bool × LittleFS :=
  (true, saveFile destination (readFile fs source) fs)

def reset (s : State) : State :=
  { s with flash := (copyFile backupPath configPath s.flash).2 }

def getConfig (s : State) : Json := s.config

def saveConfig (object : Json) (s : State) : State :=
  { s with config := object }

/-- Installs the backup if there is no configuration file, then parses the
configuration file.  The parser's error is not looked at. -/
def loadConfig (lib : ArduinoJson) (s : State) : State :=
  let flash :=
    if s.flash.fileExists configPath then s.flash
    else (copyFile backupPath configPath s.flash).2
  { flash := flash
    config := (lib.deserializeJson (readFile flash configPath)).doc }

/-! ## Merging the backup into the configuration -/

mutual

/-- Merges the source into the target.  A source that is not an object changes
nothing. -/
def mergeJsonObjects (target : Json) : Json → Json
  | .obj members => mergeMembers target members
  | _ => target

/-- The loop over the members of the source.  The member of the target that
the recursive call works on is replaced in its place. -/
def mergeMembers (target : Json) : List (String × Json) → Json
  | [] => target
  | (key, value) :: rest =>
      let target :=
        if value.isObject then
          let target :=
            if !(target.get key).isObject then
              let target := target.toJsonObject.createNestedObject key
              target.set key (target.get key)
            else target
          target.set key (mergeJsonObjects (target.get key) value)
        else if !target.containsKey key then target.set key value
        else target
      mergeMembers target rest

end

/-- The document that the configuration file is merged from: empty if the file
does not open or does not parse. -/
def readConfigDoc (lib : ArduinoJson) (path : String) (fs : LittleFS) :
    Json :=
  match fs.openRead path with
  | none => .null
  | some text =>
      let parsed := lib.deserializeJson text
      if parsed.error then .null else parsed.doc

/-- Merges the keys of the backup into the configuration file. -/
def mergeConfigFromBackup (lib : ArduinoJson)
    (serializeJsonPretty : Json → String) (configPath backupPath : String)
    (fs : LittleFS) : Bool × LittleFS :=
  match fs.openRead backupPath with
  | none => (false, fs)
  | some text =>
      let backup := lib.deserializeJson text
      if backup.error then (false, fs)
      else
        let configDoc :=
          mergeJsonObjects (readConfigDoc lib configPath fs) backup.doc
        if fs.writable configPath then
          (true, fs.writeText configPath (serializeJsonPretty configDoc))
        else (false, fs)

end FileHandler
end ByteWaterlevel
