/-
# Documents in files

Configurations and replay files are read from files. A file system is a function from paths to
contents, for instance the one of a tree of directories; reading may fail because the path leads
nowhere or to a directory. What was read may fail to have the shape that is asked for.
-/

import TransitHub.Decode.Document
import TransitHub.Json5.Reader

namespace TransitHub

/-- Why a file cannot be read. -/
inductive ReadFault
  | missing
  | notDirectory
  | directory
  | nameTooLong
  | nulInPath
deriving DecidableEq

/-- The wording of a read fault. -/
def ReadFault.message : ReadFault → String
  | missing => "No such file or directory (os error 2)"
  | notDirectory => "Not a directory (os error 20)"
  | directory => "Is a directory (os error 21)"
  | nameTooLong => "File name too long (os error 36)"
  | nulInPath => "file name contained an unexpected NUL byte"

/-- The contents of files by path. -/
abbrev FileSystem := String → Except ReadFault String

/-- Why a document from a file is not available. -/
inductive SourceError
  | unreadable (path : String) (fault : ReadFault)
  | malformed (path : String) (e : DecodeError)

namespace SourceError

/-- The wording of an error, if it has one. -/
def message? : SourceError → Option String
  | unreadable path fault => some ("unable to read " ++ path ++ ": " ++ fault.message)
  | malformed path e => e.message?.map fun text => "unable to parse " ++ path ++ ": " ++ text

end SourceError

/-- Read a value from a JSON5 text. -/
def Json5.decode {α : Type} (dec : Decoder Json5 α) (text : String) : Except DecodeError α :=
  match Json5.read? text with
  | some d => dec d
  | none => .error .mismatch

def FileSystem.load {α : Type} (fs : FileSystem) (read : String → Except DecodeError α)
    (path : String) : Except SourceError α :=
  match fs path with
  | .error fault => .error (.unreadable path fault)
  | .ok text => (read text).mapError (.malformed path)

end TransitHub
