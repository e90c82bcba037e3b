import TapeMachine.Encoding.Name
import TapeMachine.File.Tree
import TapeMachine.Program.Source
import TapeMachine.Stream
import TapeMachine.Text.Newline

/-!
# Loading a program from a file

The bytes of the file are decoded, line ends are unified, and the text is loaded under the path as
it was given.  Null characters are looked for first, and the file before the encoding.
-/

set_option autoImplicit false

namespace TapeMachine

inductive ReadCause where
  | file (fault : FileFault)
  | decoding (fault : DecodeFault)
  | stream (fault : StreamFault)
  deriving DecidableEq, Repr

namespace ReadCause

def message : ReadCause → String
  | file fault => fault.message
  | decoding fault => fault.message
  | stream fault => fault.message

end ReadCause

structure ReadFault where
  path : String
  cause : ReadCause
  deriving DecidableEq, Repr

namespace ReadFault

def message (fault : ReadFault) : String :=
  "LoadError: could not read program " ++ fault.path ++ ": " ++ fault.cause.message

end ReadFault

inductive SourceFault where
  | unmatched (fault : UnmatchedBracket)
  | unreadable (fault : ReadFault)
  | nullInEncoding
  | nullInPath
  | unknownEncoding (name : String)
  | noByteOrderMark
  deriving DecidableEq, Repr

namespace SourceFault

/-- Whether the failure is one made for people to read. -/
def isReport : SourceFault → Bool
  | unmatched _ | unreadable _ => true
  | nullInEncoding | nullInPath | unknownEncoding _ | noByteOrderMark => false

def message : SourceFault → String
  | unmatched fault => fault.message
  | unreadable fault => fault.message
  | nullInEncoding => "embedded null character"
  | nullInPath => "embedded null byte"
  | unknownEncoding name => "unknown encoding: " ++ name
  | noByteOrderMark => "UTF-16 stream does not start with BOM"

end SourceFault

namespace Program

def usualEncoding : String := "utf-8"

def sourceText (path : String) (encoding : Encoding) (bytes : List UInt8) :
    Except SourceFault String :=
  match encoding.decode bytes with
  | .ok chars => .ok (String.ofList (Text.unifyLineEnds chars))
  | .error (.undecodable fault) => .error (.unreadable ⟨path, .decoding fault⟩)
  | .error .noByteOrderMark => .error .noByteOrderMark

def hasNull (text : String) : Bool := text.toList.contains (Char.ofNat 0)

def readSource (files : FileReader) (path encoding : String) : Except SourceFault String :=
  let plain := Path.ofString path
  if hasNull encoding then .error .nullInEncoding
  else if hasNull path then .error .nullInPath
  else
    match files plain, Encoding.ofName? encoding with
    | .error trouble, _ => .error (.unreadable ⟨path, .file ⟨plain, trouble⟩⟩)
    | .ok _, none => .error (.unknownEncoding encoding)
    | .ok bytes, some found => sourceText path found bytes

def ofFile (files : FileReader) (path encoding : String) : Except SourceFault Program :=
  match readSource files path encoding with
  | .error fault => .error fault
  | .ok source => (ofSource source path).mapError SourceFault.unmatched

end Program

end TapeMachine
